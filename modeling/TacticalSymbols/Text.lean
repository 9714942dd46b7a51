/-!
Text: letter case, white space at the ends, and decimal digits. Only the twenty-six letters of ASCII
have a case here: every other character, an accented letter included, stands for itself. White space
is what the Unicode property `White_Space` names; the control characters of ASCII that it leaves out
are not white space here either.
-/

namespace TacticalSymbols.Text

/-! ### Letter case -/

/-- Capitalises the letters `a` to `z` and leaves every other character alone. -/
def upper (text : String) : String :=
  String.ofList (text.toList.map Char.toUpper)

/-- Two texts that differ at most in the case of ASCII letters. -/
def sameLetters (left right : String) : Bool :=
  left.toList.map Char.toUpper == right.toList.map Char.toUpper

/-- What is left of a name once its separators and the case of its letters are dropped. -/
def bareName (name : String) : List Char :=
  (name.toList.filter Char.isAlphanum).map Char.toLower

theorem upper_toList (text : String) : (upper text).toList = text.toList.map Char.toUpper :=
  String.toList_ofList

theorem sameLetters_iff (left right : String) :
    sameLetters left right = true ↔ upper left = upper right := by
  rw [sameLetters, beq_iff_eq, ← upper_toList, ← upper_toList, String.toList_inj]

/-! ### White space -/

/-- The property `White_Space`: tab to carriage return, the space, and the wider spaces. -/
def isBlank (character : Char) : Bool :=
  let code := character.toNat
  (0x09 ≤ code && code ≤ 0x0D) || code == 0x20 || code == 0x85 || code == 0xA0 ||
    code == 0x1680 || (0x2000 ≤ code && code ≤ 0x200A) || code == 0x2028 || code == 0x2029 ||
    code == 0x202F || code == 0x205F || code == 0x3000

/-- The characters between the first and the last that is not white space. -/
def trimBlank (characters : List Char) : List Char :=
  ((characters.dropWhile isBlank).reverse.dropWhile isBlank).reverse

def trim (text : String) : String :=
  String.ofList (trimBlank text.toList)

/-! ### Digits -/

/-- The number whose digits are those of the value and one more. -/
def appendDigit (value : Nat) (digit : Char) : Nat :=
  10 * value + (digit.toNat - '0'.toNat)

def digitsValue (digits : List Char) : Nat :=
  digits.foldl appendDigit 0

/-- At least one digit, and no superfluous zero in front. -/
def isWholeNumber (digits : List Char) : Bool :=
  digits.all Char.isDigit && !digits.isEmpty && (digits.head? != some '0' || digits.length == 1)

end TacticalSymbols.Text

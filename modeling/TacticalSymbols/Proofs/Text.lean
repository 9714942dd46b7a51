import Mathlib.Data.List.Induction
import Mathlib.Data.List.TakeWhile
import TacticalSymbols.Text

/-!
Text: the order of its bytes, separators and decimal digits. The order of texts is the order of their
bytes in UTF-8, since of two different characters the lesser has the lesser bytes, in the first place
where their bytes differ. Texts are cut at the first separator, whose front is told by holding no
separator. Whole numbers, texts of digits without a superfluous zero, are exactly what numbers are
written as, and the value of such a text is the number that it is written for.
-/

namespace TacticalSymbols.Text

/-! ### Order of bytes -/

def bytes (text : String) : List UInt8 :=
  text.toUTF8.data.toList

private theorem bytes_eq (text : String) :
    bytes text = text.toList.flatMap String.utf8EncodeChar := by
  rw [bytes, String.toUTF8, ← String.utf8Encode_toList, List.utf8Encode]
  exact List.toList_data_toByteArray

private theorem div_lt_or_mod_lt (lesser greater base : Nat) (below : lesser < greater) :
    lesser / base < greater / base ∨
      lesser / base = greater / base ∧ lesser % base < greater % base := by
  rcases Nat.lt_or_eq_of_le (Nat.div_le_div_right (Nat.le_of_lt below)) with less | same
  · exact .inl less
  · refine .inr ⟨same, ?_⟩
    have lesserIs := Nat.div_add_mod lesser base
    have greaterIs := Nat.div_add_mod greater base
    rw [same] at lesserIs
    omega

private theorem encode_append_lt (lesser greater : Char) (below : lesser < greater)
    (left right : List UInt8) :
    String.utf8EncodeChar lesser ++ left < String.utf8EncodeChar greater ++ right := by
  have number : lesser.val.toNat < greater.val.toNat := below
  have bounded : greater.val.toNat < 0x110000 := by
    rcases greater.valid with low | high
    · exact Nat.lt_trans low (by decide)
    · exact high.2
  unfold String.utf8EncodeChar
  generalize lesser.val.toNat = first at *
  generalize greater.val.toNat = second at *
  -- All bytes after the first hold six bits each, so the numbers are compared in the base of 64.
  have lowest := div_lt_or_mod_lt first second 64 number
  have middle := div_lt_or_mod_lt (first / 64) (second / 64) 64
  have highest := div_lt_or_mod_lt (first / 64 / 64) (second / 64 / 64) 64
  simp only [Nat.div_div_eq_div_mul, Nat.reduceMul] at middle highest
  dsimp only
  repeat' split
  all_goals
    simp (disch := omega) only [List.cons_append, List.nil_append, List.cons_lt_cons_iff,
      UInt8.lt_iff_toNat_lt, ← UInt8.toNat_inj, UInt8.toNat_ofNat', Nat.mod_eq_of_lt,
      Nat.reducePow, Nat.add_lt_add_iff_right, Nat.add_right_cancel_iff]
    omega

private theorem flatMap_encode_lt (left right : List Char) (below : left < right) :
    left.flatMap String.utf8EncodeChar < right.flatMap String.utf8EncodeChar := by
  induction below with
  | @nil character rest =>
      rw [List.flatMap_nil, List.flatMap_cons]
      cases bytes : String.utf8EncodeChar character with
      | nil => exact absurd bytes String.utf8EncodeChar_ne_nil
      | cons byte others => exact .nil
  | cons _ ih =>
      rw [List.flatMap_cons, List.flatMap_cons]
      exact List.append_left_lt ih
  | rel less => exact encode_append_lt _ _ less _ _

private theorem bytes_lt_of_lt (left right : String) (below : left < right) :
    bytes left < bytes right := by
  rw [bytes_eq, bytes_eq]
  exact flatMap_encode_lt left.toList right.toList (String.lt_iff.mp below)

theorem bytes_lt_iff (left right : String) : bytes left < bytes right ↔ left < right := by
  constructor
  · intro below
    rcases Std.lt_trichotomy left right with less | same | greater
    · exact less
    · rw [same] at below
      exact absurd below (List.lt_irrefl _)
    · exact absurd below (List.lt_asymm (bytes_lt_of_lt right left greater))
  · exact bytes_lt_of_lt left right

/-! ### Separators -/

section Separators

variable (separator : Char)

theorem dropWhile_ne_eq_nil_iff (characters : List Char) :
    characters.dropWhile (· != separator) = [] ↔ separator ∉ characters := by
  simp only [List.dropWhile_eq_nil_iff, bne_iff_ne, List.forall_mem_ne']

theorem not_mem_takeWhile_ne (characters : List Char) :
    separator ∉ characters.takeWhile (· != separator) := by
  intro member
  simpa using List.mem_takeWhile_imp member

theorem eq_of_dropWhile_ne (characters rest : List Char) (first : Char)
    (left : characters.dropWhile (· != separator) = first :: rest) : first = separator := by
  have notKept := List.head?_dropWhile_not (· != separator) characters
  rw [left] at notKept
  simpa using notKept

section Cut

variable (front rest : List Char) (absent : separator ∉ front)

include absent

theorem takeWhile_ne_append :
    (front ++ separator :: rest).takeWhile (· != separator) = front := by
  rw [List.takeWhile_append_of_pos
    (fun character member => bne_iff_ne.mpr (ne_of_mem_of_not_mem member absent)),
    List.takeWhile_cons_of_neg (by simp), List.append_nil]

theorem dropWhile_ne_append :
    (front ++ separator :: rest).dropWhile (· != separator) = separator :: rest := by
  rw [List.dropWhile_append_of_pos
    (fun character member => bne_iff_ne.mpr (ne_of_mem_of_not_mem member absent)),
    List.dropWhile_cons_of_neg (by simp)]

end Cut

theorem not_mem_intercalate (character : Char) (isOther : character ≠ separator)
    (parts : List (List Char)) (absent : ∀ part ∈ parts, character ∉ part) :
    character ∉ [separator].intercalate parts := by
  induction parts with
  | nil => exact List.not_mem_nil
  | cons first rest ih =>
      rw [List.forall_mem_cons] at absent
      by_cases isLast : rest = []
      · rw [isLast, List.intercalate_singleton]
        exact absent.1
      · rw [List.intercalate_cons_of_ne_nil isLast]
        simp only [List.mem_append, List.mem_singleton, not_or]
        exact ⟨⟨absent.1, isOther⟩, ih absent.2⟩

end Separators

/-! ### Digits -/

private theorem digitsValue_append_singleton (digits : List Char) (last : Char) :
    digitsValue (digits ++ [last]) = 10 * digitsValue digits + (last.toNat - '0'.toNat) := by
  unfold digitsValue
  rw [List.foldl_append]
  rfl

theorem isWholeNumber_iff (digits : List Char) :
    isWholeNumber digits = true ↔
      (∀ digit ∈ digits, digit.isDigit = true) ∧ digits ≠ [] ∧
        (digits.head? = some '0' → digits.length = 1) := by
  unfold isWholeNumber
  simp only [Bool.and_eq_true, Bool.or_eq_true, List.all_eq_true, Bool.not_eq_true',
    List.isEmpty_eq_false_iff, bne_iff_ne, beq_iff_eq, and_assoc, imp_iff_not_or, Ne]

/-! ### How numbers are written -/

theorem digitsValue_toDigits (number : Nat) : digitsValue (Nat.toDigits 10 number) = number :=
  Nat.ofDigitChars_ten_toDigits

theorem toDigits_injective : Function.Injective (Nat.toDigits 10) :=
  Function.LeftInverse.injective digitsValue_toDigits

theorem isDigit_of_mem_toDigits (number : Nat) :
    ∀ character ∈ Nat.toDigits 10 number, character.isDigit = true :=
  fun _ member => Nat.isDigit_of_mem_toDigits (by decide) (by decide) member

private theorem head?_toDigits_ne_zero (number : Nat) (positive : 0 < number) :
    (Nat.toDigits 10 number).head? ≠ some '0' := by
  induction number using Nat.strongRecOn with
  | ind number ih =>
      by_cases small : number < 10
      · rw [Nat.toDigits_of_lt_base small, List.head?_cons, Ne, Option.some_inj,
          Nat.digitChar_eq_zero]
        exact Nat.ne_of_gt positive
      · rw [Nat.toDigits_of_base_le (by decide) (Nat.le_of_not_lt small), List.head?_append,
          Option.or_of_isSome (by simp [Nat.toDigits_ne_nil])]
        exact ih (number / 10) (by omega) (by omega)

theorem isWholeNumber_toDigits (number : Nat) :
    isWholeNumber (Nat.toDigits 10 number) = true := by
  rw [isWholeNumber_iff]
  refine ⟨isDigit_of_mem_toDigits number, Nat.toDigits_ne_nil, ?_⟩
  intro startsWithZero
  rcases Nat.eq_zero_or_pos number with isZero | positive
  · rw [isZero]
    rfl
  · exact absurd startsWithZero (head?_toDigits_ne_zero number positive)

/-! ### How whole numbers are read -/

private theorem digitChar_of_isDigit (digit : Char) (isDigit : digit.isDigit = true) :
    digit.toNat - '0'.toNat < 10 ∧ Nat.digitChar (digit.toNat - '0'.toNat) = digit := by
  change digit.toNat - 48 < 10 ∧ Nat.digitChar (digit.toNat - 48) = digit
  have range : 48 ≤ digit.toNat ∧ digit.toNat ≤ 57 := Char.isDigit_iff_toNat.mp isDigit
  have small : digit.toNat - 48 < 10 := by omega
  refine ⟨small, Char.toNat_inj.mp ?_⟩
  rw [Nat.toNat_digitChar_of_lt_ten small]
  omega

private theorem isWholeNumber_of_append_singleton (digits : List Char) (last : Char)
    (several : digits ≠ []) (isWhole : isWholeNumber (digits ++ [last]) = true) :
    isWholeNumber digits = true ∧ digits.head? ≠ some '0' := by
  rw [isWholeNumber_iff] at isWhole
  obtain ⟨areDigits, _, zeroAlone⟩ := isWhole
  have noZero : digits.head? ≠ some '0' := by
    intro startsWithZero
    have isSingle := zeroAlone (by rw [List.head?_append, startsWithZero]; rfl)
    rw [List.length_append, List.length_singleton] at isSingle
    exact several (List.length_eq_zero_iff.mp (Nat.succ.inj isSingle))
  refine ⟨(isWholeNumber_iff digits).mpr ⟨?_, several, ?_⟩, noZero⟩
  · intro digit member
    exact areDigits digit (List.mem_append_left _ member)
  · intro startsWithZero
    exact absurd startsWithZero noZero

theorem toDigits_digitsValue (digits : List Char) (isWhole : isWholeNumber digits = true) :
    Nat.toDigits 10 (digitsValue digits) = digits := by
  induction digits using List.reverseRecOn with
  | nil => exact absurd isWhole (by decide)
  | append_singleton digits last ih =>
      have isDigit := ((isWholeNumber_iff _).mp isWhole).1 last (by simp)
      obtain ⟨small, written⟩ := digitChar_of_isDigit last isDigit
      rw [digitsValue_append_singleton]
      by_cases several : digits = []
      · have noValue : digitsValue [] = 0 := rfl
        rw [several, noValue, Nat.mul_zero, Nat.zero_add, Nat.toDigits_of_lt_base small, written,
          List.nil_append]
      · obtain ⟨isWholeFront, noZero⟩ :=
          isWholeNumber_of_append_singleton digits last several isWhole
        have writtenFront := ih isWholeFront
        have positive : 0 < digitsValue digits := by
          rw [Nat.pos_iff_ne_zero]
          intro isZero
          rw [isZero] at writtenFront
          exact noZero (by rw [← writtenFront]; rfl)
        rw [← Nat.toDigits_append_toDigits (by decide) positive small, writtenFront,
          Nat.toDigits_of_lt_base small, written]

theorem isWholeNumber_iff_exists_toDigits (digits : List Char) :
    isWholeNumber digits = true ↔ ∃ number, digits = Nat.toDigits 10 number := by
  constructor
  · intro isWhole
    exact ⟨digitsValue digits, (toDigits_digitsValue digits isWhole).symm⟩
  · intro written
    obtain ⟨number, same⟩ := written
    rw [same]
    exact isWholeNumber_toDigits number

end TacticalSymbols.Text

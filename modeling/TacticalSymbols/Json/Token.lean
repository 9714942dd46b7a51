import TacticalSymbols.Json.Value
import TacticalSymbols.Text

/-!
The tokens of JSON text. A scanner goes over the characters once; numbers and words are collected
first and judged when they end.
-/

namespace TacticalSymbols.Json

inductive Token where
  | openArray
  | closeArray
  | openObject
  | closeObject
  | comma
  | colon
  | scalar (value : Json)

namespace Number

/-- The exponent that stands after `e`: a sign if any, and at least one digit. -/
def exponent? (characters : List Char) : Option Int :=
  let unsigned? (digits : List Char) : Option Nat :=
    if !digits.isEmpty && digits.all Char.isDigit then some (Text.digitsValue digits) else none
  match characters with
  | '+' :: digits => (unsigned? digits).map Int.ofNat
  | '-' :: digits => (unsigned? digits).map (fun value => -Int.ofNat value)
  | digits => (unsigned? digits).map Int.ofNat

def tail? (negative : Bool) (whole : List Char) (characters : List Char) : Option Number :=
  let withExponent? (fraction rest : List Char) : Option Number :=
    match rest with
    | [] => some (decimal negative whole fraction 0)
    | letter :: rest =>
        if letter = 'e' || letter = 'E' then
          (exponent? rest).map (fun exponent => decimal negative whole fraction exponent)
        else none
  match characters with
  | [] => some (integer negative (Text.digitsValue whole))
  | '.' :: rest =>
      let fraction := rest.takeWhile Char.isDigit
      if fraction.isEmpty then none else withExponent? fraction (rest.dropWhile Char.isDigit)
  | rest => withExponent? [] rest

def ofCharacters? (characters : List Char) : Option Number :=
  let negative := characters.head? == some '-'
  let unsigned := if negative then characters.drop 1 else characters
  let whole := unsigned.takeWhile Char.isDigit
  if Text.isWholeNumber whole then tail? negative whole (unsigned.dropWhile Char.isDigit) else none

end Number

/-- The characters of a string literal so far, the last one first. -/
structure Literal where
  reversed : List Char
  /-- A high surrogate that waits for its low surrogate. -/
  high? : Option Nat
  /-- Whether every surrogate before this point found its partner. -/
  paired : Bool

namespace Literal

def empty : Literal :=
  { reversed := [], high? := none, paired := true }

def push (literal : Literal) (character : Char) : Literal :=
  { reversed := character :: literal.reversed
    high? := none
    paired := literal.paired && literal.high?.isNone }

def pushUnit (literal : Literal) (unit : Nat) : Literal :=
  if 0xD800 ≤ unit && unit < 0xDC00 then
    { literal with high? := some unit, paired := literal.paired && literal.high?.isNone }
  else if 0xDC00 ≤ unit && unit < 0xE000 then
    match literal.high? with
    | some high =>
        { literal with
          reversed :=
            Char.ofNat (0x10000 + (high - 0xD800) * 0x400 + (unit - 0xDC00)) :: literal.reversed
          high? := none }
    | none => { literal with paired := false }
  else literal.push (Char.ofNat unit)

def text? (literal : Literal) : Option String :=
  if literal.paired && literal.high?.isNone then some (String.ofList literal.reversed.reverse)
  else none

end Literal

inductive Scan where
  | between
  | word (reversed : List Char)
  | number (reversed : List Char)
  | string (literal : Literal)
  | escape (literal : Literal)
  | unit (literal : Literal) (missing : Nat) (value : Nat)

namespace Scan

def isSpace (character : Char) : Bool :=
  character == ' ' || character == '\n' || character == '\t' || character == '\r'

def isWordCharacter (character : Char) : Bool :=
  'a' ≤ character && character ≤ 'z'

def isNumberCharacter (character : Char) : Bool :=
  character.isDigit || character == '-' || character == '+' || character == '.' ||
    character == 'e' || character == 'E'

def wordValue? (word : List Char) : Option Json :=
  if word = "null".toList then some .null
  else if word = "true".toList then some (.bool true)
  else if word = "false".toList then some (.bool false)
  else none

/-- Begins with a character that continues nothing. -/
def start (tokens : List Token) (character : Char) : Option (Scan × List Token) :=
  if isSpace character then some (between, tokens)
  else if character = '[' then some (between, .openArray :: tokens)
  else if character = ']' then some (between, .closeArray :: tokens)
  else if character = '{' then some (between, .openObject :: tokens)
  else if character = '}' then some (between, .closeObject :: tokens)
  else if character = ',' then some (between, .comma :: tokens)
  else if character = ':' then some (between, .colon :: tokens)
  else if character = '"' then some (string .empty, tokens)
  else if character = '-' || character.isDigit then some (number [character], tokens)
  else if isWordCharacter character then some (word [character], tokens)
  else none

def escaped? (letter : Char) : Option Char :=
  [('"', '"'), ('\\', '\\'), ('/', '/'), ('b', '\x08'), ('f', '\x0c'), ('n', '\n'), ('r', '\r'),
    ('t', '\t')].lookup letter

def hexDigit? (character : Char) : Option Nat :=
  if character.isDigit then some (character.toNat - '0'.toNat)
  else if 'a' ≤ character && character ≤ 'f' then some (character.toNat - 'a'.toNat + 10)
  else if 'A' ≤ character && character ≤ 'F' then some (character.toNat - 'A'.toNat + 10)
  else none

/-- One character: the scanner and the tokens after it, the last token first; none where no JSON
text goes on with the character. -/
def next : Scan → List Token → Char → Option (Scan × List Token)
  | between, tokens, character => start tokens character
  | word reversed, tokens, character =>
      if isWordCharacter character then some (word (character :: reversed), tokens)
      else
        (wordValue? reversed.reverse).bind (fun value =>
          start (.scalar value :: tokens) character)
  | number reversed, tokens, character =>
      if isNumberCharacter character then some (number (character :: reversed), tokens)
      else
        (Number.ofCharacters? reversed.reverse).bind
          (fun value => start (.scalar (.number value) :: tokens) character)
  | string literal, tokens, character =>
      if character = '"' then some (between, .scalar (.string literal.text?) :: tokens)
      else if character = '\\' then some (escape literal, tokens)
      else if character.toNat < 0x20 then none
      else some (string (literal.push character), tokens)
  | escape literal, tokens, character =>
      if character = 'u' then some (unit literal 4 0, tokens)
      else (escaped? character).map (fun escaped => (string (literal.push escaped), tokens))
  | unit literal missing value, tokens, character =>
      (hexDigit? character).map (fun digit =>
        let value := 16 * value + digit
        if missing = 1 then (string (literal.pushUnit value), tokens)
        else (unit literal (missing - 1) value, tokens))

def finish : Scan → List Token → Option (List Token)
  | between, tokens => some tokens.reverse
  | word reversed, tokens =>
      (wordValue? reversed.reverse).map (fun value => (Token.scalar value :: tokens).reverse)
  | number reversed, tokens =>
      (Number.ofCharacters? reversed.reverse).map
        (fun value => (Token.scalar (.number value) :: tokens).reverse)
  | _, _ => none

def run : Scan → List Token → List Char → Option (List Token)
  | scan, tokens, [] => scan.finish tokens
  | scan, tokens, character :: rest =>
      match scan.next tokens character with
      | some (after, found) => run after found rest
      | none => none

end Scan

def tokens? (text : String) : Option (List Token) :=
  Scan.run .between [] text.toList

end TacticalSymbols.Json

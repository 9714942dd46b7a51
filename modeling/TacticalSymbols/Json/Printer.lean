import TacticalSymbols.Decimal
import TacticalSymbols.Json.Value

/-!
The text of a JSON value, on one line or indented by two blanks. A double is written with the fewest
digits that read back; one that is not finite is written as null.
-/

namespace TacticalSymbols.Json

private def hexDigits (value width : Nat) : String :=
  let digits := Nat.toDigits 16 value
  String.ofList (List.replicate (width - digits.length) '0' ++ digits)

/-- Quotes, backslashes and the control characters of ASCII are escaped; all else is written as it
is. -/
def escapeCharacter (character : Char) : String :=
  if character = '"' then "\\\""
  else if character = '\\' then "\\\\"
  else if character = '\x08' then "\\b"
  else if character = '\x0c' then "\\f"
  else if character = '\n' then "\\n"
  else if character = '\r' then "\\r"
  else if character = '\t' then "\\t"
  else if character.toNat < 0x20 then "\\u" ++ hexDigits character.toNat 4
  else String.singleton character

def quote (text : String) : String :=
  "\"" ++ String.join (text.toList.map escapeCharacter) ++ "\""

/-- A finite double: positional with a digit behind the point while the point lies within sixteen
places of the first digit or five zeros in front of it, and otherwise with an exponent. -/
def doubleText (value : Float) : String :=
  let decimal := Decimal.ofMagnitude (Decimal.Magnitude.ofBits value.toBits)
  let digits := Nat.toDigits 10 decimal.digits
  let point : Int := digits.length + decimal.exponent
  let magnitude :=
    if 0 ≤ decimal.exponent && point ≤ 16 then decimal.positional ++ ".0"
    else if -5 < point && point ≤ 16 then decimal.positional
    else
      String.ofList (digits.take 1) ++
        (if digits.length = 1 then "" else "." ++ String.ofList (digits.drop 1)) ++
        "e" ++ toString (point - 1)
  (if Decimal.hasSign value then "-" else "") ++ magnitude

def Number.render : Number → String
  | integer negative magnitude => (if negative then "-" else "") ++ toString magnitude
  | decimal negative whole fraction exponent =>
      (if negative then "-" else "") ++ String.ofList whole ++
        (if fraction.isEmpty then "" else "." ++ String.ofList fraction) ++ "e" ++ toString exponent
  | double value => if value.isFinite then doubleText value else "null"

/-- What stands between the parts of a container whose contents are `depth` levels deep. -/
structure Spacing where
  lineBreak : Nat → String
  afterColon : String

def Spacing.oneLine : Spacing :=
  { lineBreak := fun _ => "", afterColon := "" }

def Spacing.indented : Spacing :=
  { lineBreak := fun depth => "\n" ++ String.ofList (List.replicate (2 * depth) ' ')
    afterColon := " " }

def wrap (spacing : Spacing) (depth : Nat) (opening closing : String) (parts : List String) :
    String :=
  if parts.isEmpty then opening ++ closing
  else
    opening ++ spacing.lineBreak (depth + 1) ++
      ("," ++ spacing.lineBreak (depth + 1)).intercalate parts ++ spacing.lineBreak depth ++ closing

mutual

def render (spacing : Spacing) (depth : Nat) : Json → String
  | null => "null"
  | bool value => if value then "true" else "false"
  | number value => value.render
  | string text? => quote (text?.getD "")
  | array items => wrap spacing depth "[" "]" (renderItems spacing (depth + 1) items)
  | object members => wrap spacing depth "\x7b" "\x7d" (renderMembers spacing (depth + 1) members)

def renderItems (spacing : Spacing) (depth : Nat) : List Json → List String
  | [] => []
  | item :: rest => render spacing depth item :: renderItems spacing depth rest

def renderMembers (spacing : Spacing) (depth : Nat) : List (Option String × Json) → List String
  | [] => []
  | (name, value) :: rest =>
      (quote (name.getD "") ++ ":" ++ spacing.afterColon ++ render spacing depth value) ::
        renderMembers spacing depth rest

end

def compact (json : Json) : String :=
  render .oneLine 0 json

def pretty (json : Json) : String :=
  render .indented 0 json

end TacticalSymbols.Json

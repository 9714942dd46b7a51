import TacticalSymbols.Decimal

/-!
JSON values as written. Objects keep their members in order and keep repeated names, and a number
keeps its sign and the difference between `2` and `2.0`, because the readers of documents care for
both.
-/

namespace TacticalSymbols

namespace Json

inductive Number where
  | integer (negative : Bool) (magnitude : Nat)
  /-- A number with a fraction or an exponent: the digits in front of the point, those behind it,
  and the exponent. -/
  | decimal (negative : Bool) (whole fraction : List Char) (exponent : Int)
  | double (value : Float)

namespace Number

/-- The double with a magnitude and a sign, unless it is infinite. Zero has a sign as well. -/
def signed? (negative : Bool) (magnitude : Scaled) : Option Float :=
  magnitude.float?.map (fun value => if negative then -value else value)

def float? : Number → Option Float
  | integer negative magnitude =>
      signed? negative (Scaled.ofDigits (Nat.toDigits 10 magnitude) [] 0)
  | decimal negative whole fraction exponent =>
      signed? negative (Scaled.ofDigits whole fraction exponent)
  | double value => some value

/-- A count that fits in a word of 64 bits and is written with digits alone. -/
def count? : Number → Option Nat
  | integer false magnitude => if magnitude < UInt64.size then some magnitude else none
  | _ => none

end Number

end Json

/-- A JSON value. The text of a string is missing when its escapes leave half of a surrogate pair:
the literal is well formed, and no text is what it says. -/
inductive Json where
  | null
  | bool (value : Bool)
  | number (value : Json.Number)
  | string (text? : Option String)
  | array (items : List Json)
  | object (members : List (Option String × Json))

namespace Json

def ofText (text : String) : Json :=
  string (some text)

def ofNat (count : Nat) : Json :=
  number (.integer false count)

def ofFloat (value : Float) : Json :=
  number (.double value)

def ofOption {α : Type} (write : α → Json) : Option α → Json
  | none => null
  | some value => write value

def record (members : List (String × Json)) : Json :=
  object (members.map (fun member => (some member.1, member.2)))

def text? : Json → Option String
  | string text? => text?
  | _ => none

def bool? : Json → Option Bool
  | bool value => some value
  | _ => none

def float? : Json → Option Float
  | number value => value.float?
  | _ => none

def count? : Json → Option Nat
  | number value => value.count?
  | _ => none

def member? (json : Json) (name : String) : Option Json :=
  match json with
  | object members => (members.reverse.find? (fun member => member.1 == some name)).map Prod.snd
  | _ => none

end Json

end TacticalSymbols

import TacticalSymbols.Text

/-!
Doubles and written decimals. A written decimal is read by scaling: the leading digits that fit in a
word of 64 bits make a significand, which is rounded to a double and then multiplied or divided by a
power of ten. Up to fifteen digits and a scale of twenty-two places only the last step rounds, so that
the result is the nearest double; beyond that the steps before it may round, too. A double is written
as the shortest decimal that reads back as it. That arithmetic is exact, on natural numbers: a double
is an integer times a power of two, and the reals that round to it form an interval around it. The
coarsest decimal grid with a point in that interval gives the digits.
-/

namespace TacticalSymbols

/-! ### Reading by scaling -/

/-- The number `significand * 10 ^ exponent`. -/
structure Scaled where
  significand : Nat
  exponent : Int
  deriving DecidableEq, Repr

namespace Scaled

def significandLimit : Nat := UInt64.size

/-- Appends digits to a significand as long as they fit, and gives the digits that are left. -/
def takeDigits (significand : Nat) : List Char → Nat × List Char
  | [] => (significand, [])
  | digit :: rest =>
      let longer := Text.appendDigit significand digit
      if longer < significandLimit then takeDigits longer rest else (significand, digit :: rest)

/-- The number with the given digits in front of and behind the point. A whole digit that does not
fit only raises the exponent. The digits behind the point go on with the significand, and end at the
first that does not fit. -/
def ofDigits (whole fraction : List Char) (exponent : Int) : Scaled :=
  let (wholePart, wholeLeft) := takeDigits 0 whole
  let (significand, fractionLeft) := takeDigits wholePart fraction
  let places : Int := fraction.length - fractionLeft.length
  { significand := significand, exponent := exponent + wholeLeft.length - places }

def largestPower : Nat := 308

def powerOfTen (places : Nat) : Float :=
  Float.ofScientific 1 false places

/-- Divides a significand by a power of ten, in two steps where one power is not enough. Past two
powers nothing is left of any significand. -/
def shrink (value : Float) (places : Nat) : Float :=
  if places ≤ largestPower then value / powerOfTen places
  else if places ≤ 2 * largestPower then
    value / powerOfTen largestPower / powerOfTen (places - largestPower)
  else 0.0

def grow? (value : Float) (places : Nat) : Option Float :=
  if value == 0.0 then some value
  else if places ≤ largestPower then
    let product := value * powerOfTen places
    if product.isInf then none else some product
  else none

def float? (scaled : Scaled) : Option Float :=
  let value := Float.ofNat scaled.significand
  if 0 ≤ scaled.exponent then grow? value scaled.exponent.natAbs
  else some (shrink value scaled.exponent.natAbs)

end Scaled

/-! ### Shortest decimals -/

/-- The number `digits * 10 ^ exponent`. -/
structure Decimal where
  digits : Nat
  exponent : Int
  deriving DecidableEq, Repr

namespace Decimal

/-- The magnitude `significand * 2 ^ exponent` of a finite double. -/
structure Magnitude where
  significand : Nat
  exponent : Int
  /-- Whether the next smaller double is half as far away as the next larger one. -/
  closerBelow : Bool
  deriving DecidableEq, Repr

/-- The magnitude in the bits of a finite double; the sign bit does not matter. -/
def Magnitude.ofBits (bits : UInt64) : Magnitude :=
  let biased : Nat := (bits.toNat / Nat.pow 2 52) % Nat.pow 2 11
  let fraction : Nat := bits.toNat % Nat.pow 2 52
  if biased = 0 then { significand := fraction, exponent := -1074, closerBelow := false }
  else
    { significand := Nat.pow 2 52 + fraction
      exponent := (biased : Int) - 1075
      closerBelow := fraction == 0 && biased != 1 }

/-- So many quarters of the gap above, on a scale that makes the grid `10 ^ grid` whole. -/
def Magnitude.onScale (magnitude : Magnitude) (grid : Int) (quarters : Nat) : Nat :=
  quarters * Nat.pow 2 (magnitude.exponent - 2).toNat * Nat.pow 10 (-grid).toNat

def Magnitude.step (magnitude : Magnitude) (grid : Int) : Nat :=
  Nat.pow 10 grid.toNat * Nat.pow 2 (2 - magnitude.exponent).toNat

/-- The point of the grid `10 ^ grid` that reads back, counted in steps. Of two such points the
nearer is taken, and of two equally near ones the larger. An end of the interval belongs to it when
the significand is even. -/
def Magnitude.point? (magnitude : Magnitude) (grid : Int) : Option Nat :=
  let step := magnitude.step grid
  let value := magnitude.onScale grid (4 * magnitude.significand)
  let downward := if magnitude.closerBelow then 1 else 2
  let lower := magnitude.onScale grid (4 * magnitude.significand - downward)
  let upper := magnitude.onScale grid (4 * magnitude.significand + 2)
  let readsBack (point : Nat) : Bool :=
    if magnitude.significand % 2 = 0 then
      decide (lower ≤ point * step) && decide (point * step ≤ upper)
    else decide (lower < point * step) && decide (point * step < upper)
  let below := value / step
  match readsBack below, readsBack (below + 1) with
  | true, true => some (if 2 * value < (2 * below + 1) * step then below else below + 1)
  | true, false => some below
  | false, true => some (below + 1)
  | false, false => none

/-- The grids that may hold the answer, the coarsest first. The last is finer than every double. -/
def grids : List Int :=
  (List.range 660).map (fun (index : Nat) => 310 - (index : Int))

/-- The decimal with the fewest digits that reads back as the magnitude. -/
def ofMagnitude (magnitude : Magnitude) : Decimal :=
  if magnitude.significand = 0 then { digits := 0, exponent := 0 }
  else
    let onGrid? (grid : Int) : Option Decimal :=
      (magnitude.point? grid).map (fun point => { digits := point, exponent := grid })
    (grids.findSome? onGrid?).getD { digits := 0, exponent := 0 }

/-- Digits in front of and behind a decimal point, never with an exponent and never with a point
that nothing follows. -/
def positional (decimal : Decimal) : String :=
  let digits := Nat.toDigits 10 decimal.digits
  if 0 ≤ decimal.exponent then
    String.ofList (digits ++ List.replicate decimal.exponent.toNat '0')
  else
    let places := (-decimal.exponent).toNat
    let padded := List.replicate (places + 1 - digits.length) '0' ++ digits
    let front := padded.length - places
    String.ofList (padded.take front ++ '.' :: padded.drop front)

def hasSign (value : Float) : Bool :=
  decide (Nat.pow 2 63 ≤ value.toBits.toNat)

/-- The fewest digits that identify a number, written out in full. -/
def plainText (value : Float) : String :=
  if value.isNaN then "NaN"
  else
    (if hasSign value then "-" else "") ++
      (if value.isInf then "inf" else (ofMagnitude (Magnitude.ofBits value.toBits)).positional)

end Decimal

end TacticalSymbols

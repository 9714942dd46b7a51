import TacticalSymbols.Modifier

/-!
Descriptors of graphic types: what a code must hold to name the type, how many control points a
graphic of the type takes, and which modifiers it carries.
-/

namespace TacticalSymbols

inductive Geometry where
  | point
  | line
  | area
  deriving DecidableEq, Repr

inductive PointRule where
  | exactly (count : Nat)
  | atLeast (count : Nat)
  deriving DecidableEq, Repr

namespace PointRule

def accepts : PointRule → Nat → Bool
  | exactly count, actual => actual == count
  | atLeast count, actual => decide (count ≤ actual)

def minimum : PointRule → Nat
  | exactly count => count
  | atLeast count => count

def describe : PointRule → String
  | exactly count => "exactly " ++ toString count
  | atLeast count => "at least " ++ toString count

end PointRule

structure Descriptor where
  id : String
  name : String
  scheme : Scheme
  /-- The token at position 3; none stands for every token, and for no token at all. -/
  dimension? : Option String
  functionId : String
  geometry : Geometry
  points : PointRule
  /-- The modifiers of the type, whether or not its scheme can carry them. -/
  modifiers : List Modifier
  deriving DecidableEq, Repr

namespace Descriptor

def describes (descriptor : Descriptor) (fields : CodeFields) : Bool :=
  fields.scheme? == some descriptor.scheme &&
    fields.token? .functionId == some descriptor.functionId &&
    descriptor.dimension?.all (fun dimension => fields.dimension? == some dimension)

/-- Whether graphics of the type carry a modifier: the type lists it and the scheme has it. -/
def carries (descriptor : Descriptor) (modifier : Modifier) : Bool :=
  descriptor.modifiers.contains modifier && modifier.appliesTo descriptor.scheme

/-- The name of a graphic type in the index of a catalog. A star stands in the place of a dimension
that is left open. -/
def typeName (scheme : Scheme) (dimension? : Option String) (functionId : String) : String :=
  scheme.token ++ ":" ++ dimension?.getD "*" ++ ":" ++ functionId

def ownTypeName (descriptor : Descriptor) : String :=
  typeName descriptor.scheme descriptor.dimension? descriptor.functionId

inductive Fault where
  | functionId
  | pointGraphic
  | lineOrArea
  deriving DecidableEq, Repr

def Fault.reason : Fault → String
  | functionId => "function id must be six characters of A-Z, 0-9 or '-'"
  | pointGraphic => "point graphics take exactly one control point"
  | lineOrArea => "line and area graphics take at least two control points"

def fault? (descriptor : Descriptor) : Option Fault :=
  if !isLegal .functionId descriptor.functionId descriptor.scheme then some .functionId
  else
    match descriptor.geometry with
    | .point => if descriptor.points = .exactly 1 then none else some .pointGraphic
    | .line | .area => if descriptor.points.minimum < 2 then some .lineOrArea else none

end Descriptor

end TacticalSymbols

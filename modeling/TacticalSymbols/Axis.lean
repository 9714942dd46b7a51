import TacticalSymbols.Text

/-!
Classification axes: the fields of a symbol code. Each axis has a fixed range of character
positions; two axes share position 3, and five share the modifier slot at positions 11 and 12.
-/

namespace TacticalSymbols

/-- A run of character positions, counted from 1, both ends included. -/
structure Span where
  first : Nat
  last : Nat
  deriving DecidableEq, Repr

def Span.width (span : Span) : Nat :=
  span.last - span.first + 1

inductive Axis where
  | scheme
  | standardIdentity
  | battleDimension
  | category
  | status
  | functionId
  | unitEquipment
  | echelon
  | installation
  | mobility
  | auxiliaryEquipment
  | country
  | orderOfBattle
  deriving DecidableEq, Repr

namespace Axis

def all : List Axis :=
  [scheme, standardIdentity, battleDimension, category, status, functionId, unitEquipment, echelon,
    installation, mobility, auxiliaryEquipment, country, orderOfBattle]

theorem mem_all (axis : Axis) : axis ∈ all := by
  cases axis <;> decide

def span : Axis → Span
  | scheme => ⟨1, 1⟩
  | standardIdentity => ⟨2, 2⟩
  | battleDimension => ⟨3, 3⟩
  | category => ⟨3, 3⟩
  | status => ⟨4, 4⟩
  | functionId => ⟨5, 10⟩
  | unitEquipment => ⟨11, 11⟩
  | echelon => ⟨12, 12⟩
  | installation => ⟨11, 12⟩
  | mobility => ⟨11, 12⟩
  | auxiliaryEquipment => ⟨11, 12⟩
  | country => ⟨13, 14⟩
  | orderOfBattle => ⟨15, 15⟩

def start (axis : Axis) : Nat :=
  axis.span.first

def width (axis : Axis) : Nat :=
  axis.span.width

/-- The ways to use the modifier slot. Axes of one use may stand together, axes of two may not. -/
inductive SlotUse where
  | unitAndEchelon
  | installation
  | mobility
  | auxiliaryEquipment
  deriving DecidableEq, Repr

/-- How the axis uses positions 11 and 12, if it lies there. -/
def slotUse? : Axis → Option SlotUse
  | unitEquipment => some .unitAndEchelon
  | echelon => some .unitAndEchelon
  | installation => some .installation
  | mobility => some .mobility
  | auxiliaryEquipment => some .auxiliaryEquipment
  | _ => none

def inSlot (axis : Axis) : Bool :=
  axis.slotUse?.isSome

def key : Axis → String
  | scheme => "scheme"
  | standardIdentity => "standard_identity"
  | battleDimension => "battle_dimension"
  | category => "category"
  | status => "status"
  | functionId => "function_id"
  | unitEquipment => "unit_equipment"
  | echelon => "echelon"
  | installation => "installation"
  | mobility => "mobility"
  | auxiliaryEquipment => "auxiliary_equipment"
  | country => "country"
  | orderOfBattle => "order_of_battle"

def name : Axis → String
  | scheme => "scheme"
  | standardIdentity => "standard identity"
  | battleDimension => "battle dimension"
  | category => "category"
  | status => "status"
  | functionId => "function id"
  | unitEquipment => "unit/equipment modifier"
  | echelon => "echelon"
  | installation => "installation"
  | mobility => "mobility"
  | auxiliaryEquipment => "auxiliary equipment"
  | country => "country"
  | orderOfBattle => "order of battle"

def named? (text : String) : Option Axis :=
  all.find? (fun axis => Text.bareName axis.key == Text.bareName text)

end Axis

end TacticalSymbols

import TacticalSymbols.Code.Fields

/-!
Modifiers: what may be said about a graphic beside its type. Some modifiers live in the symbol
code, as a flag or a token of an axis; the others are free text.
-/

namespace TacticalSymbols

inductive Modifier where
  | feintDummy
  | headquarters
  | taskForce
  | echelon
  | installation
  | mobility
  | auxiliaryEquipment
  | text
  | additionalInformation
  | dateTime
  | altitude
  | quantity
  | hostileEnemy
  | type
  | directionOfMovement
  deriving DecidableEq, Repr

namespace Modifier

inductive Kind where
  | flag
  | token
  | text
  deriving DecidableEq, Repr

def all : List Modifier :=
  [feintDummy, headquarters, taskForce, echelon, installation, mobility, auxiliaryEquipment, text,
    additionalInformation, dateTime, altitude, quantity, hostileEnemy, type, directionOfMovement]

theorem mem_all (modifier : Modifier) : modifier ∈ all := by
  cases modifier <;> decide

def name : Modifier → String
  | feintDummy => "FeintDummy"
  | headquarters => "Headquarters"
  | taskForce => "TaskForce"
  | echelon => "Echelon"
  | installation => "Installation"
  | mobility => "Mobility"
  | auxiliaryEquipment => "AuxiliaryEquipment"
  | text => "Text"
  | additionalInformation => "AdditionalInformation"
  | dateTime => "DateTime"
  | altitude => "Altitude"
  | quantity => "Quantity"
  | hostileEnemy => "HostileEnemy"
  | type => "Type"
  | directionOfMovement => "DirectionOfMovement"

/-- The letter of the field that shows the modifier beside a symbol, where there is one. -/
def fieldLetter? : Modifier → Option String
  | echelon => some "B"
  | quantity => some "C"
  | additionalInformation => some "H"
  | hostileEnemy => some "N"
  | directionOfMovement => some "Q"
  | text => some "T"
  | type => some "V"
  | dateTime => some "W"
  | altitude => some "X"
  | _ => none

/-- Whether a spelling is the modifier's name in any letter case, or exactly its field letter. -/
def isSpelled (modifier : Modifier) (spelling : String) : Bool :=
  Text.sameLetters modifier.name spelling || modifier.fieldLetter? == some spelling

def ofSpelling? (spelling : String) : Option Modifier :=
  all.find? (fun modifier => modifier.isSpelled spelling)

def kind : Modifier → Kind
  | feintDummy | headquarters | taskForce => .flag
  | echelon | installation | mobility | auxiliaryEquipment => .token
  | _ => .text

/-- The axis of the code that stores the modifier, if the code stores it. -/
def axis? : Modifier → Option Axis
  | feintDummy | headquarters | taskForce => some .unitEquipment
  | echelon => some .echelon
  | installation => some .installation
  | mobility => some .mobility
  | auxiliaryEquipment => some .auxiliaryEquipment
  | _ => none

/-- A modifier stored in the code exists only under schemes that place its axis. -/
def appliesTo (modifier : Modifier) (scheme : Scheme) : Bool :=
  match modifier.axis? with
  | some axis => scheme.uses axis
  | none => true

end Modifier

/-! ### Values -/

inductive Modifier.Value where
  | flag (set : Bool)
  | token (held : String)
  | text (held : String)
  deriving DecidableEq, Repr

namespace Modifier.Value

def flag? : Modifier.Value → Option Bool
  | flag set => some set
  | _ => none

def text? : Modifier.Value → Option String
  | flag _ => none
  | token held => some held
  | text held => some held

end Modifier.Value

end TacticalSymbols

import Std.Data.ExtTreeMap
import TacticalSymbols.Catalog.Basic
import TacticalSymbols.Decimal
import TacticalSymbols.Graphic.Change
import TacticalSymbols.Markings

/-!
Making a graphic from a code: the catalog finds the type, the control points are counted, and then
the parameters are written one after the other, in the order of the characters of their spellings.
-/

namespace TacticalSymbols

/-! ### Parameters -/

inductive ParameterValue where
  | flag (set : Bool)
  | number (value : Float)
  | text (held : String)

/-- The modifier value that a parameter gives. A number is written out. -/
def ParameterValue.toModifier : ParameterValue → Modifier.Value
  | flag set => .flag set
  | number value => .text (Decimal.plainText value)
  | text held => .text held

structure Parameters where
  bySpelling : Std.ExtTreeMap String ParameterValue

namespace Parameters

def empty : Parameters :=
  { bySpelling := ∅ }

def insert (parameters : Parameters) (spelling : String) (value : ParameterValue) : Parameters :=
  { bySpelling := parameters.bySpelling.insert spelling value }

def ofPairs (pairs : List (String × ParameterValue)) : Parameters :=
  pairs.foldl (fun parameters pair => parameters.insert pair.1 pair.2) empty

def modifiers (parameters : Parameters) : List (String × Modifier.Value) :=
  parameters.bySpelling.toList.map (fun pair => (pair.1, pair.2.toModifier))

end Parameters

/-! ### Creation -/

namespace Graphic

/-- Stands for the function id of a code that has none. -/
def noFunctionId : String := "------"

def findType (catalog : Catalog) (fields : CodeFields) : Except Graphic.Refusal Descriptor :=
  match catalog.find? fields with
  | some descriptor => .ok descriptor
  | none =>
      .error (.unknownType (fields.scheme?.getD .warfighting) fields.dimension?
        ((fields.token? .functionId).getD noFunctionId))

def writeModifiers (modifiers : List (String × Modifier.Value)) : Change :=
  modifiers.forM (fun modifier => writeModifier modifier.1 modifier.2)

def create (catalog : Catalog) (text : String) (positions : List Position)
    (parameters? : Option Parameters) : Except Graphic.Refusal Graphic := do
  let fields ← readCode text
  let descriptor ← findType catalog fields
  let graphic ← new text descriptor positions
  match parameters? with
  | some parameters => Update.applied (writeModifiers parameters.modifiers) graphic
  | none => return graphic

def createAt (catalog : Catalog) (text : String) (position : Position)
    (parameters? : Option Parameters) : Except Graphic.Refusal Graphic :=
  create catalog text [position] parameters?

end Graphic

end TacticalSymbols

import TacticalSymbols.Catalog.Standard
import TacticalSymbols.Document.Descriptor
import TacticalSymbols.Version

/-!
Loading catalog files. A file is read, its engine version and all its descriptors are checked, and
only then is anything added. A catalog in use is one that additions and loads have made of the empty
catalog or of the standard set.
-/

namespace TacticalSymbols

def engineVersion : String := "1.0.0"

namespace Catalog

def parseVersion (text : String) : Except Catalog.Refusal Version :=
  match Version.parse? text with
  | some version => .ok version
  | none => .error (.invalidVersion text)

def checkEngine (name required : String) : Except Catalog.Refusal Unit := do
  let engine ← parseVersion engineVersion
  let minimum ← parseVersion required
  if engine.order minimum = .lt then .error (.engineTooOld name required engineVersion) else .ok ()

def readFile (name content : String) : Except Catalog.Refusal CatalogDocument :=
  match CatalogDocument.parse? content with
  | some file => .ok file
  | none => .error (.malformed name)

/-- Refuses descriptors of which one has a fault; the first such is named. -/
def checkAll (descriptors : List Descriptor) : Except Catalog.Refusal Unit :=
  descriptors.forM check

/-- Adds the descriptors of a catalog file, and answers with their number. -/
def load (name content : String) : Change Nat := do
  let file ← Update.require (readFile name content)
  Update.require (checkEngine name file.engineMinVersion)
  Update.require (checkAll file.descriptors)
  Update.change (fun catalog => catalog.insertAll file.descriptors)
  return file.descriptors.length

/-! ### Operations as data -/

inductive Operation where
  | add (descriptor : Descriptor)
  | load (name content : String)

def Operation.change : Operation → Change Nat
  | add descriptor => do
      Catalog.add descriptor
      return 1
  | load name content => Catalog.load name content

/-- The catalog after the operations, whether or not each is refused. -/
def run (catalog : Catalog) (operations : List Operation) : Catalog :=
  operations.foldl (fun catalog operation => Update.after operation.change catalog) catalog

def Reachable (catalog : Catalog) : Prop :=
  ∃ operations, catalog = run empty operations ∨ catalog = run standard operations

end Catalog

end TacticalSymbols

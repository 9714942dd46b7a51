import Std.Data.ExtTreeMap
import TacticalSymbols.Descriptor
import TacticalSymbols.Update

/-!
Catalogs of graphic types. A catalog keeps its descriptors by id and an index from the name of a
type to the id of the descriptor for it. A descriptor that is added takes the place of the one with
the same id and of the one for the same type.
-/

namespace TacticalSymbols

inductive Catalog.Refusal where
  | unreadable (path : String)
  | malformed (path : String)
  | engineTooOld (catalog required current : String)
  | invalidVersion (version : String)
  | invalidDescriptor (id : String) (fault : Descriptor.Fault)
  deriving DecidableEq, Repr

def Catalog.Refusal.message : Catalog.Refusal → String
  | unreadable path => "Failed to read catalog " ++ path
  | malformed path => "Failed to parse catalog " ++ path
  | engineTooOld catalog required current =>
      "Catalog " ++ catalog ++ " requires engine >= " ++ required ++ ", current is " ++ current
  | invalidVersion version => "Invalid version '" ++ version ++ "'"
  | invalidDescriptor id fault => "Invalid descriptor " ++ id ++ ": " ++ fault.reason

@[ext]
structure Catalog where
  byId : Std.ExtTreeMap String Descriptor
  /-- From the name of a type to the id of its descriptor. -/
  index : Std.ExtTreeMap String String

namespace Catalog

def empty : Catalog :=
  { byId := ∅, index := ∅ }

/-- Takes out the descriptor with the id, and its place in the index. -/
def withdraw (catalog : Catalog) (id : String) : Catalog :=
  match catalog.byId[id]? with
  | some previous =>
      { byId := catalog.byId.erase id, index := catalog.index.erase previous.ownTypeName }
  | none => catalog

/-- Enters the descriptor in the index, and takes out the one that stood there for the type. -/
def displace (catalog : Catalog) (descriptor : Descriptor) : Catalog :=
  { byId :=
      match catalog.index[descriptor.ownTypeName]? with
      | some displaced => catalog.byId.erase displaced
      | none => catalog.byId
    index := catalog.index.insert descriptor.ownTypeName descriptor.id }

def insert (catalog : Catalog) (descriptor : Descriptor) : Catalog :=
  let placed := (catalog.withdraw descriptor.id).displace descriptor
  { placed with byId := placed.byId.insert descriptor.id descriptor }

def insertAll (catalog : Catalog) (descriptors : List Descriptor) : Catalog :=
  descriptors.foldl insert catalog

def get? (catalog : Catalog) (id : String) : Option Descriptor :=
  catalog.byId[id]?

def toList (catalog : Catalog) : List Descriptor :=
  catalog.byId.toList.map Prod.snd

def size (catalog : Catalog) : Nat :=
  catalog.byId.size

def isEmpty (catalog : Catalog) : Bool :=
  catalog.byId.isEmpty

/-- The descriptor that the index holds for the name of a type, if it describes the fields. -/
def describing? (catalog : Catalog) (fields : CodeFields) (name : String) : Option Descriptor :=
  ((catalog.index[name]?).bind catalog.get?).filter (fun descriptor => descriptor.describes fields)

/-- The descriptor for the fields of a code: one for their very dimension comes before one that
leaves the dimension open. -/
def find? (catalog : Catalog) (fields : CodeFields) : Option Descriptor := do
  let scheme ← fields.scheme?
  let functionId ← fields.token? .functionId
  catalog.describing? fields (Descriptor.typeName scheme fields.dimension? functionId) <|>
    catalog.describing? fields (Descriptor.typeName scheme none functionId)

abbrev Change (α : Type) : Type :=
  Update Catalog.Refusal Catalog α

def check (descriptor : Descriptor) : Except Catalog.Refusal Unit :=
  match descriptor.fault? with
  | some fault => .error (.invalidDescriptor descriptor.id fault)
  | none => .ok ()

def add (descriptor : Descriptor) : Change Unit := do
  Update.require (check descriptor)
  Update.change (fun catalog => catalog.insert descriptor)

end Catalog

end TacticalSymbols

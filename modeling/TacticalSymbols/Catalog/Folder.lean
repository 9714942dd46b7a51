import TacticalSymbols.Catalog.Load

/-!
Loading a folder of catalog files. The files are taken in the order of their names, whatever the
order in which the folder lists them.
-/

namespace TacticalSymbols

structure FolderEntry where
  name : String
  /-- The text of a file; none where there is no text to be read. -/
  content? : Option String
  deriving DecidableEq, Repr

inductive Place where
  | missing
  | file
  | folder (entries : List FolderEntry)
  deriving DecidableEq, Repr

namespace FolderEntry

/-- The part of a name behind its last point; a name has none if that point comes first. -/
def extension? (name : String) : Option String :=
  let reversed := name.toList.reverse
  let behind := (reversed.takeWhile (· != '.')).reverse
  match reversed.dropWhile (· != '.') with
  | [] => none
  | [_] => none
  | _ :: _ => some (String.ofList behind)

def isCatalogFile (entry : FolderEntry) : Bool :=
  extension? entry.name == some "json"

/-- Whether one entry is loaded no later than the other: by the characters of the names. -/
def comesBefore (left right : FolderEntry) : Bool :=
  (compare left.name right.name).isLE

end FolderEntry

namespace Catalog

/-- The name that a file of the folder is loaded under. A path that is empty or ends in a separator is
followed by no other. -/
def pathOf (path : String) (entry : FolderEntry) : String :=
  if path.toList.getLast?.all (· == '/') then path ++ entry.name
  else path ++ "/" ++ entry.name

def loadEntry (path : String) (catalog : Catalog) (entry : FolderEntry) :
    Except Catalog.Refusal Catalog :=
  match entry.content? with
  | none => .error (.unreadable (pathOf path entry))
  | some content => Update.applied (load (pathOf path entry) content) catalog

def filesToLoad (entries : List FolderEntry) : List FolderEntry :=
  (entries.filter FolderEntry.isCatalogFile).mergeSort FolderEntry.comesBefore

/-- The standard set and then every catalog file of the folder at a path. A path where nothing
stands adds nothing. -/
def ofPlace (path : String) : Place → Except Catalog.Refusal Catalog
  | .missing => .ok standard
  | .file => .error (.unreadable path)
  | .folder entries => (filesToLoad entries).foldlM (loadEntry path) standard

end Catalog

end TacticalSymbols

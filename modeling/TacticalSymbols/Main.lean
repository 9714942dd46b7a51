import TacticalSymbols.CommandLine.Answer
import TacticalSymbols.Json.Printer

/-!
The command line program. It looks up what stands at the path of the catalog folder, prints the
answer and ends with its exit code.
-/

namespace TacticalSymbols.CommandLine

/-- Lists one name in a folder. Catalog files alone are read, and what is not a file of text has no
content. -/
def listEntry (entry : IO.FS.DirEntry) : IO FolderEntry := do
  let listed : FolderEntry := { name := entry.fileName, content? := none }
  if listed.isCatalogFile then
    let content? ← try some <$> IO.FS.readFile entry.path catch _ => pure none
    return { listed with content? := content? }
  else return listed

def lookAt (path : String) : IO Place := do
  let here : IO.FS.DirEntry := { root := path, fileName := "" }
  if ← here.root.isDir then
    let entries ← here.root.readDir
    return .folder (← entries.toList.mapM listEntry)
  else if ← here.root.pathExists then return .file
  else return .missing

def carryOut (arguments : List String) : IO UInt32 := do
  let answer ← match Invocation.ofArguments arguments with
    | .ok invocation => do
        let place ← lookAt invocation.catalogFolder
        pure (invocation.answer place)
    | .error refusal => pure (Answer.ofRefusal refusal)
  match answer.output? with
  | some output => IO.println output.pretty
  | none => IO.eprintln "usage: decode | encode | values | flags | compose | descriptors | create"
  return answer.exitCode.toUInt32

end TacticalSymbols.CommandLine

def main (arguments : List String) : IO UInt32 :=
  TacticalSymbols.CommandLine.carryOut arguments

import TacticalSymbols.Text

/-!
Unit and equipment flags. One token at position 11 stands for a combination of three flags. Every
combination but the empty one has exactly one token.
-/

namespace TacticalSymbols

structure UnitFlags where
  feintDummy : Bool
  headquarters : Bool
  taskForce : Bool
  deriving DecidableEq, Repr

namespace UnitFlags

def unset : UnitFlags :=
  { feintDummy := false, headquarters := false, taskForce := false }

def isEmpty (flags : UnitFlags) : Bool :=
  !(flags.feintDummy || flags.headquarters || flags.taskForce)

def describe (flags : UnitFlags) : String :=
  let names :=
    (if flags.feintDummy then ["feint/dummy"] else []) ++
    (if flags.headquarters then ["headquarters"] else []) ++
    (if flags.taskForce then ["task force"] else [])
  if names.isEmpty then "no flags" else " + ".intercalate names

def table : List (String × UnitFlags) :=
  [("A", ⟨false, true, false⟩),
    ("B", ⟨false, true, true⟩),
    ("C", ⟨true, true, false⟩),
    ("D", ⟨true, true, true⟩),
    ("E", ⟨false, false, true⟩),
    ("F", ⟨true, false, false⟩),
    ("G", ⟨true, false, true⟩)]

def ofToken? (token : String) : Option UnitFlags :=
  (table.find? (fun row => Text.sameLetters row.1 token)).map Prod.snd

def token? (flags : UnitFlags) : Option String :=
  (table.find? (fun row => row.2 == flags)).map Prod.fst

def withoutTokenMessage (flags : UnitFlags) : String :=
  "No unit/equipment code represents " ++ flags.describe

end UnitFlags

end TacticalSymbols

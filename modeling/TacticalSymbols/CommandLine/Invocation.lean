import TacticalSymbols.Axis
import TacticalSymbols.CommandLine.Arguments
import TacticalSymbols.Scheme
import TacticalSymbols.UnitFlags

/-!
Invocations: what a command line asks for.
-/

namespace TacticalSymbols.CommandLine

inductive Command where
  | decode (code : String)
  | encode (payload : String)
  | values (axis : Axis) (scheme? : Option Scheme)
  | flags (token : String)
  | compose (flags : UnitFlags)
  | descriptors
  | create (code positions : String) (parameters? : Option String)
  deriving DecidableEq, Repr

structure Invocation where
  catalogFolder : String
  /-- Whether to tell more about the work; it does not change the answer. -/
  verbose : Bool
  command : Command
  deriving DecidableEq, Repr

def defaultFolder : String := "catalog"

private def anyText : String → Bool :=
  fun _ => true

private def commandNames : List String :=
  ["decode", "encode", "values", "flags", "compose", "descriptors", "create", "help"]

private def topLevel : Level :=
  { options :=
      [.valued "catalog-dir" (some 'c') (fun path => !path.isEmpty), .switch "verbose" (some 'v')]
    operandLimit := 0
    commands := commandNames }

private def commandLevel (options : List OptionSpec) (operandLimit : Nat) : Level :=
  { options := options, operandLimit := operandLimit, commands := [] }

def levelOf (command : String) : Level :=
  if command = "decode" || command = "flags" then commandLevel [] 1
  else if command = "encode" then commandLevel [.valued "payload" (some 'p') anyText] 0
  else if command = "values" then
    commandLevel
      [.valued "axis" (some 'a') (fun name => (Axis.named? name).isSome),
        .valued "scheme" (some 's') (fun name => (Scheme.named? name).isSome)] 0
  else if command = "compose" then
    commandLevel
      [.switch "feint-dummy" none, .switch "headquarters" none, .switch "task-force" none] 0
  else if command = "create" then
    commandLevel
      [.valued "code" none anyText, .valued "positions" none anyText,
        .valued "params" none anyText] 0
  else commandLevel [] 0

def commandOf? (command : String) (matched : Matched) : Option Command :=
  if command = "decode" then matched.operands.head?.map .decode
  else if command = "encode" then (matched.value? "payload").map .encode
  else if command = "values" then
    ((matched.value? "axis").bind Axis.named?).map (fun axis =>
      .values axis ((matched.value? "scheme").bind Scheme.named?))
  else if command = "flags" then matched.operands.head?.map .flags
  else if command = "compose" then
    some (.compose
      { feintDummy := matched.isGiven "feint-dummy"
        headquarters := matched.isGiven "headquarters"
        taskForce := matched.isGiven "task-force" })
  else if command = "descriptors" then some .descriptors
  else if command = "create" then do
    let code ← matched.value? "code"
    let positions ← matched.value? "positions"
    return .create code positions (matched.value? "params")
  else none

/-- What the arguments ask for. The level of the command is read before the last option in front of
it is judged, so help on a command comes before the faults of that option. -/
def Invocation.ofArguments (arguments : List String) : Except Refusal Invocation := do
  let (begun, next?) ← topLevel.read Matched.empty false arguments
  match next? with
  | none => .error .usage
  | some (name, rest) =>
      let (matched, _) ← (levelOf name).read Matched.empty false rest
      match commandOf? name matched with
      | none => .error .usage
      | some command => do
          let options ← begun.close
          return {
            catalogFolder := (options.value? "catalog-dir").getD defaultFolder
            verbose := options.isGiven "verbose"
            command := command }

end TacticalSymbols.CommandLine

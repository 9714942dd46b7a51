/-!
Arguments of a command line. A level of the command line has options and operands, or options and
the name of a command; the arguments are taken from left to right, and the first that does not fit
ends the reading.
-/

namespace TacticalSymbols.CommandLine

inductive Refusal where
  | usage
  | help
  deriving DecidableEq, Repr

/-- An option, by its long name and perhaps a letter. -/
structure OptionSpec where
  long : String
  letter? : Option Char
  takesValue : Bool
  accepts : String → Bool

namespace OptionSpec

def switch (long : String) (letter? : Option Char) : OptionSpec :=
  { long := long, letter? := letter?, takesValue := false, accepts := fun _ => true }

def valued (long : String) (letter? : Option Char) (accepts : String → Bool) : OptionSpec :=
  { long := long, letter? := letter?, takesValue := true, accepts := accepts }

def help : OptionSpec :=
  switch "help" (some 'h')

end OptionSpec

structure Level where
  options : List OptionSpec
  /-- How many operands the level takes at most. -/
  operandLimit : Nat
  commands : List String

namespace Level

def allOptions (level : Level) : List OptionSpec :=
  level.options ++ [OptionSpec.help]

end Level

structure Matched where
  given : List (String × String)
  operands : List String
  /-- The option that was last begun, and its value if that has come. -/
  open? : Option (OptionSpec × Option String)

namespace Matched

def empty : Matched :=
  { given := [], operands := [], open? := none }

def isGiven (matched : Matched) (long : String) : Bool :=
  matched.given.any (fun option => option.1 == long)

def value? (matched : Matched) (long : String) : Option String :=
  matched.given.lookup long

/-- Notes an option. An option is given once at most, and its value must be one that it takes. -/
def note (matched : Matched) (option : OptionSpec) (value : String) : Except Refusal Matched :=
  if option.accepts value && !matched.isGiven option.long then
    .ok { matched with given := matched.given ++ [(option.long, value)] }
  else .error .usage

def close (matched : Matched) : Except Refusal Matched :=
  match matched.open? with
  | none => .ok matched
  | some (_, none) => .error .usage
  | some (option, some value) => note { matched with open? := none } option value

def takeSwitch (matched : Matched) (option : OptionSpec) : Except Refusal Matched := do
  let matched ← matched.close
  if option.long = OptionSpec.help.long then .error .help else matched.note option ""

def takeJoined (matched : Matched) (option : OptionSpec) (value : String) :
    Except Refusal Matched := do
  let matched ← matched.close
  matched.note option value

def begin (matched : Matched) (option : OptionSpec) : Except Refusal Matched := do
  let matched ← matched.close
  return { matched with open? := some (option, none) }

def awaitsValue (matched : Matched) : Bool :=
  match matched.open? with
  | some (_, none) => true
  | _ => false

def takeValue (matched : Matched) (value : String) : Matched :=
  match matched.open? with
  | some (option, _) => { matched with open? := some (option, some value) }
  | none => matched

def takeOperand (level : Level) (matched : Matched) (operand : String) :
    Except Refusal Matched := do
  let matched ← matched.close
  if matched.operands.length < level.operandLimit then
    return { matched with operands := matched.operands ++ [operand] }
  else .error .usage

def takeLong (level : Level) (matched : Matched) (characters : List Char) :
    Except Refusal Matched :=
  let name := String.ofList (characters.takeWhile (· != '='))
  match level.allOptions.find? (fun option => option.long == name) with
  | none => .error .usage
  | some option =>
      match option.takesValue, characters.dropWhile (· != '=') with
      | true, [] => matched.begin option
      | true, _ :: value => matched.takeJoined option (String.ofList value)
      | false, [] => matched.takeSwitch option
      | false, _ :: _ => .error .usage

/-- Takes a run of letters. The value of an option is the rest of the run, where there is a rest. -/
def takeLetters (level : Level) (matched : Matched) : List Char → Except Refusal Matched
  | [] => .ok matched
  | letter :: rest =>
      match level.allOptions.find? (fun option => option.letter? == some letter) with
      | none => .error .usage
      | some option =>
          if option.takesValue then
            match rest with
            | [] => matched.begin option
            | '=' :: value => matched.takeJoined option (String.ofList value)
            | value => matched.takeJoined option (String.ofList value)
          else do
            let matched ← matched.takeSwitch option
            takeLetters level matched rest

end Matched

/-- Names the command that help is asked for, or none for the whole command line. -/
def helpOn (level : Level) : List String → Refusal
  | [] => .help
  | [name] => if level.commands.contains name then .help else .usage
  | _ => .usage

/-- The options and operands of a level, and the command that follows with its own arguments. An
option that was begun just before the command is still open: it is closed only once the command's
own level has been read. -/
def Level.read (level : Level) (matched : Matched) (onlyOperands : Bool) :
    List String → Except Refusal (Matched × Option (String × List String))
  | [] => do return (← matched.close, none)
  | argument :: rest =>
      if onlyOperands then do
        level.read (← matched.takeOperand level argument) true rest
      else if !matched.awaitsValue && level.commands.contains argument then
        if argument = OptionSpec.help.long then .error (helpOn level rest)
        else .ok (matched, some (argument, rest))
      else
        match argument.toList with
        | ['-', '-'] => level.read matched true rest
        | '-' :: '-' :: characters => do
            level.read (← matched.takeLong level characters) false rest
        | '-' :: letter :: letters => do
            level.read (← matched.takeLetters level (letter :: letters)) false rest
        | _ =>
            if matched.awaitsValue then level.read (matched.takeValue argument) false rest
            else do level.read (← matched.takeOperand level argument) false rest

end TacticalSymbols.CommandLine

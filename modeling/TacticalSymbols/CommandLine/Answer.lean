import TacticalSymbols.Catalog.Folder
import TacticalSymbols.CommandLine.Invocation
import TacticalSymbols.Document.Graphic
import TacticalSymbols.Graphic.Create

/-!
Answers to invocations: a JSON value to print, and an exit code. Exit code 0 says that all is well,
2 that a code or a command line is not valid, and 1 that something given with it cannot be read.
-/

namespace TacticalSymbols.CommandLine

structure Answer where
  exitCode : Nat
  output? : Option Json

namespace Answer

def success (output : Json) : Answer :=
  { exitCode := 0, output? := some output }

def invalid (output : Json) : Answer :=
  { exitCode := 2, output? := some output }

def failure (message : String) : Answer :=
  { exitCode := 1, output? := some (Json.record [("error", Json.ofText message)]) }

def ofRefusal : Refusal → Answer
  | .usage => { exitCode := 2, output? := none }
  | .help => { exitCode := 0, output? := none }

end Answer

def readText? {α : Type} (read : Json → Option α) (text : String) : Option α :=
  (Json.parse? text).bind read

def answerDecode (code : String) : Answer :=
  let report := Report.on code
  if report.isValid then .success report.toJson else .invalid report.toJson

def answerEncode (payload : String) : Answer :=
  match readText? CodeFields.ofJson? payload with
  | none => .failure "Invalid payload: not an object of axes and tokens"
  | some fields =>
      match fields.encode with
      | .ok code => .success (Json.record [("valid", .bool true), ("code", Json.ofText code)])
      | .error failure =>
          .invalid (Json.record [("valid", .bool false), ("error", Json.ofText failure.message)])

def answerValues (axis : Axis) (scheme? : Option Scheme) : Answer :=
  match scheme? with
  | some scheme =>
      let legal := legalTokens axis scheme
      .success (Json.record
        [("axis", axis.toJson),
          ("scheme", scheme.toJson),
          ("open", .bool legal.isOpen),
          ("values", .array (legal.tokens.map Json.ofText))])
  | none =>
      .success (Json.record
        [("axis", axis.toJson),
          ("open", .bool (axis == .functionId)),
          ("values", .array ((anyLegalTokens axis).map Json.ofText))])

def answerFlags (token : String) : Answer :=
  match UnitFlags.ofToken? token with
  | some flags =>
      .success (Json.record [("token", Json.ofText (Text.upper token)), ("flags", flags.toJson)])
  | none =>
      .invalid (Json.record
        [("token", Json.ofText token), ("error", Json.ofText "Not a unit/equipment token")])

def answerCompose (flags : UnitFlags) : Answer :=
  match flags.token? with
  | some token =>
      .success (Json.record [("flags", flags.toJson), ("token", Json.ofText token)])
  | none =>
      .invalid (Json.record
        [("flags", flags.toJson), ("error", Json.ofText flags.withoutTokenMessage)])

def summaryOf (descriptor : Descriptor) : Json :=
  Json.record
    [("id", Json.ofText descriptor.id),
      ("name", Json.ofText descriptor.name),
      ("scheme", descriptor.scheme.toJson),
      ("kind", descriptor.geometry.toJson),
      ("controlPoints", Json.ofText descriptor.points.describe)]

def answerDescriptors (catalog : Catalog) : Answer :=
  .success (.array (catalog.toList.map summaryOf))

def answerCreate (catalog : Catalog) (code positions : String) (parameters? : Option String) :
    Answer :=
  match readText? (Json.list? Position.ofJson?) positions with
  | none => .failure "Invalid positions: not an array of positions"
  | some positions =>
      match parameters?.mapM (readText? Parameters.ofJson?) with
      | none => .failure "Invalid params: not an object of modifier values"
      | some parameters? =>
          match Graphic.create catalog code positions parameters? with
          | .ok graphic =>
              .success (Json.record
                [("success", .bool true), ("graphic", graphic.rendering.toJson)])
          | .error failure =>
              .invalid (Json.record
                [("success", .bool false), ("error", Json.ofText failure.message)])

def withCatalog (folder : String) (place : Place) (answer : Catalog → Answer) : Answer :=
  match Catalog.ofPlace folder place with
  | .ok catalog => answer catalog
  | .error failure => .failure ("Failed to load catalog: " ++ failure.message)

/-- The answer to an invocation, given what stands at the path of its catalog folder. -/
def Invocation.answer (invocation : Invocation) (place : Place) : Answer :=
  match invocation.command with
  | .decode code => answerDecode code
  | .encode payload => answerEncode payload
  | .values axis scheme? => answerValues axis scheme?
  | .flags token => answerFlags token
  | .compose flags => answerCompose flags
  | .descriptors => withCatalog invocation.catalogFolder place answerDescriptors
  | .create code positions parameters? =>
      withCatalog invocation.catalogFolder place (fun catalog =>
        answerCreate catalog code positions parameters?)

end TacticalSymbols.CommandLine

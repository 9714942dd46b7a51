import TacticalSymbols.Document.Shape
import TacticalSymbols.Code.Reading
import TacticalSymbols.UnitFlags

/-!
Symbol codes, flags and reports as documents.
-/

namespace TacticalSymbols

def Scheme.ofKey? (word : String) : Option Scheme :=
  Scheme.all.find? (fun scheme => scheme.key == word)

def Scheme.toJson (scheme : Scheme) : Json :=
  Json.ofText scheme.key

def Scheme.ofJson? : Json → Option Scheme :=
  Json.variant? Scheme.ofKey?

def Axis.ofKey? (word : String) : Option Axis :=
  Axis.all.find? (fun axis => axis.key == word)

def Axis.toJson (axis : Axis) : Json :=
  Json.ofText axis.key

def Axis.ofJson? : Json → Option Axis :=
  Json.variant? Axis.ofKey?

namespace CodeFields

def toJson (fields : CodeFields) : Json :=
  Json.record (fields.toList.map (fun item => (item.1.key, Json.ofText item.2)))

def ofJson? (json : Json) : Option CodeFields :=
  (json.entries? Axis.ofKey? Json.text?).map ofList

end CodeFields

namespace UnitFlags

def toJson (flags : UnitFlags) : Json :=
  Json.record
    [("feint_dummy", .bool flags.feintDummy),
      ("headquarters", .bool flags.headquarters),
      ("task_force", .bool flags.taskForce)]

def ofJson? (json : Json) : Option UnitFlags := do
  match ← json.parts? ["feint_dummy", "headquarters", "task_force"] with
  | [feintDummy, headquarters, taskForce] =>
      return {
        feintDummy := ← Json.required? Json.bool? feintDummy
        headquarters := ← Json.required? Json.bool? headquarters
        taskForce := ← Json.required? Json.bool? taskForce }
  | _ => none

end UnitFlags

namespace Violation

def toJson (violation : Violation) : Json :=
  Json.record
    [("axis", violation.axis.toJson),
      ("token", Json.ofText violation.token),
      ("position", Json.ofNat violation.position),
      ("expected", .array (violation.expected.map Json.ofText))]

def ofJson? (json : Json) : Option Violation := do
  match ← json.parts? ["axis", "token", "position", "expected"] with
  | [axis, token, position, expected] =>
      return {
        axis := ← Json.required? Axis.ofJson? axis
        token := ← Json.required? Json.text? token
        position := ← Json.required? Json.count? position
        expected := ← Json.defaulted? (Json.list? Json.text?) [] expected }
  | _ => none

end Violation

namespace Report

def toJson (report : Report) : Json :=
  Json.record
    [("valid", .bool report.isValid),
      ("code", Json.ofText report.code),
      ("scheme", Json.ofOption Scheme.toJson report.scheme?),
      ("fields", report.fields.toJson),
      ("violations", .array (report.violations.map Violation.toJson)),
      ("error", Json.ofOption Json.ofText report.error?)]

def ofJson? (json : Json) : Option Report := do
  match ← json.parts? ["valid", "code", "scheme", "fields", "violations", "error"] with
  | [isValid, code, scheme, fields, violations, error] =>
      return {
        isValid := ← Json.required? Json.bool? isValid
        code := ← Json.required? Json.text? code
        scheme? := ← Json.defaulted? (Json.nullable? Scheme.ofJson?) none scheme
        fields := ← Json.required? CodeFields.ofJson? fields
        violations := ← Json.required? (Json.list? Violation.ofJson?) violations
        error? := ← Json.defaulted? (Json.nullable? Json.text?) none error }
  | _ => none

end Report

end TacticalSymbols

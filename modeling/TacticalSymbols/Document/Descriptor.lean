import TacticalSymbols.Descriptor
import TacticalSymbols.Document.Code
import TacticalSymbols.Document.Modifier
import TacticalSymbols.Json.Reader

/-!
Descriptors of graphic types as documents, and catalog files, which are documents that add graphic
types to a catalog.
-/

namespace TacticalSymbols

namespace Geometry

def key : Geometry → String
  | point => "point"
  | line => "line"
  | area => "area"

def ofKey? (word : String) : Option Geometry :=
  [point, line, area].find? (fun geometry => geometry.key == word)

def toJson (geometry : Geometry) : Json :=
  Json.ofText geometry.key

def ofJson? : Json → Option Geometry :=
  Json.variant? ofKey?

end Geometry

namespace PointRule

def toJson : PointRule → Json
  | exactly count => Json.record [("rule", Json.ofText "exactly"), ("count", Json.ofNat count)]
  | atLeast count => Json.record [("rule", Json.ofText "atLeast"), ("count", Json.ofNat count)]

/-- The rule that a word stands for, still without its count. -/
def ofKey? (word : String) : Option (Nat → PointRule) :=
  if word = "exactly" then some exactly
  else if word = "atLeast" then some atLeast
  else none

def ofJson? (json : Json) : Option PointRule := do
  let (rule, content) ← json.tagged? ofKey? "rule" "count"
  return rule (← content.count?)

end PointRule

namespace Descriptor

def toJson (descriptor : Descriptor) : Json :=
  Json.record
    [("id", Json.ofText descriptor.id),
      ("name", Json.ofText descriptor.name),
      ("scheme", descriptor.scheme.toJson),
      ("dimension", Json.ofOption Json.ofText descriptor.dimension?),
      ("functionId", Json.ofText descriptor.functionId),
      ("kind", descriptor.geometry.toJson),
      ("controlPoints", descriptor.points.toJson),
      ("modifiers", .array (descriptor.modifiers.map Modifier.toJson))]

def ofJson? (json : Json) : Option Descriptor := do
  match ← json.parts?
      ["id", "name", "scheme", "dimension", "functionId", "kind", "controlPoints", "modifiers"] with
  | [id, name, scheme, dimension, functionId, geometry, points, modifiers] =>
      return {
        id := ← Json.required? Json.text? id
        name := ← Json.required? Json.text? name
        scheme := ← Json.required? Scheme.ofJson? scheme
        dimension? := ← Json.defaulted? (Json.nullable? Json.text?) none dimension
        functionId := ← Json.required? Json.text? functionId
        geometry := ← Json.required? Geometry.ofJson? geometry
        points := ← Json.required? PointRule.ofJson? points
        modifiers := ← Json.defaulted? (Json.list? Modifier.ofJson?) [] modifiers }
  | _ => none

end Descriptor

/-! ### Catalog files -/

structure CatalogDocument where
  catalogVersion : String
  engineMinVersion : String
  descriptors : List Descriptor

namespace CatalogDocument

def ofJson? (json : Json) : Option CatalogDocument := do
  match ← json.parts? ["catalogVersion", "engineMinVersion", "descriptors"] with
  | [catalogVersion, engineMinVersion, descriptors] =>
      return {
        catalogVersion := ← Json.required? Json.text? catalogVersion
        engineMinVersion := ← Json.required? Json.text? engineMinVersion
        descriptors := ← Json.defaulted? (Json.list? Descriptor.ofJson?) [] descriptors }
  | _ => none

def parse? (content : String) : Option CatalogDocument :=
  (Json.parse? content).bind ofJson?

end CatalogDocument

end TacticalSymbols

import TacticalSymbols.Document.Descriptor
import TacticalSymbols.Graphic.Create
import TacticalSymbols.Graphic.Render

/-!
Positions, appearance, parameters and renderings as documents.
-/

namespace TacticalSymbols

namespace Position

def toJson (position : Position) : Json :=
  Json.record
    [("latitude", Json.ofFloat position.latitude),
      ("longitude", Json.ofFloat position.longitude),
      ("altitude", Json.ofFloat position.altitude)]

def ofJson? (json : Json) : Option Position := do
  match ← json.parts? ["latitude", "longitude", "altitude"] with
  | [latitude, longitude, altitude] =>
      return {
        latitude := ← Json.required? Json.float? latitude
        longitude := ← Json.required? Json.float? longitude
        altitude := ← Json.defaulted? Json.float? 0.0 altitude }
  | _ => none

end Position

namespace Display

def toJson (display : Display) : Json :=
  Json.record
    [("showFill", .bool display.showFill),
      ("showFrame", .bool display.showFrame),
      ("showIcon", .bool display.showIcon)]

def ofJson? (json : Json) : Option Display := do
  match ← json.parts? ["showFill", "showFrame", "showIcon"] with
  | [showFill, showFrame, showIcon] =>
      return {
        showFill := ← Json.required? Json.bool? showFill
        showFrame := ← Json.required? Json.bool? showFrame
        showIcon := ← Json.required? Json.bool? showIcon }
  | _ => none

end Display

namespace Style

def toJson (style : Style) : Json :=
  Json.record
    [("scale", Json.ofFloat style.scale),
      ("outlineWidth", Json.ofFloat style.outlineWidth),
      ("outlineOpacity", Json.ofFloat style.outlineOpacity),
      ("interiorOpacity", Json.ofFloat style.interiorOpacity),
      ("textColor", Json.ofOption Json.ofText style.textColor?)]

/-- Parts that are missing are those of the standard style. -/
def ofJson? (json : Json) : Option Style := do
  match ← json.parts?
      ["scale", "outlineWidth", "outlineOpacity", "interiorOpacity", "textColor"] with
  | [scale, outlineWidth, outlineOpacity, interiorOpacity, textColor] =>
      return {
        scale := ← Json.defaulted? Json.float? standard.scale scale
        outlineWidth := ← Json.defaulted? Json.float? standard.outlineWidth outlineWidth
        outlineOpacity := ← Json.defaulted? Json.float? standard.outlineOpacity outlineOpacity
        interiorOpacity := ← Json.defaulted? Json.float? standard.interiorOpacity interiorOpacity
        textColor? :=
          ← Json.defaulted? (Json.nullable? Json.text?) standard.textColor? textColor }
  | _ => none

end Style

namespace Parameters

def valueOfJson? : Json → Option ParameterValue
  | .bool set => some (.flag set)
  | .number value => value.float?.map .number
  | .string text? => text?.map .text
  | _ => none

def ofJson? (json : Json) : Option Parameters :=
  (json.entries? some valueOfJson?).map ofPairs

end Parameters

namespace Rendering

def modifiersToJson (modifiers : List (Modifier × Modifier.Value)) : Json :=
  Json.record (modifiers.map (fun modifier => (modifier.1.name, modifier.2.toJson)))

/-- The modifiers that an object names, each once and in the order of modifiers; of two values for
one the later counts. -/
def modifiersOfJson? (json : Json) : Option (List (Modifier × Modifier.Value)) := do
  let named ← json.entries? Modifier.ofName? Modifier.Value.ofJson?
  return Modifier.all.filterMap (fun modifier =>
    (named.reverse.lookup modifier).map (fun value => (modifier, value)))

def toJson (rendering : Rendering) : Json :=
  Json.record
    [("identifier", Json.ofText rendering.identifier),
      ("descriptor", Json.ofText rendering.descriptor),
      ("kind", rendering.geometry.toJson),
      ("visible", .bool rendering.visible),
      ("positions", .array (rendering.positions.map Position.toJson)),
      ("display", rendering.display.toJson),
      ("style", rendering.style.toJson),
      ("modifiers", modifiersToJson rendering.modifiers)]

def ofJson? (json : Json) : Option Rendering := do
  match ← json.parts?
      ["identifier", "descriptor", "kind", "visible", "positions", "display", "style",
        "modifiers"] with
  | [identifier, descriptor, geometry, visible, positions, display, style, modifiers] =>
      return {
        identifier := ← Json.required? Json.text? identifier
        descriptor := ← Json.required? Json.text? descriptor
        geometry := ← Json.required? Geometry.ofJson? geometry
        visible := ← Json.required? Json.bool? visible
        positions := ← Json.required? (Json.list? Position.ofJson?) positions
        display := ← Json.required? Display.ofJson? display
        style := ← Json.required? Style.ofJson? style
        modifiers := ← Json.required? modifiersOfJson? modifiers }
  | _ => none

end Rendering

end TacticalSymbols

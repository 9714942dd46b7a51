import TacticalSymbols.Document.Shape
import TacticalSymbols.Markings

/-!
Modifiers, their values and markings as documents.
-/

namespace TacticalSymbols

def Modifier.ofName? (name : String) : Option Modifier :=
  Modifier.all.find? (fun modifier => modifier.name == name)

def Modifier.toJson (modifier : Modifier) : Json :=
  Json.ofText modifier.name

def Modifier.ofJson? : Json → Option Modifier :=
  Json.variant? Modifier.ofName?

def Modifier.Kind.key : Modifier.Kind → String
  | flag => "flag"
  | token => "token"
  | text => "text"

def Modifier.Kind.ofKey? (word : String) : Option Modifier.Kind :=
  [flag, token, text].find? (fun kind => kind.key == word)

namespace Modifier.Value

def toJson : Modifier.Value → Json
  | flag set => Json.record [("type", Json.ofText Kind.flag.key), ("value", .bool set)]
  | token held => Json.record [("type", Json.ofText Kind.token.key), ("value", Json.ofText held)]
  | text held => Json.record [("type", Json.ofText Kind.text.key), ("value", Json.ofText held)]

def ofJson? (json : Json) : Option Modifier.Value := do
  let (kind, content) ← json.tagged? Kind.ofKey? "type" "value"
  match kind with
  | .flag => content.bool?.map flag
  | .token => content.text?.map token
  | .text => content.text?.map text

end Modifier.Value

namespace Marking

def toJson (marking : Marking) : Json :=
  Json.record
    [("value", Json.ofOption Modifier.Value.toJson marking.value?),
      ("visible", .bool marking.visible)]

def ofJson? (json : Json) : Option Marking := do
  match ← json.parts? ["value", "visible"] with
  | [value, visible] =>
      return {
        value? := ← Json.defaulted? (Json.nullable? Modifier.Value.ofJson?) none value
        visible := ← Json.required? Json.bool? visible }
  | _ => none

end Marking

namespace Markings

def toJson (markings : Markings) : Json :=
  Json.record (markings.toList.map (fun item => (item.1.name, item.2.toJson)))

def ofJson? (json : Json) : Option Markings :=
  (json.entries? Modifier.ofName? Marking.ofJson?).map ofList

end Markings

end TacticalSymbols

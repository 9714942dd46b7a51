import TacticalSymbols.Json.Value

/-!
The shapes that documents are built from: records, maps, variants and tagged values. Each reader
refuses a value of another shape; none of them says why.
-/

namespace TacticalSymbols.Json

/-- The values of a record's parts, in the order of their names. An object names its parts, in any
order, each at most once and beside others that are ignored. An array lists them in order, and may
leave off the last ones. -/
def parts? (names : List String) : Json → Option (List (Option Json))
  | array items =>
      if items.length ≤ names.length then
        some (names.zipIdx.map (fun item => items[item.2]?))
      else none
  | object members =>
      let allNamed := members.all (fun member => member.1.isSome)
      let valuesOf (name : String) : List Json :=
        (members.filter (fun member => member.1 == some name)).map Prod.snd
      if allNamed && names.all (fun name => (valuesOf name).length ≤ 1) then
        some (names.map (fun name => (valuesOf name).head?))
      else none
  | _ => none

def required? {α : Type} (read : Json → Option α) (part : Option Json) : Option α :=
  part.bind read

def defaulted? {α : Type} (read : Json → Option α) (default : α) : Option Json → Option α
  | none => some default
  | some json => read json

def nullable? {α : Type} (read : Json → Option α) : Json → Option (Option α)
  | null => some none
  | json => (read json).map some

def list? {α : Type} (read : Json → Option α) : Json → Option (List α)
  | array items => items.mapM read
  | _ => none

/-- The members of an object whose names are words of some kind, in order. -/
def entries? {κ α : Type} (readName : String → Option κ) (read : Json → Option α) :
    Json → Option (List (κ × α))
  | object members =>
      members.mapM (fun member => do
        let name ← member.1
        return (← readName name, ← read member.2))
  | _ => none

/-- One of a closed set of words: the word alone, or the word as the one name of an object whose
value is null. -/
def variant? {α : Type} (readWord : String → Option α) : Json → Option α
  | string (some word) => readWord word
  | object [(some word, null)] => readWord word
  | _ => none

/-- A word and the content that goes with it: a pair of the word and the content, or the two members
of an object, each once and beside others that are ignored. Only in an object may the word take the
form with null. -/
def tagged? {α : Type} (readWord : String → Option α) (tagName contentName : String) :
    Json → Option (α × Json)
  | array [string (some word), content] => (readWord word).map (fun tag => (tag, content))
  | object members =>
      match parts? [tagName, contentName] (object members) with
      | some [some tag, some content] =>
          (variant? readWord tag).map (fun tag => (tag, content))
      | _ => none
  | _ => none

end TacticalSymbols.Json

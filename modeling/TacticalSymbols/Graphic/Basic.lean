import TacticalSymbols.Code.Reading
import TacticalSymbols.Code.Writing
import TacticalSymbols.Descriptor
import TacticalSymbols.Markings
import TacticalSymbols.UnitFlags

/-!
Graphics placed on the map. A graphic keeps its code as written, the fields read from it, and
markings that repeat what the fields say. The markings are aligned with the fields whenever these
change. Control points are added and subtracted component by component; nothing here wraps a longitude
or bounds a latitude.
-/

namespace TacticalSymbols

/-! ### Control points -/

/-- Degrees of latitude and longitude, and metres of altitude. -/
@[ext]
structure Position where
  latitude : Float
  longitude : Float
  altitude : Float

namespace Position

instance : Add Position where
  add position difference :=
    { latitude := position.latitude + difference.latitude
      longitude := position.longitude + difference.longitude
      altitude := position.altitude + difference.altitude }

instance : Sub Position where
  sub position origin :=
    { latitude := position.latitude - origin.latitude
      longitude := position.longitude - origin.longitude
      altitude := position.altitude - origin.altitude }

end Position

/-! ### Appearance -/

structure Display where
  showFill : Bool
  showFrame : Bool
  showIcon : Bool
  deriving DecidableEq, Repr

def Display.full : Display :=
  { showFill := true, showFrame := true, showIcon := true }

structure Style where
  scale : Float
  outlineWidth : Float
  outlineOpacity : Float
  interiorOpacity : Float
  /-- None draws text in the colour of the standard identity. -/
  textColor? : Option String

def Style.standard : Style :=
  { scale := 1.0
    outlineWidth := 1.0
    outlineOpacity := 1.0
    interiorOpacity := 0.5
    textColor? := none }

/-! ### Graphics -/

inductive Graphic.Refusal where
  | unreadable (reason : ReadError)
  | unwritable (reason : WriteError)
  | noToken (flags : UnitFlags)
  | unknownType (scheme : Scheme) (dimension? : Option String) (functionId : String)
  | wrongPointCount (descriptor : String) (expected : PointRule) (actual : Nat)
  | typeChanged (descriptor code : String)
  deriving DecidableEq

def Graphic.Refusal.message : Graphic.Refusal → String
  | unreadable reason => reason.message
  | unwritable reason => reason.message
  | noToken flags => flags.withoutTokenMessage
  | unknownType scheme _ functionId =>
      "Unknown graphic type: " ++ scheme.name ++ " function " ++ functionId
  | wrongPointCount descriptor expected actual =>
      "Graphic " ++ descriptor ++ " takes " ++ expected.describe ++ " control points, got " ++
        toString actual
  | typeChanged descriptor code =>
      "Code " ++ code ++ " does not identify a " ++ descriptor ++ " graphic"

@[ext]
structure Graphic where
  identifier : String
  fields : CodeFields
  descriptor : Descriptor
  positions : List Position
  markings : Markings
  display : Display
  /-- The style of its own, where it has one. -/
  style? : Option Style
  visible : Bool

namespace CodeFields

def unitFlags (fields : CodeFields) : UnitFlags :=
  ((fields.token? .unitEquipment).bind UnitFlags.ofToken?).getD UnitFlags.unset

/-- The flags that a code shows: an installation may be a feint or dummy, too. -/
def shownFlags (fields : CodeFields) : UnitFlags :=
  { fields.unitFlags with
    feintDummy :=
      fields.unitFlags.feintDummy || fields.token? .installation == some Installation.feintDummy }

end CodeFields

def UnitFlags.flag (flags : UnitFlags) : Modifier → Bool
  | .feintDummy => flags.feintDummy
  | .headquarters => flags.headquarters
  | _ => flags.taskForce

namespace Markings

/-- The marking of a modifier once its value is taken from the fields, if these store it. -/
def aligned (fields : CodeFields) (modifier : Modifier) (marking? : Option Marking) :
    Option Marking :=
  match modifier.kind with
  | .flag =>
      some { marking?.getD Marking.initial with
        value? := some (.flag (fields.shownFlags.flag modifier)) }
  | .token =>
      match modifier.axis?.bind fields.token? with
      | some token => some { marking?.getD Marking.initial with value? := some (.token token) }
      | none => marking?.map (fun marking => { marking with value? := none })
  | .text => marking?

/-- Takes from the fields what they store, and drops the modifiers that the descriptor does not
carry. -/
def align (markings : Markings) (descriptor : Descriptor) (fields : CodeFields) : Markings :=
  { marking? := fun modifier =>
      if descriptor.carries modifier then aligned fields modifier (markings.marking? modifier)
      else none }

end Markings

namespace Descriptor

def checkType (descriptor : Descriptor) (text : String) (fields : CodeFields) :
    Except Graphic.Refusal Unit :=
  if descriptor.describes fields then .ok () else .error (.typeChanged descriptor.id text)

def checkCount (descriptor : Descriptor) (count : Nat) : Except Graphic.Refusal Unit :=
  if descriptor.points.accepts count then .ok ()
  else .error (.wrongPointCount descriptor.id descriptor.points count)

end Descriptor

namespace Graphic

def readCode (text : String) : Except Refusal CodeFields :=
  (CodeFields.decode text).mapError Refusal.unreadable

def new (text : String) (descriptor : Descriptor) (positions : List Position) :
    Except Refusal Graphic := do
  let fields ← readCode text
  descriptor.checkType text fields
  descriptor.checkCount positions.length
  return {
    identifier := Text.upper text
    fields := fields
    descriptor := descriptor
    positions := positions
    markings := Markings.empty.align descriptor fields
    display := Display.full
    style? := none
    visible := true }

def geometry (graphic : Graphic) : Geometry :=
  graphic.descriptor.geometry

def style (graphic : Graphic) : Style :=
  graphic.style?.getD Style.standard

/-- The position that labels are placed at and that the graphic is moved by. -/
def anchor? (graphic : Graphic) : Option Position :=
  graphic.positions.head?

/-- The modifier of a spelling, if graphics of this type carry it. -/
def carried? (graphic : Graphic) (spelling : String) : Option Modifier :=
  (Modifier.ofSpelling? spelling).filter graphic.descriptor.carries

/-- Whether a modifier is shown; one that the graphic does not carry is not. -/
def showsModifier (graphic : Graphic) (spelling : String) : Bool :=
  (graphic.carried? spelling).any graphic.markings.isVisible

/-- The value of a modifier; one that the graphic does not carry has none. -/
def modifier? (graphic : Graphic) (spelling : String) : Option Modifier.Value :=
  (graphic.carried? spelling).bind graphic.markings.value?

def designation? (graphic : Graphic) : Option String :=
  (graphic.modifier? Modifier.text.name).bind Modifier.Value.text?

end Graphic

end TacticalSymbols

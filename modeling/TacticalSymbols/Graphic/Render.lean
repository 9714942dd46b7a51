import TacticalSymbols.Graphic.Basic

/-!
What a renderer reads of a graphic: the modifiers to draw, and the shape they are drawn with.
-/

namespace TacticalSymbols

structure Rendering where
  identifier : String
  descriptor : String
  geometry : Geometry
  visible : Bool
  positions : List Position
  display : Display
  style : Style
  modifiers : List (Modifier × Modifier.Value)

inductive Outline where
  | path
  | region
  deriving DecidableEq, Repr

namespace Graphic

/-- The value that a marking has drawn, if it has any. A flag that is not set is not drawn. -/
def drawnValue? (descriptor : Descriptor) (modifier : Modifier) (marking : Marking) :
    Option Modifier.Value :=
  if marking.visible && descriptor.carries modifier then
    marking.value?.filter (fun value => value.flag? != some false)
  else none

/-- The modifiers that are drawn, in the order of modifiers; a graphic that is not visible draws
none. -/
def drawnModifiers (graphic : Graphic) : List (Modifier × Modifier.Value) :=
  if graphic.visible then
    graphic.markings.toList.filterMap (fun item =>
      (drawnValue? graphic.descriptor item.1 item.2).map (fun value => (item.1, value)))
  else []

def rendering (graphic : Graphic) : Rendering :=
  { identifier := graphic.identifier
    descriptor := graphic.descriptor.id
    geometry := graphic.geometry
    visible := graphic.visible
    positions := graphic.positions
    display := graphic.display
    style := graphic.style
    modifiers := graphic.drawnModifiers }

def showsIcon (graphic : Graphic) : Bool :=
  graphic.visible && graphic.display.showIcon

def outline (graphic : Graphic) : Outline :=
  if graphic.geometry = .area then .region else .path

def isClosed (graphic : Graphic) : Bool :=
  graphic.outline == .region

def isFilled (graphic : Graphic) : Bool :=
  graphic.isClosed && graphic.display.showFill

end Graphic

end TacticalSymbols

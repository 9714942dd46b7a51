import TacticalSymbols.Graphic.Basic
import TacticalSymbols.Text
import TacticalSymbols.Update

/-!
Changes of a graphic. Everything that can refuse a change comes before the first part of the graphic
is written. As data they are operations, so that runs of them can be spoken of.
-/

namespace TacticalSymbols.Graphic

abbrev Change : Type :=
  Update Graphic.Refusal Graphic Unit

def alignMarkings (graphic : Graphic) : Graphic :=
  { graphic with markings := graphic.markings.align graphic.descriptor graphic.fields }

def recode (text : String) : Change := do
  let graphic ← get
  let fields ← Update.require (readCode text)
  Update.require (graphic.descriptor.checkType text fields)
  Update.change (fun graphic => { graphic with identifier := Text.upper text })
  Update.change (fun graphic => { graphic with fields := fields })
  Update.change alignMarkings

def reposition (positions : List Position) : Change := do
  let graphic ← get
  Update.require (graphic.descriptor.checkCount positions.length)
  Update.change (fun graphic => { graphic with positions := positions })

def setVisible (visible : Bool) : Change :=
  Update.change (fun graphic => { graphic with visible := visible })

def setDisplay (display : Display) : Change :=
  Update.change (fun graphic => { graphic with display := display })

def setStyle (style? : Option Style) : Change :=
  Update.change (fun graphic => { graphic with style? := style? })

/-- Shows or hides a modifier. One that the graphic does not carry is left alone. -/
def showModifier (spelling : String) (visible : Bool) : Change := do
  let graphic ← get
  match graphic.carried? spelling with
  | some modifier =>
      Update.change (fun graphic =>
        { graphic with markings := graphic.markings.setVisible modifier visible })
  | none => return ()

def takeOver (fields : CodeFields) : Change := do
  let identifier ← Update.require (fields.encode.mapError Graphic.Refusal.unwritable)
  Update.change (fun graphic => { graphic with identifier := identifier })
  Update.change (fun graphic => { graphic with fields := fields })
  Update.change alignMarkings

def withFlag (flags : UnitFlags) (modifier : Modifier) (set : Bool) : UnitFlags :=
  match modifier with
  | .feintDummy => { flags with feintDummy := set }
  | .headquarters => { flags with headquarters := set }
  | .taskForce => { flags with taskForce := set }
  | _ => flags

/-- The fields with a flag set or unset. An installation says itself whether it is a feint or dummy;
all other flags are in the unit and equipment token, which goes when no flag is left. -/
def fieldsWithFlag (fields : CodeFields) (modifier : Modifier) (set : Bool) :
    Except Graphic.Refusal CodeFields :=
  if modifier = .feintDummy && fields.contains .installation then
    .ok (fields.set .installation (if set then Installation.feintDummy else Installation.normal))
  else
    let flags := withFlag fields.unitFlags modifier set
    if flags.isEmpty then .ok (fields.remove .unitEquipment)
    else
      match flags.token? with
      | some token => .ok (fields.set .unitEquipment token)
      | none => .error (.noToken flags)

/-- The fields with a token put on an axis. The token is taken without white space around it and in
capitals; nothing left of it empties the axis. -/
def fieldsWithToken (fields : CodeFields) (axis : Axis) (token : String) : CodeFields :=
  let token := Text.upper (Text.trim token)
  if token.isEmpty then fields.remove axis else fields.set axis token

def writeFlag (modifier : Modifier) (set : Bool) : Change := do
  let graphic ← get
  let fields ← Update.require (fieldsWithFlag graphic.fields modifier set)
  takeOver fields

def writeToken (modifier : Modifier) (token : String) : Change := do
  let graphic ← get
  match modifier.axis? with
  | some axis => takeOver (fieldsWithToken graphic.fields axis token)
  | none => return ()

/-- Writes a modifier. A modifier that the graphic does not carry, and a value of a kind that the
modifier does not take, change nothing. -/
def writeModifier (spelling : String) (value : Modifier.Value) : Change := do
  let graphic ← get
  match graphic.carried? spelling with
  | none => return ()
  | some modifier =>
      match modifier.kind, value with
      | .text, .text held =>
          Update.change (fun graphic =>
            { graphic with markings := graphic.markings.setValue modifier (.text held) })
      | .flag, .flag set => writeFlag modifier set
      | .token, .token held => writeToken modifier held
      | .token, .text held => writeToken modifier held
      | _, _ => return ()

def designate (held : String) : Change :=
  writeModifier Modifier.text.name (.text held)

def shift (difference : Position) : Change := do
  let graphic ← get
  reposition (graphic.positions.map (fun position => position + difference))

def shiftTo (target : Position) : Change := do
  let graphic ← get
  match graphic.anchor? with
  | some anchor => shift (target - anchor)
  | none => return ()

/-! ### Operations as data -/

inductive Operation where
  | recode (text : String)
  | reposition (positions : List Position)
  | setVisible (visible : Bool)
  | setDisplay (display : Display)
  | setStyle (style? : Option Style)
  | showModifier (spelling : String) (visible : Bool)
  | writeModifier (spelling : String) (value : Modifier.Value)
  | designate (held : String)
  | shift (delta : Position)
  | shiftTo (target : Position)

def Operation.change : Operation → Change
  | recode text => Graphic.recode text
  | reposition positions => Graphic.reposition positions
  | setVisible visible => Graphic.setVisible visible
  | setDisplay display => Graphic.setDisplay display
  | setStyle style? => Graphic.setStyle style?
  | showModifier spelling visible => Graphic.showModifier spelling visible
  | writeModifier spelling value => Graphic.writeModifier spelling value
  | designate held => Graphic.designate held
  | shift delta => Graphic.shift delta
  | shiftTo target => Graphic.shiftTo target

/-- The graphic after the operations, whether or not each is refused. -/
def run (graphic : Graphic) (operations : List Operation) : Graphic :=
  operations.foldl (fun graphic operation => Update.after operation.change graphic) graphic

end TacticalSymbols.Graphic

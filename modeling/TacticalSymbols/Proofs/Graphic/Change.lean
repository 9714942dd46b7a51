import TacticalSymbols.Graphic.Change
import TacticalSymbols.Proofs.Update

/-!
Changes run out: for each change of a graphic its answer or refusal, and the graphic that it leaves.
That is the graphic as it was whenever the change is refused.
-/

namespace TacticalSymbols.Graphic

def withCode (graphic : Graphic) (identifier : String) (fields : CodeFields) : Graphic :=
  alignMarkings { graphic with identifier := identifier, fields := fields }

theorem readCode_eq (text : String) :
    readCode text =
      match CodeFields.decode text with
      | .error reason => .error (.unreadable reason)
      | .ok fields => .ok fields := by
  unfold readCode
  cases CodeFields.decode text <;> rfl

theorem run_recode (text : String) (graphic : Graphic) :
    Update.run (recode text) graphic =
      match CodeFields.decode text with
      | .error reason => (.error (.unreadable reason), graphic)
      | .ok fields =>
          if graphic.descriptor.describes fields then
            (.ok (), graphic.withCode (Text.upper text) fields)
          else (.error (.typeChanged graphic.descriptor.id text), graphic) := by
  unfold recode
  simp only [Update.run_bind, Update.run_get, Update.run_require, Update.run_change, readCode_eq]
  cases CodeFields.decode text with
  | error reason => rfl
  | ok fields =>
      by_cases describes : graphic.descriptor.describes fields = true
      · simp [Descriptor.checkType, describes, withCode]
      · simp [Descriptor.checkType, describes]

theorem run_reposition (positions : List Position) (graphic : Graphic) :
    Update.run (reposition positions) graphic =
      if graphic.descriptor.points.accepts positions.length then
        (.ok (), { graphic with positions := positions })
      else
        (.error (.wrongPointCount graphic.descriptor.id graphic.descriptor.points positions.length),
          graphic) := by
  unfold reposition Descriptor.checkCount
  simp only [Update.run_bind, Update.run_get, Update.run_require]
  by_cases counted : graphic.descriptor.points.accepts positions.length = true
  · simp [counted]
  · simp [counted]

theorem run_showModifier (spelling : String) (visible : Bool) (graphic : Graphic) :
    Update.run (showModifier spelling visible) graphic =
      match graphic.carried? spelling with
      | some modifier =>
          (.ok (), { graphic with markings := graphic.markings.setVisible modifier visible })
      | none => (.ok (), graphic) := by
  unfold showModifier
  simp only [Update.run_bind, Update.run_get]
  cases graphic.carried? spelling <;> rfl

theorem run_takeOver (fields : CodeFields) (graphic : Graphic) :
    Update.run (takeOver fields) graphic =
      match fields.encode with
      | .error reason => (.error (.unwritable reason), graphic)
      | .ok identifier => (.ok (), graphic.withCode identifier fields) := by
  unfold takeOver
  simp only [Update.run_bind, Update.run_require, Update.run_change]
  cases fields.encode <;> rfl

theorem run_takeOver_eq_ok_iff (fields : CodeFields) (graphic left : Graphic) :
    Update.run (takeOver fields) graphic = (.ok (), left) ↔
      ∃ identifier, fields.encode = .ok identifier ∧ graphic.withCode identifier fields = left := by
  rw [run_takeOver]
  cases fields.encode <;> simp

theorem run_writeFlag (modifier : Modifier) (set : Bool) (graphic : Graphic) :
    Update.run (writeFlag modifier set) graphic =
      match fieldsWithFlag graphic.fields modifier set with
      | .error reason => (.error reason, graphic)
      | .ok fields => Update.run (takeOver fields) graphic := by
  unfold writeFlag
  simp only [Update.run_bind, Update.run_get, Update.run_require]
  cases fieldsWithFlag graphic.fields modifier set <;> rfl

theorem run_writeToken (modifier : Modifier) (token : String) (graphic : Graphic) :
    Update.run (writeToken modifier token) graphic =
      match modifier.axis? with
      | some axis => Update.run (takeOver (fieldsWithToken graphic.fields axis token)) graphic
      | none => (.ok (), graphic) := by
  unfold writeToken
  simp only [Update.run_bind, Update.run_get]
  cases modifier.axis? <;> rfl

theorem run_writeModifier (spelling : String) (value : Modifier.Value) (graphic : Graphic) :
    Update.run (writeModifier spelling value) graphic =
      match graphic.carried? spelling with
      | none => (.ok (), graphic)
      | some modifier =>
          match modifier.kind, value with
          | .text, .text held =>
              (.ok (), { graphic with markings := graphic.markings.setValue modifier (.text held) })
          | .flag, .flag set => Update.run (writeFlag modifier set) graphic
          | .token, .token held => Update.run (writeToken modifier held) graphic
          | .token, .text held => Update.run (writeToken modifier held) graphic
          | _, _ => (.ok (), graphic) := by
  unfold writeModifier
  simp only [Update.run_bind, Update.run_get]
  cases graphic.carried? spelling with
  | none => rfl
  | some modifier =>
      dsimp only
      cases modifier.kind <;> cases value <;> rfl

/-! ### Refused changes -/

theorem allOrNothing_recode (text : String) : Update.AllOrNothing (recode text) := by
  unfold recode
  apply Update.allOrNothing_get_bind
  intro graphic
  apply Update.allOrNothing_require_bind
  intro fields
  apply Update.allOrNothing_require_bind
  intro _typed
  apply Update.NeverRefused.allOrNothing
  exact (Update.neverRefused_change _).bind (fun _ =>
    (Update.neverRefused_change _).bind (fun _ => Update.neverRefused_change _))

theorem allOrNothing_reposition (positions : List Position) :
    Update.AllOrNothing (reposition positions) := by
  unfold reposition
  apply Update.allOrNothing_get_bind
  intro graphic
  apply Update.allOrNothing_require_bind
  intro _counted
  exact (Update.neverRefused_change _).allOrNothing

theorem allOrNothing_showModifier (spelling : String) (visible : Bool) :
    Update.AllOrNothing (showModifier spelling visible) := by
  unfold showModifier
  apply Update.allOrNothing_get_bind
  intro graphic
  cases graphic.carried? spelling with
  | none => exact (Update.neverRefused_pure _).allOrNothing
  | some modifier => exact (Update.neverRefused_change _).allOrNothing

private theorem allOrNothing_takeOver (fields : CodeFields) : Update.AllOrNothing
    (takeOver fields) := by
  unfold takeOver
  apply Update.allOrNothing_require_bind
  intro identifier
  apply Update.NeverRefused.allOrNothing
  exact (Update.neverRefused_change _).bind (fun _ =>
    (Update.neverRefused_change _).bind (fun _ => Update.neverRefused_change _))

theorem allOrNothing_writeFlag (modifier : Modifier) (set : Bool) :
    Update.AllOrNothing (writeFlag modifier set) := by
  unfold writeFlag
  apply Update.allOrNothing_get_bind
  intro graphic
  apply Update.allOrNothing_require_bind
  intro fields
  exact allOrNothing_takeOver fields

theorem allOrNothing_writeToken (modifier : Modifier) (token : String) :
    Update.AllOrNothing (writeToken modifier token) := by
  unfold writeToken
  apply Update.allOrNothing_get_bind
  intro graphic
  cases modifier.axis? with
  | none => exact (Update.neverRefused_pure _).allOrNothing
  | some axis => exact allOrNothing_takeOver _

theorem allOrNothing_writeModifier (spelling : String) (value : Modifier.Value) :
    Update.AllOrNothing (writeModifier spelling value) := by
  unfold writeModifier
  apply Update.allOrNothing_get_bind
  intro graphic
  cases graphic.carried? spelling with
  | none => exact (Update.neverRefused_pure _).allOrNothing
  | some modifier =>
      dsimp only
      split
      · exact (Update.neverRefused_change _).allOrNothing
      next set _ => exact allOrNothing_writeFlag modifier set
      next held _ => exact allOrNothing_writeToken modifier held
      next held _ => exact allOrNothing_writeToken modifier held
      · exact (Update.neverRefused_pure _).allOrNothing

theorem allOrNothing_shift (difference : Position) : Update.AllOrNothing (shift difference) := by
  unfold shift
  apply Update.allOrNothing_get_bind
  intro graphic
  exact allOrNothing_reposition _

theorem allOrNothing_shiftTo (target : Position) : Update.AllOrNothing (shiftTo target) := by
  unfold shiftTo
  apply Update.allOrNothing_get_bind
  intro graphic
  cases graphic.anchor? with
  | none => exact (Update.neverRefused_pure _).allOrNothing
  | some anchor => exact allOrNothing_shift _

end TacticalSymbols.Graphic

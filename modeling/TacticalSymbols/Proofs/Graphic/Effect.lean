import TacticalSymbols.Graphic.Create
import TacticalSymbols.Graphic.Change
import TacticalSymbols.Proofs.Code.Tokens
import TacticalSymbols.Proofs.Graphic.Change

/-!
What changes can do to a graphic. Every change, refused or not, has one of a few effects; what the
effects keep is kept by every run of operations and by the parameters of a new graphic.
-/

namespace TacticalSymbols

/-- Fields that differ at most on one axis of the modifier slot, by a token in capitals. -/
inductive CodeFields.SlotEdit (before : CodeFields) : CodeFields → Prop where
  | removed (axis : Axis) (inSlot : axis.inSlot = true) : SlotEdit before (before.remove axis)
  | set (axis : Axis) (token : String) (inSlot : axis.inSlot = true)
      (capital : Text.upper token = token) : SlotEdit before (before.set axis token)

theorem Modifier.inSlot_of_axis? (modifier : Modifier) (axis : Axis)
    (stored : modifier.axis? = some axis) : axis.inSlot = true := by
  revert stored
  cases modifier <;> cases axis <;> decide

private theorem UnitFlags.upper_of_token? (flags : UnitFlags) (token : String)
    (found : flags.token? = some token) : Text.upper token = token := by
  have capital : ∀ row ∈ UnitFlags.table, Text.upper row.1 = row.1 := by decide
  obtain ⟨row, isRow, same⟩ := Option.map_eq_some_iff.mp found
  rw [← same]
  exact capital row (List.mem_of_find?_eq_some isRow)

theorem Modifier.axis?_isSome_of_kind (modifier : Modifier) (inCode : modifier.kind ≠ .text) :
    modifier.axis?.isSome = true := by
  revert inCode
  cases modifier <;> decide

namespace Graphic

inductive Effect (before : Graphic) : Graphic → Prop where
  | unchanged : Effect before before
  | placed (positions : List Position)
      (counted : before.descriptor.points.accepts positions.length = true) :
      Effect before { before with positions := positions }
  | drawn (visible : Bool) (display : Display) (style? : Option Style) :
      Effect before { before with visible := visible, display := display, style? := style? }
  | shown (modifier : Modifier) (visible : Bool)
      (carried : before.descriptor.carries modifier = true) :
      Effect before { before with markings := before.markings.setVisible modifier visible }
  | noted (modifier : Modifier) (held : String)
      (carried : before.descriptor.carries modifier = true) (isText : modifier.kind = .text) :
      Effect before { before with markings := before.markings.setValue modifier (.text held) }
  | recoded (text : String) (fields : CodeFields) (read : CodeFields.decode text = .ok fields)
      (describes : before.descriptor.describes fields = true) :
      Effect before (before.withCode (Text.upper text) fields)
  | edited (identifier : String) (fields : CodeFields) (edit : before.fields.SlotEdit fields)
      (written : fields.encode = .ok identifier) :
      Effect before (before.withCode identifier fields)

/-! ### Edits of the slot -/

private theorem slotEdit_fieldsWithFlag (fields edited : CodeFields) (modifier : Modifier)
    (set : Bool) (isEdit : fieldsWithFlag fields modifier set = .ok edited) :
    fields.SlotEdit edited := by
  unfold fieldsWithFlag at isEdit
  split at isEdit
  · cases isEdit
    apply CodeFields.SlotEdit.set .installation _ rfl
    cases set <;> decide
  · dsimp only at isEdit
    split at isEdit
    · cases isEdit
      exact .removed .unitEquipment rfl
    · split at isEdit
      next token found =>
        cases isEdit
        exact .set .unitEquipment token rfl (UnitFlags.upper_of_token? _ token found)
      next => cases isEdit

private theorem slotEdit_fieldsWithToken (fields : CodeFields) (axis : Axis) (token : String)
    (inSlot : axis.inSlot = true) : fields.SlotEdit (fieldsWithToken fields axis token) := by
  unfold fieldsWithToken
  dsimp only
  split
  · exact .removed axis inSlot
  · exact .set axis _ inSlot (Text.upper_upper _)

/-! ### Writing to the code -/

def EditedTo (before after : Graphic) : Prop :=
  ∃ fields identifier, before.fields.SlotEdit fields ∧ fields.encode = .ok identifier ∧
    after = before.withCode identifier fields

private theorem editedTo_of_takeOver (graphic left : Graphic) (fields : CodeFields)
    (edit : graphic.fields.SlotEdit fields)
    (taken : Update.run (takeOver fields) graphic = (.ok (), left)) : graphic.EditedTo left := by
  obtain ⟨identifier, written, same⟩ := (run_takeOver_eq_ok_iff fields graphic left).mp taken
  exact ⟨fields, identifier, edit, written, same.symm⟩

theorem editedTo_of_writeFlag (graphic left : Graphic) (modifier : Modifier) (set : Bool)
    (written : Update.run (writeFlag modifier set) graphic = (.ok (), left)) :
    graphic.EditedTo left := by
  rw [run_writeFlag] at written
  cases edited : fieldsWithFlag graphic.fields modifier set with
  | error reason =>
      rw [edited] at written
      cases congrArg Prod.fst written
  | ok fields =>
      rw [edited] at written
      exact editedTo_of_takeOver graphic left fields
        (slotEdit_fieldsWithFlag graphic.fields fields modifier set edited) written

theorem editedTo_of_writeToken (graphic left : Graphic) (modifier : Modifier) (token : String)
    (inCode : modifier.kind ≠ .text)
    (written : Update.run (writeToken modifier token) graphic = (.ok (), left)) :
    graphic.EditedTo left := by
  obtain ⟨axis, stored⟩ := Option.isSome_iff_exists.mp (modifier.axis?_isSome_of_kind inCode)
  rw [run_writeToken, stored] at written
  exact editedTo_of_takeOver graphic left _
    (slotEdit_fieldsWithToken graphic.fields axis token (modifier.inSlot_of_axis? axis stored))
    written

private theorem effect_of_editedTo (change : Change) (graphic : Graphic)
    (whole : Update.AllOrNothing change)
    (edits : ∀ left, Update.run change graphic = (.ok (), left) → graphic.EditedTo left) :
    Effect graphic (Update.after change graphic) := by
  unfold Update.after
  rcases ran : Update.run change graphic with ⟨answer, left⟩
  cases answer with
  | error reason =>
      rw [whole graphic left reason ran]
      exact .unchanged
  | ok _ =>
      obtain ⟨fields, identifier, edit, written, same⟩ := edits left ran
      rw [same]
      exact .edited identifier fields edit written

/-! ### Changes have effects -/

private theorem effect_recode (text : String) (graphic : Graphic) :
    Effect graphic (Update.after (recode text) graphic) := by
  unfold Update.after
  rw [run_recode]
  cases read : CodeFields.decode text with
  | error reason => exact .unchanged
  | ok fields =>
      dsimp only
      split
      next describes => exact .recoded text fields read describes
      next => exact .unchanged

private theorem effect_reposition (positions : List Position) (graphic : Graphic) :
    Effect graphic (Update.after (reposition positions) graphic) := by
  unfold Update.after
  rw [run_reposition]
  split
  next counted => exact .placed positions counted
  next => exact .unchanged

private theorem effect_showModifier (spelling : String) (visible : Bool) (graphic : Graphic) :
    Effect graphic (Update.after (showModifier spelling visible) graphic) := by
  unfold Update.after
  rw [run_showModifier]
  cases carried : graphic.carried? spelling with
  | none => exact .unchanged
  | some modifier => exact .shown modifier visible (Option.filter_eq_some_iff.mp carried).2

theorem effect_writeModifier (spelling : String) (value : Modifier.Value) (graphic : Graphic) :
    Effect graphic (Update.after (writeModifier spelling value) graphic) := by
  unfold Update.after
  rw [run_writeModifier]
  cases carried : graphic.carried? spelling with
  | none => exact .unchanged
  | some modifier =>
      dsimp only
      split
      next held isText =>
        exact .noted modifier held (Option.filter_eq_some_iff.mp carried).2 isText
      next set _ =>
        apply effect_of_editedTo _ graphic (allOrNothing_writeFlag modifier set)
        intro left written
        exact editedTo_of_writeFlag graphic left modifier set written
      next held isToken =>
        apply effect_of_editedTo _ graphic (allOrNothing_writeToken modifier held)
        intro left written
        exact editedTo_of_writeToken graphic left modifier held (by rw [isToken]; decide) written
      next held isToken =>
        apply effect_of_editedTo _ graphic (allOrNothing_writeToken modifier held)
        intro left written
        exact editedTo_of_writeToken graphic left modifier held (by rw [isToken]; decide) written
      next => exact .unchanged

theorem effect_operation (operation : Operation) (graphic : Graphic) :
    Effect graphic (Update.after operation.change graphic) := by
  cases operation with
  | recode text => exact effect_recode text graphic
  | reposition positions => exact effect_reposition positions graphic
  | setVisible visible => exact .drawn visible graphic.display graphic.style?
  | setDisplay display => exact .drawn graphic.visible display graphic.style?
  | setStyle style? => exact .drawn graphic.visible graphic.display style?
  | showModifier spelling visible => exact effect_showModifier spelling visible graphic
  | writeModifier spelling value => exact effect_writeModifier spelling value graphic
  | designate held => exact effect_writeModifier _ _ graphic
  | shift delta => exact effect_reposition _ graphic
  | shiftTo target =>
      unfold Update.after Operation.change shiftTo
      simp only [Update.run_bind, Update.run_get]
      cases graphic.anchor? with
      | none => exact .unchanged
      | some anchor => exact effect_reposition _ graphic

/-! ### Runs -/

theorem exists_run_of_writeModifiers (modifiers : List (String × Modifier.Value))
    (graphic : Graphic) :
    ∃ operations, Update.after (writeModifiers modifiers) graphic = graphic.run operations := by
  induction modifiers generalizing graphic with
  | nil => exact ⟨[], rfl⟩
  | cons first rest ih =>
      have split : Update.after (writeModifiers (first :: rest)) graphic =
          (Update.run (writeModifier first.1 first.2 >>= fun _ => writeModifiers rest) graphic).2 :=
        rfl
      rw [split, Update.run_bind]
      rcases outcome : Update.run (writeModifier first.1 first.2) graphic with ⟨answer, left⟩
      have written : Update.after (Operation.writeModifier first.1 first.2).change graphic = left :=
        congrArg Prod.snd outcome
      cases answer with
      | error reason => exact ⟨[.writeModifier first.1 first.2], written.symm⟩
      | ok _ =>
          obtain ⟨operations, continued⟩ := ih left
          refine ⟨.writeModifier first.1 first.2 :: operations, ?_⟩
          rw [run, List.foldl_cons, written]
          exact continued

section Induction

variable {motive : Graphic → Prop}
  (kept : ∀ before after, motive before → Effect before after → motive after)

include kept

/-- What every effect keeps is kept by a run of operations. -/
theorem run_induction (operations : List Operation) (graphic : Graphic) (holds : motive graphic) :
    motive (graphic.run operations) := by
  induction operations generalizing graphic with
  | nil => exact holds
  | cons operation rest ih =>
      exact ih _ (kept graphic _ holds (effect_operation operation graphic))

theorem writeModifiers_induction (modifiers : List (String × Modifier.Value)) (graphic : Graphic)
    (holds : motive graphic) : motive (Update.after (writeModifiers modifiers) graphic) := by
  obtain ⟨operations, same⟩ := exists_run_of_writeModifiers modifiers graphic
  rw [same]
  exact run_induction kept operations graphic holds

end Induction

end Graphic

end TacticalSymbols

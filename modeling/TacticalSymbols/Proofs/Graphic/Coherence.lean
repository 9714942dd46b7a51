import TacticalSymbols.Catalog.Standard
import TacticalSymbols.Proofs.Code.RoundTrip
import TacticalSymbols.Proofs.Graphic.Create
import TacticalSymbols.Proofs.Graphic.Mirror

/-!
What a graphic keeps of its code agrees: the code as written, the fields, and the markings that
mirror these. A graphic is made so, and no change, refused or not, breaks it.
-/

namespace TacticalSymbols

/-! ### Edits of the slot leave the type alone -/

namespace CodeFields.SlotEdit

variable {before after : CodeFields} (edit : before.SlotEdit after)

include edit

private theorem token?_of_outside (axis : Axis) (outside : axis.inSlot = false) :
    after.token? axis = before.token? axis := by
  have different : ∀ edited : Axis, edited.inSlot = true → axis ≠ edited := by
    intro edited inSlot same
    rw [← same, outside] at inSlot
    cases inSlot
  cases edit with
  | removed edited inSlot => exact token?_remove_of_ne before edited axis (different edited inSlot)
  | set edited token inSlot _capital =>
      exact token?_set_of_ne before edited axis token (different edited inSlot)

theorem describes_eq (descriptor : Descriptor) :
    descriptor.describes after = descriptor.describes before := by
  unfold Descriptor.describes scheme? dimension?
  rw [edit.token?_of_outside .scheme rfl, edit.token?_of_outside .functionId rfl,
    edit.token?_of_outside .category rfl, edit.token?_of_outside .battleDimension rfl]

theorem capitals_eq_self (capitals : before.capitals = before) : after.capitals = after := by
  rw [capitals_eq_self_iff] at capitals ⊢
  intro axis held present
  cases edit with
  | removed edited _inSlot =>
      by_cases same : axis = edited
      · rw [same, token?_remove_self] at present
        cases present
      · rw [token?_remove_of_ne before edited axis same] at present
        exact capitals axis held present
  | set edited token _inSlot capital =>
      by_cases same : axis = edited
      · rw [same, token?_set_self] at present
        cases present
        exact capital
      · rw [token?_set_of_ne before edited axis token same] at present
        exact capitals axis held present

end CodeFields.SlotEdit

namespace Graphic

structure Coherent (graphic : Graphic) : Prop where
  readBack : CodeFields.decode graphic.identifier = .ok graphic.fields
  described : graphic.descriptor.describes graphic.fields = true
  mirrored : graphic.markings.Mirrors graphic.descriptor graphic.fields

private theorem coherent_withCode (graphic : Graphic) (identifier : String) (fields : CodeFields)
    (readBack : CodeFields.decode identifier = .ok fields)
    (described : graphic.descriptor.describes fields = true) :
    (graphic.withCode identifier fields).Coherent :=
  ⟨readBack, described, Markings.mirrors_align graphic.markings graphic.descriptor fields⟩

theorem coherent_start (text : String) (fields : CodeFields) (descriptor : Descriptor)
    (positions : List Position) (read : CodeFields.decode text = .ok fields)
    (described : descriptor.describes fields = true) :
    (start text fields descriptor positions).Coherent :=
  ⟨(CodeFields.decode_upper text).trans read, described,
    Markings.mirrors_align Markings.empty descriptor fields⟩

/-! ### Effects -/

theorem Effect.descriptor_eq {before after : Graphic} (effect : Effect before after) :
    after.descriptor = before.descriptor := by
  cases effect <;> rfl

theorem Effect.coherent {before after : Graphic} (effect : Effect before after)
    (coherent : before.Coherent) : after.Coherent := by
  obtain ⟨readBack, described, mirrored⟩ := coherent
  cases effect with
  | unchanged => exact ⟨readBack, described, mirrored⟩
  | placed positions _counted => exact ⟨readBack, described, mirrored⟩
  | drawn visible display style? => exact ⟨readBack, described, mirrored⟩
  | shown modifier visible carried =>
      exact ⟨readBack, described, mirrored.setVisible modifier visible carried⟩
  | noted modifier held carried isText =>
      exact ⟨readBack, described, mirrored.setValue modifier (.text held) carried isText⟩
  | recoded text fields read describes =>
      apply coherent_withCode before _ fields _ describes
      rw [CodeFields.decode_upper, read]
  | edited identifier fields edit written =>
      apply coherent_withCode before identifier fields
      -- Only fields in capitals read back as themselves; those that were read are.
      · have capitals := CodeFields.capitals_of_decode before.identifier before.fields readBack
        rw [CodeFields.decode_of_written fields identifier written, edit.capitals_eq_self capitals]
      · rw [edit.describes_eq]
        exact described

/-! ### Runs -/

def CoherentOf (descriptor : Descriptor) (graphic : Graphic) : Prop :=
  graphic.descriptor = descriptor ∧ graphic.Coherent

private theorem CoherentOf.of_effect (descriptor : Descriptor) (before after : Graphic)
    (holds : CoherentOf descriptor before) (effect : Effect before after) :
    CoherentOf descriptor after :=
  ⟨effect.descriptor_eq.trans holds.1, effect.coherent holds.2⟩

theorem coherentOf_create (catalog : Catalog) (text : String) (positions : List Position)
    (parameters? : Option Parameters) (graphic : Graphic)
    (created : create catalog text positions parameters? = .ok graphic) :
    ∃ fields descriptor, CodeFields.decode text = .ok fields ∧
      catalog.find? fields = some descriptor ∧ CoherentOf descriptor graphic := by
  obtain ⟨fields, descriptor, read, found, _counted, written⟩ :=
    (create_eq_ok_iff catalog text positions parameters? graphic).mp created
  have describes := catalog.describes_of_find? fields descriptor found
  have begun : CoherentOf descriptor (start text fields descriptor positions) :=
    ⟨rfl, coherent_start text fields descriptor positions read describes⟩
  exact ⟨fields, descriptor, read, found,
    parameterized_induction (CoherentOf.of_effect descriptor) parameters? _ graphic written begun⟩

theorem coherentOf_run (catalog : Catalog) (text : String) (positions : List Position)
    (parameters? : Option Parameters) (graphic : Graphic) (operations : List Operation)
    (created : create catalog text positions parameters? = .ok graphic) :
    ∃ fields descriptor, CodeFields.decode text = .ok fields ∧
      catalog.find? fields = some descriptor ∧ CoherentOf descriptor (graphic.run operations) := by
  obtain ⟨fields, descriptor, read, found, coherent⟩ :=
    coherentOf_create catalog text positions parameters? graphic created
  exact ⟨fields, descriptor, read, found,
    run_induction (CoherentOf.of_effect descriptor) operations graphic coherent⟩

/-! ### Reachable graphics -/

/-- A graphic that was made of a code, for whatever type, and then changed by operations. -/
def Reachable (graphic : Graphic) : Prop :=
  ∃ text descriptor positions made operations,
    new text descriptor positions = .ok made ∧ made.run operations = graphic

theorem Reachable.run {graphic : Graphic} (reachable : graphic.Reachable)
    (operations : List Operation) : (graphic.run operations).Reachable := by
  obtain ⟨text, descriptor, positions, made, before, isNew, same⟩ := reachable
  refine ⟨text, descriptor, positions, made, before ++ operations, isNew, ?_⟩
  rw [← same]
  exact List.foldl_append

theorem reachable_of_create (catalog : Catalog) (text : String) (positions : List Position)
    (parameters? : Option Parameters) (graphic : Graphic)
    (created : create catalog text positions parameters? = .ok graphic) : graphic.Reachable := by
  obtain ⟨fields, descriptor, read, found, counted, written⟩ :=
    (create_eq_ok_iff catalog text positions parameters? graphic).mp created
  have isNew : new text descriptor positions = .ok (start text fields descriptor positions) :=
    (new_eq_ok_iff text descriptor positions _).mpr
      ⟨fields, read, catalog.describes_of_find? fields descriptor found, counted, rfl⟩
  cases parameters? with
  | none =>
      cases written
      exact ⟨text, descriptor, positions, _, [], isNew, rfl⟩
  | some parameters =>
      obtain ⟨operations, same⟩ := exists_run_of_writeModifiers parameters.modifiers
        (start text fields descriptor positions)
      have left := Update.after_of_applied _ _ graphic written
      exact ⟨text, descriptor, positions, _, operations, isNew, same.symm.trans left⟩

theorem Reachable.coherent {graphic : Graphic} (reachable : graphic.Reachable) :
    graphic.Coherent := by
  obtain ⟨text, descriptor, positions, made, operations, isNew, same⟩ := reachable
  obtain ⟨fields, read, describes, _counted, begun⟩ := (new_eq_ok_iff _ _ _ _).mp isNew
  rw [← same, ← begun]
  exact run_induction (fun _ _ holds effect => effect.coherent holds) operations _
    (coherent_start text fields descriptor positions read describes)

/-- Whatever is done to a graphic that a catalog made, it stays of the type that was found for its
first code, and its code, its fields and its markings agree. -/
theorem coherent_run_of_create (catalog : Catalog) (text : String) (positions : List Position)
    (parameters? : Option Parameters) (graphic : Graphic) (operations : List Operation)
    (created : create catalog text positions parameters? = .ok graphic) :
    ∃ fields descriptor, CodeFields.decode text = .ok fields ∧
      catalog.find? fields = some descriptor ∧
      (graphic.run operations).descriptor = descriptor ∧ (graphic.run operations).Coherent :=
  coherentOf_run catalog text positions parameters? graphic operations created

/-- A task force is noted, a code for another type is refused, and the echelon is taken away. -/
theorem coherent_run_of_create_refusedRecode :
    let operations : List Operation :=
      [.writeModifier "taskForce" (.flag true), .recode "SFGPUCA--------",
        .writeModifier "B" (.text " ")]
    ∃ graphic, create Catalog.standard "sfgpuci---ad---" [⟨0, 0, 0⟩] none = .ok graphic ∧
      (graphic.run operations).identifier = "SFGPUCI---B----" ∧
      (graphic.run operations).Coherent := by
  intro operations
  have created : create Catalog.standard "sfgpuci---ad---" [⟨0, 0, 0⟩] none = .ok _ :=
    (create_eq_ok_iff _ _ _ _ _).mpr
      ⟨_, Catalog.pointType .warfighting (some "G") "UCI---" "Infantry" Catalog.unitModifiers, rfl,
        by decide +kernel, rfl, rfl⟩
  obtain ⟨_fields, _descriptor, _read, _found, _sameType, coherent⟩ :=
    coherent_run_of_create Catalog.standard "sfgpuci---ad---" [⟨0, 0, 0⟩] none _ operations created
  exact ⟨_, created, rfl, coherent⟩

end Graphic

end TacticalSymbols

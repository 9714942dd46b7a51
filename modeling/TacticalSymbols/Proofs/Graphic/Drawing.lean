import TacticalSymbols.Graphic.Render
import TacticalSymbols.Proofs.Graphic.SlotUse

/-!
What is drawn of a graphic. A graphic draws what can be asked of it modifier by modifier: the values of
those that are shown, if it is visible itself. Of the modifiers in its code it draws those that the code
speaks of.
-/

namespace TacticalSymbols

theorem Modifier.ofSpelling?_name (modifier : Modifier) : ofSpelling? modifier.name = some modifier := by
  cases modifier <;> decide

private theorem Markings.sublist_map_toList (markings : Markings) :
    (markings.toList.map Prod.fst).Sublist Modifier.all := by
  have listed := sublist_map_fst_filterMap id markings.marking? Modifier.all
  rwa [List.map_id] at listed

namespace Graphic

/-! ### Asking by name -/

private theorem carried?_name (graphic : Graphic) (modifier : Modifier) :
    graphic.carried? modifier.name =
      if graphic.descriptor.carries modifier then some modifier else none := by
  rw [carried?, modifier.ofSpelling?_name]
  rfl

theorem showsModifier_name_iff (graphic : Graphic) (modifier : Modifier) :
    graphic.showsModifier modifier.name = true ↔
      graphic.descriptor.carries modifier = true ∧ graphic.markings.isVisible modifier = true := by
  rw [showsModifier, carried?_name]
  by_cases carried : graphic.descriptor.carries modifier = true
  · simp [carried]
  · simp [carried]

theorem modifier?_name_eq_some_iff (graphic : Graphic) (modifier : Modifier)
    (value : Modifier.Value) :
    graphic.modifier? modifier.name = some value ↔
      graphic.descriptor.carries modifier = true ∧
        graphic.markings.value? modifier = some value := by
  rw [modifier?, carried?_name]
  by_cases carried : graphic.descriptor.carries modifier = true
  · simp [carried]
  · simp [carried]

/-! ### Drawn modifiers -/

theorem drawnValue?_eq_some_iff (descriptor : Descriptor) (modifier : Modifier) (marking : Marking)
    (value : Modifier.Value) :
    drawnValue? descriptor modifier marking = some value ↔
      marking.visible = true ∧ descriptor.carries modifier = true ∧
        marking.value? = some value ∧ value ≠ .flag false := by
  have isSet : (value.flag? != some false) = true ↔ value ≠ .flag false := by
    cases value with
    | flag set => cases set <;> decide
    | token held => simp [Modifier.Value.flag?]
    | text held => simp [Modifier.Value.flag?]
  unfold drawnValue?
  by_cases shown : (marking.visible && descriptor.carries modifier) = true
  · rw [if_pos shown, Option.filter_eq_some_iff, isSet]
    rw [Bool.and_eq_true] at shown
    simp [shown]
  · rw [if_neg shown]
    rw [Bool.and_eq_true] at shown
    constructor
    · intro impossible
      cases impossible
    · intro drawn
      exact absurd ⟨drawn.1, drawn.2.1⟩ shown

theorem mem_drawnModifiers_iff (graphic : Graphic) (modifier : Modifier) (value : Modifier.Value) :
    (modifier, value) ∈ graphic.drawnModifiers ↔
      graphic.visible = true ∧ graphic.showsModifier modifier.name = true ∧
        graphic.modifier? modifier.name = some value ∧ value ≠ .flag false := by
  have marked : graphic.markings.isVisible modifier = true ∧
      graphic.markings.value? modifier = some value ↔
        ∃ marking, graphic.markings.marking? modifier = some marking ∧ marking.visible = true ∧
          marking.value? = some value := by
    unfold Markings.isVisible Markings.value?
    cases graphic.markings.marking? modifier <;> simp
  rw [showsModifier_name_iff, modifier?_name_eq_some_iff]
  unfold drawnModifiers
  by_cases visible : graphic.visible = true
  · rw [if_pos visible, List.mem_filterMap]
    constructor
    · intro drawn
      obtain ⟨⟨other, marking⟩, listed, drawn⟩ := drawn
      obtain ⟨held, drawnHeld, same⟩ := Option.map_eq_some_iff.mp drawn
      cases same
      obtain ⟨shown, carried, holds, isSet⟩ := (drawnValue?_eq_some_iff _ _ _ _).mp drawnHeld
      obtain ⟨isVisible, hasValue⟩ :=
        marked.mpr ⟨marking, (Markings.mem_toList _ _ _).mp listed, shown, holds⟩
      exact ⟨visible, ⟨carried, isVisible⟩, ⟨carried, hasValue⟩, isSet⟩
    · intro asked
      obtain ⟨_visible, ⟨carried, isVisible⟩, ⟨_carried, hasValue⟩, isSet⟩ := asked
      obtain ⟨marking, present, shown, holds⟩ := marked.mp ⟨isVisible, hasValue⟩
      refine ⟨(modifier, marking), (Markings.mem_toList _ _ _).mpr present, ?_⟩
      exact Option.map_eq_some_iff.mpr
        ⟨value, (drawnValue?_eq_some_iff _ _ _ _).mpr ⟨shown, carried, holds, isSet⟩, rfl⟩
  · rw [if_neg visible]
    simp [visible]

theorem sublist_drawnModifiers (graphic : Graphic) :
    (graphic.drawnModifiers.map Prod.fst).Sublist Modifier.all := by
  unfold drawnModifiers
  by_cases visible : graphic.visible = true
  · rw [if_pos visible]
    have drawn := sublist_map_fst_filterMap Prod.fst
      (fun item => drawnValue? graphic.descriptor item.1 item.2) graphic.markings.toList
    exact drawn.trans graphic.markings.sublist_map_toList
  · rw [if_neg visible]
    exact List.nil_sublist _

theorem nodup_drawnModifiers (graphic : Graphic) :
    (graphic.drawnModifiers.map Prod.fst).Nodup :=
  graphic.sublist_drawnModifiers.nodup (by decide)

private theorem lookup_drawnModifiers (graphic : Graphic) (modifier : Modifier)
    (value : Modifier.Value) : graphic.drawnModifiers.lookup modifier = some value ↔
      (modifier, value) ∈ graphic.drawnModifiers := by
  rw [List.lookup_eq_some_iff]
  constructor
  · intro found
    obtain ⟨before, after, split, _first⟩ := found
    rw [split]
    exact List.mem_append_right before List.mem_cons_self
  · intro drawn
    obtain ⟨before, after, split⟩ := List.append_of_mem drawn
    refine ⟨before, after, split, fun other listed => ?_⟩
    have once := graphic.nodup_drawnModifiers
    rw [split, List.map_append, List.map_cons] at once
    have different := (List.nodup_append.mp once).2.2 other.1 (List.mem_map_of_mem listed)
      modifier List.mem_cons_self
    exact bne_iff_ne.mpr (Ne.symm different)

/-! ### Drawing what the code says -/

theorem exists_drawable_iff (markings : Markings) (descriptor : Descriptor) (fields : CodeFields)
    (mirrored : markings.Mirrors descriptor fields) (modifier : Modifier)
    (carried : descriptor.carries modifier = true) (inCode : modifier.kind ≠ .text) :
    (∃ value, markings.value? modifier = some value ∧ value ≠ .flag false) ↔
      fields.mentions modifier = true ∨
        (modifier = .feintDummy ∧ fields.token? .installation = some Installation.feintDummy) := by
  cases kind : modifier.kind with
  | text => exact absurd kind inCode
  | flag =>
      rw [mirrored.flags modifier carried kind, CodeFields.mentions, if_pos kind]
      cases fields.unitFlags.flag modifier <;> simp
  | token =>
      have notFeint : modifier ≠ .feintDummy := by
        intro isFeint
        rw [isFeint] at kind
        cases kind
      rw [mirrored.tokens modifier carried kind, CodeFields.mentions, if_neg (by rw [kind]; decide)]
      cases modifier.axis? with
      | none => simp [notFeint]
      | some axis => cases held : fields.token? axis <;> simp [notFeint, CodeFields.contains, held]

/-- A graphic draws exactly what it answers when it is asked for modifiers by their names: of those that
are shown, the values other than a flag that is not set. They come in the order of modifiers, each once,
and a renderer gets the same. So of the modifiers in the code a visible graphic draws those that are
shown and that its code, when it is read, speaks of; an installation may say that it is a feint or dummy,
too. -/
theorem drawn_of_reachable (graphic : Graphic) (reachable : graphic.Reachable) :
    (∀ modifier value, (modifier, value) ∈ graphic.drawnModifiers ↔
        graphic.visible = true ∧ graphic.showsModifier modifier.name = true ∧
          graphic.modifier? modifier.name = some value ∧ value ≠ .flag false) ∧
      (graphic.drawnModifiers.map Prod.fst).Sublist Modifier.all ∧
      (graphic.drawnModifiers.map Prod.fst).Nodup ∧
      graphic.rendering.modifiers = graphic.drawnModifiers ∧
      (∀ modifier value, graphic.rendering.modifiers.lookup modifier = some value ↔
        (modifier, value) ∈ graphic.drawnModifiers) ∧
      ∃ fields, CodeFields.decode graphic.identifier = .ok fields ∧
        ∀ modifier : Modifier, modifier.kind ≠ .text → graphic.visible = true →
          graphic.showsModifier modifier.name = true →
            ((∃ value, (modifier, value) ∈ graphic.drawnModifiers) ↔
              fields.mentions modifier = true ∨ (modifier = .feintDummy ∧
                fields.token? .installation = some Installation.feintDummy)) := by
  have coherent := reachable.coherent
  refine ⟨graphic.mem_drawnModifiers_iff, graphic.sublist_drawnModifiers,
    graphic.nodup_drawnModifiers, rfl, graphic.lookup_drawnModifiers, graphic.fields,
    coherent.readBack, ?_⟩
  intro modifier inCode visible shown
  have carried := ((graphic.showsModifier_name_iff modifier).mp shown).1
  rw [← exists_drawable_iff _ _ _ coherent.mirrored modifier carried inCode]
  constructor
  · intro drawn
    obtain ⟨value, drawn⟩ := drawn
    obtain ⟨_visible, _shown, holds, isSet⟩ := (graphic.mem_drawnModifiers_iff modifier value).mp drawn
    exact ⟨value, ((graphic.modifier?_name_eq_some_iff modifier value).mp holds).2, isSet⟩
  · intro drawable
    obtain ⟨value, holds, isSet⟩ := drawable
    exact ⟨value, (graphic.mem_drawnModifiers_iff modifier value).mpr
      ⟨visible, shown, (graphic.modifier?_name_eq_some_iff modifier value).mpr ⟨carried, holds⟩,
        isSet⟩⟩

/-- An installation that is a dummy is drawn as a dummy although it is not shown as an installation
itself. -/
theorem drawn_of_reachable_hiddenInstallation :
    ∃ made, create Catalog.standard "SFGPUCI---HB---" [⟨0, 0, 0⟩] none = .ok made ∧
      (made.run [.showModifier "installation" false]).Reachable ∧
      (∃ value, (Modifier.feintDummy, value) ∈
        (made.run [.showModifier "installation" false]).drawnModifiers) ∧
      ∀ value, (Modifier.installation, value) ∉
        (made.run [.showModifier "installation" false]).drawnModifiers := by
  have created := create_of_find? Catalog.standard "SFGPUCI---HB---" [⟨0, 0, 0⟩] _
    (Catalog.pointType .warfighting (some "G") "UCI---" "Infantry" Catalog.unitModifiers) rfl
    (by decide +kernel) rfl
  have reachable := (reachable_of_create _ _ _ _ _ created).run [.showModifier "installation" false]
  obtain ⟨drawn, _sorted, _once, _rendered, _lookedUp, fields, read, ofCode⟩ :=
    drawn_of_reachable _ reachable
  refine ⟨_, created, reachable, ?_, ?_⟩
  · cases read
    exact (ofCode .feintDummy (by decide) rfl rfl).mpr (.inr ⟨rfl, rfl⟩)
  · intro value isDrawn
    obtain ⟨_visible, shown, _holds, _isSet⟩ := (drawn .installation value).mp isDrawn
    cases shown

end Graphic

end TacticalSymbols

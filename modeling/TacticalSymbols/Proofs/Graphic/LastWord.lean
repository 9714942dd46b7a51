import TacticalSymbols.Proofs.Graphic.Entries

/-!
What is said beside the code: the texts, and which modifiers are shown. A graphic keeps what was said
last, in whatever spelling, and no other operation loses it: a new code only puts in what codes store,
and a change that is refused puts in nothing.
-/

namespace TacticalSymbols

/-! ### Markings -/

namespace Markings

theorem isVisible_align (markings : Markings) (descriptor : Descriptor) (fields : CodeFields)
    (modifier : Modifier) (carried : descriptor.carries modifier = true) :
    (markings.align descriptor fields).isVisible modifier = markings.isVisible modifier := by
  unfold isVisible
  rw [marking?_align, if_pos carried, aligned]
  cases modifier.kind with
  | text => rfl
  | flag => cases markings.marking? modifier <;> rfl
  | token =>
      dsimp only
      cases modifier.axis?.bind fields.token? <;> cases markings.marking? modifier <;> rfl

theorem value?_align_of_text (markings : Markings) (descriptor : Descriptor) (fields : CodeFields)
    (modifier : Modifier) (carried : descriptor.carries modifier = true)
    (isText : modifier.kind = .text) :
    (markings.align descriptor fields).value? modifier = markings.value? modifier := by
  unfold value?
  rw [marking?_align, if_pos carried, aligned, isText]

end Markings

namespace Graphic

/-! ### Changes that say nothing beside the code -/

/-- The same modifiers are shown, and the texts are the same. -/
structure SameBeside (before after : Graphic) : Prop where
  shown : ∀ modifier, before.descriptor.carries modifier = true →
    after.markings.isVisible modifier = before.markings.isVisible modifier
  texts : ∀ modifier, before.descriptor.carries modifier = true → modifier.kind = .text →
    after.markings.value? modifier = before.markings.value? modifier

theorem SameBeside.refl (graphic : Graphic) : SameBeside graphic graphic :=
  ⟨fun _ _ => rfl, fun _ _ _ => rfl⟩

theorem sameBeside_withCode (graphic : Graphic) (identifier : String) (fields : CodeFields) :
    SameBeside graphic (graphic.withCode identifier fields) :=
  ⟨graphic.markings.isVisible_align graphic.descriptor fields,
    graphic.markings.value?_align_of_text graphic.descriptor fields⟩

private theorem sameBeside_recode (graphic : Graphic) (text : String) :
    SameBeside graphic (Update.after (recode text) graphic) := by
  unfold Update.after
  rw [run_recode]
  cases CodeFields.decode text with
  | error reason => exact .refl graphic
  | ok fields =>
      dsimp only
      split
      · exact sameBeside_withCode graphic (Text.upper text) fields
      · exact .refl graphic

private theorem sameBeside_reposition (graphic : Graphic) (positions : List Position) :
    SameBeside graphic (Update.after (reposition positions) graphic) := by
  unfold Update.after
  rw [run_reposition]
  split
  · exact ⟨fun _ _ => rfl, fun _ _ _ => rfl⟩
  · exact .refl graphic

private theorem sameBeside_shiftTo (graphic : Graphic) (target : Position) :
    SameBeside graphic (Update.after (shiftTo target) graphic) := by
  unfold Update.after shiftTo
  rw [Update.run_bind, Update.run_get]
  dsimp only
  cases graphic.anchor? with
  | none => exact .refl graphic
  | some anchor => exact sameBeside_reposition graphic _

private theorem sameBeside_takeOver (graphic : Graphic) (fields : CodeFields) :
    SameBeside graphic (Update.after (takeOver fields) graphic) := by
  unfold Update.after
  rw [run_takeOver]
  cases fields.encode with
  | error reason => exact .refl graphic
  | ok identifier => exact sameBeside_withCode graphic identifier fields

private theorem isVisible_enter_of_unstored (graphic : Graphic) (entry : Modifier.Entry)
    (modifier : Modifier) (unstored : graphic.descriptor.stores entry = false) :
    (graphic.enter entry).markings.isVisible modifier = graphic.markings.isVisible modifier := by
  rw [enter, unstored, if_neg (by decide)]
  split
  · exact graphic.markings.isVisible_setValue entry.modifier modifier entry.value
  · rfl

private theorem value?_enter_of_unstored (graphic : Graphic) (entry : Modifier.Entry)
    (modifier : Modifier) (unstored : graphic.descriptor.stores entry = false) :
    (graphic.enter entry).markings.value? modifier =
      if graphic.descriptor.accepts entry ∧ modifier = entry.modifier then some entry.value
      else graphic.markings.value? modifier := by
  rw [enter, unstored, if_neg (by decide)]
  by_cases accepted : graphic.descriptor.accepts entry = true
  · rw [if_pos accepted]
    by_cases same : modifier = entry.modifier
    · rw [if_pos ⟨accepted, same⟩, Markings.value?_setValue, if_pos same]
    · rw [if_neg (fun both => same both.2), Markings.value?_setValue, if_neg same]
  · rw [if_neg accepted, if_neg (fun both => accepted both.1)]

/-! ### What operations say -/

/-- The text that a write gives a modifier, if the write is for it and of a text. -/
def saying? (modifier : Modifier) (spelling : String) : Modifier.Value → Option String
  | .text held => if Modifier.ofSpelling? spelling = some modifier then some held else none
  | _ => none

def Operation.said? (modifier : Modifier) : Operation → Option String
  | .writeModifier spelling value => saying? modifier spelling value
  | .designate held => saying? modifier Modifier.text.name (.text held)
  | _ => none

/-- Whether an operation has a modifier shown, if it is one that shows or hides it. -/
def Operation.shown? (modifier : Modifier) : Operation → Option Bool
  | .showModifier spelling visible =>
      if Modifier.ofSpelling? spelling = some modifier then some visible else none
  | _ => none

private theorem saying?_of_ne (modifier : Modifier) (spelling : String) (value : Modifier.Value)
    (different : Modifier.ofSpelling? spelling ≠ some modifier) :
    saying? modifier spelling value = none := by
  cases value with
  | text held => exact if_neg different
  | flag set => rfl
  | token held => rfl

section Step

variable (graphic : Graphic) (modifier : Modifier)
  (carried : graphic.descriptor.carries modifier = true)

include carried

private theorem isVisible_showModifier (spelling : String) (visible : Bool) :
    (Update.after (showModifier spelling visible) graphic).markings.isVisible modifier =
      ((Operation.showModifier spelling visible).shown? modifier).getD
        (graphic.markings.isVisible modifier) := by
  rw [Update.after, run_showModifier]
  by_cases named : Modifier.ofSpelling? spelling = some modifier
  · have said : (Operation.showModifier spelling visible).shown? modifier = some visible :=
      if_pos named
    have found := carried?_of_spelled graphic.descriptor spelling modifier named graphic rfl
    rw [carried, if_pos rfl] at found
    rw [said, found]
    exact (Markings.isVisible_setVisible _ modifier modifier visible).trans (if_pos rfl)
  · have silent : (Operation.showModifier spelling visible).shown? modifier = none := if_neg named
    rw [silent]
    cases found : graphic.carried? spelling with
    | none => rfl
    | some other =>
        have different : modifier ≠ other := by
          intro same
          rw [same] at named
          exact named (Option.filter_eq_some_iff.mp found).1
        exact (Markings.isVisible_setVisible _ other modifier visible).trans (if_neg different)

private theorem isVisible_writeModifier (spelling : String) (value : Modifier.Value) :
    (Update.after (writeModifier spelling value) graphic).markings.isVisible modifier =
      graphic.markings.isVisible modifier := by
  unfold Update.after
  cases named : Modifier.ofSpelling? spelling with
  | none => rw [run_writeModifier_of_unnamed spelling value graphic named]
  | some other =>
      cases stored : graphic.descriptor.stores ⟨other, value⟩ with
      | true =>
          rw [graphic.run_writeModifier_of_stored spelling ⟨other, value⟩ named stored]
          exact (sameBeside_takeOver graphic _).shown modifier carried
      | false =>
          rw [graphic.run_writeModifier_of_unstored spelling ⟨other, value⟩ named stored]
          exact graphic.isVisible_enter_of_unstored ⟨other, value⟩ modifier stored

private theorem isVisible_operation (operation : Operation) :
    (Update.after operation.change graphic).markings.isVisible modifier =
      (operation.shown? modifier).getD (graphic.markings.isVisible modifier) := by
  cases operation with
  | recode text => exact (sameBeside_recode graphic text).shown modifier carried
  | reposition positions => exact (sameBeside_reposition graphic positions).shown modifier carried
  | setVisible visible => rfl
  | setDisplay display => rfl
  | setStyle style? => rfl
  | showModifier spelling visible =>
      exact isVisible_showModifier graphic modifier carried spelling visible
  | writeModifier spelling value =>
      exact isVisible_writeModifier graphic modifier carried spelling value
  | designate held => exact isVisible_writeModifier graphic modifier carried _ _
  | shift difference => exact (sameBeside_reposition graphic _).shown modifier carried
  | shiftTo target => exact (sameBeside_shiftTo graphic target).shown modifier carried

variable (isText : modifier.kind = .text)

include isText

private theorem value?_writeModifier (spelling : String) (value : Modifier.Value) :
    (Update.after (writeModifier spelling value) graphic).markings.value? modifier =
      ((saying? modifier spelling value).map .text).or (graphic.markings.value? modifier) := by
  unfold Update.after
  cases named : Modifier.ofSpelling? spelling with
  | none =>
      rw [run_writeModifier_of_unnamed spelling value graphic named,
        saying?_of_ne modifier spelling value (by rw [named]; exact nofun)]
      rfl
  | some other =>
      cases stored : graphic.descriptor.stores ⟨other, value⟩ with
      | true =>
          have different : Modifier.ofSpelling? spelling ≠ some modifier := by
            rw [named]
            intro same
            cases same
            rw [Descriptor.stores, isText, bne_self_eq_false, Bool.and_false] at stored
            cases stored
          rw [graphic.run_writeModifier_of_stored spelling ⟨other, value⟩ named stored,
            saying?_of_ne modifier spelling value different]
          exact (sameBeside_takeOver graphic _).texts modifier carried isText
      | false =>
          rw [graphic.run_writeModifier_of_unstored spelling ⟨other, value⟩ named stored,
            graphic.value?_enter_of_unstored ⟨other, value⟩ modifier stored]
          by_cases same : modifier = other
          · subst same
            have accepts : graphic.descriptor.accepts ⟨modifier, value⟩ =
                Modifier.Kind.text.takes value := by
              rw [Descriptor.accepts, carried, isText, Bool.true_and]
            rw [accepts]
            cases value with
            | text held =>
                rw [if_pos ⟨rfl, rfl⟩, saying?, if_pos named]
                rfl
            | flag set => rfl
            | token held => rfl
          · have different : Modifier.ofSpelling? spelling ≠ some modifier := by
              rw [named]
              exact fun again => same (Option.some.inj again).symm
            rw [if_neg (fun both => same both.2), saying?_of_ne modifier spelling value different]
            rfl

private theorem value?_operation (operation : Operation) :
    (Update.after operation.change graphic).markings.value? modifier =
      ((operation.said? modifier).map .text).or (graphic.markings.value? modifier) := by
  cases operation with
  | recode text => exact (sameBeside_recode graphic text).texts modifier carried isText
  | reposition positions =>
      exact (sameBeside_reposition graphic positions).texts modifier carried isText
  | setVisible visible => rfl
  | setDisplay display => rfl
  | setStyle style? => rfl
  | showModifier spelling visible =>
      unfold Update.after Operation.change
      rw [run_showModifier]
      cases graphic.carried? spelling with
      | none => rfl
      | some other => exact Markings.value?_setVisible _ _ _ _
  | writeModifier spelling value =>
      exact value?_writeModifier graphic modifier carried isText spelling value
  | designate held => exact value?_writeModifier graphic modifier carried isText _ _
  | shift difference => exact (sameBeside_reposition graphic _).texts modifier carried isText
  | shiftTo target => exact (sameBeside_shiftTo graphic target).texts modifier carried isText

end Step

/-! ### Runs -/

private theorem carries_operation (graphic : Graphic) (operation : Operation) (modifier : Modifier)
    (carried : graphic.descriptor.carries modifier = true) :
    (Update.after operation.change graphic).descriptor.carries modifier = true := by
  rw [(effect_operation operation graphic).descriptor_eq]
  exact carried

theorem isVisible_run (operations : List Operation) (graphic : Graphic) (modifier : Modifier)
    (carried : graphic.descriptor.carries modifier = true) :
    (graphic.run operations).markings.isVisible modifier =
      (operations.reverse.findSome? (Operation.shown? modifier)).getD
        (graphic.markings.isVisible modifier) := by
  induction operations generalizing graphic with
  | nil => rfl
  | cons operation rest ih =>
      have step := isVisible_operation graphic modifier carried operation
      have continued := ih _ (graphic.carries_operation operation modifier carried)
      rw [step] at continued
      rw [List.reverse_cons, List.findSome?_append, List.findSome?_singleton, Option.getD_or]
      exact continued

theorem value?_run (operations : List Operation) (graphic : Graphic) (modifier : Modifier)
    (carried : graphic.descriptor.carries modifier = true) (isText : modifier.kind = .text) :
    (graphic.run operations).markings.value? modifier =
      ((operations.reverse.findSome? (Operation.said? modifier)).map .text).or
        (graphic.markings.value? modifier) := by
  induction operations generalizing graphic with
  | nil => rfl
  | cons operation rest ih =>
      have step := value?_operation graphic modifier carried isText operation
      have continued := ih _ (graphic.carries_operation operation modifier carried)
      rw [step, ← Option.or_assoc] at continued
      rw [List.reverse_cons, List.findSome?_append, List.findSome?_singleton, Option.map_or]
      exact continued

private theorem carried?_run (graphic : Graphic) (operations : List Operation) (spelling : String) :
    (graphic.run operations).carried? spelling = graphic.carried? spelling := by
  have kept : (graphic.run operations).descriptor = graphic.descriptor := by
    apply run_induction (motive := fun reached => reached.descriptor = graphic.descriptor)
    · intro before after same effect
      exact effect.descriptor_eq.trans same
    · rfl
  rw [carried?, kept]
  rfl

/-! ### Parameters -/

/-- The parameters of a new graphic as operations on the graphic that it starts as. -/
def parameterWrites : Option Parameters → List Operation
  | some parameters =>
      parameters.modifiers.map (fun item => .writeModifier item.1 item.2)
  | none => []

private theorem run_parameterWrites (parameters? : Option Parameters) (graphic made : Graphic)
    (written : parameterized parameters? graphic = .ok made) :
    graphic.run (parameterWrites parameters?) = made := by
  cases parameters? with
  | none => exact Except.ok.inj written
  | some parameters =>
      exact ((applied_writeModifiers_eq_ok_iff parameters.modifiers graphic made).mp written).run_eq

private theorem shown?_parameterWrites (parameters? : Option Parameters) (modifier : Modifier) :
    (parameterWrites parameters?).reverse.findSome? (Operation.shown? modifier) = none := by
  rw [List.findSome?_eq_none_iff]
  intro operation listed
  rw [List.mem_reverse] at listed
  cases parameters? with
  | none => cases listed
  | some parameters =>
      obtain ⟨item, _listed, same⟩ := List.mem_map.mp listed
      rw [← same]
      rfl

/-- Whatever is done to a new graphic, granted or refused, a modifier that it carries is shown as the
last change asked that showed or hid it, and is shown if none did. A text is the last one that was
given, be it with the parameters or later, and there is none if none was given. All spellings of a
modifier count as one. What the graphic does not carry is neither shown nor has it a value. -/
theorem lastWord_run_of_create (catalog : Catalog) (text : String) (positions : List Position)
    (parameters? : Option Parameters) (made : Graphic) (operations : List Operation)
    (created : create catalog text positions parameters? = .ok made) :
    (∀ spelling modifier, made.carried? spelling = some modifier →
        (made.run operations).showsModifier spelling =
            (operations.reverse.findSome? (Operation.shown? modifier)).getD true ∧
          (modifier.kind = .text →
            (made.run operations).modifier? spelling =
              ((parameterWrites parameters? ++ operations).reverse.findSome?
                (Operation.said? modifier)).map .text)) ∧
      ∀ spelling, made.carried? spelling = none →
        (made.run operations).showsModifier spelling = false ∧
          (made.run operations).modifier? spelling = none := by
  obtain ⟨fields, descriptor, _read, _found, _counted, written⟩ :=
    (create_eq_ok_iff catalog text positions parameters? made).mp created
  have isRun := run_parameterWrites parameters? _ made written
  have together : made.run operations =
      (start text fields descriptor positions).run (parameterWrites parameters? ++ operations) := by
    rw [run, run, List.foldl_append]
    exact congrArg (fun begun => run begun operations) isRun.symm
  have recognized : ∀ spelling, made.carried? spelling =
      (start text fields descriptor positions).carried? spelling := by
    intro spelling
    rw [← isRun, carried?_run]
  constructor
  · intro spelling modifier named
    have carried : descriptor.carries modifier = true := by
      rw [recognized] at named
      exact (Option.filter_eq_some_iff.mp named).2
    have namedLater := (made.carried?_run operations spelling).trans named
    constructor
    · have shown := isVisible_run (parameterWrites parameters? ++ operations)
        (start text fields descriptor positions) modifier carried
      rw [showsModifier, namedLater, Option.any_some, together, shown, List.reverse_append,
        List.findSome?_append, shown?_parameterWrites, Option.or_none]
      exact congrArg (Option.getD _)
        (Markings.isVisible_align Markings.empty descriptor fields modifier carried)
    · intro isText
      have said := value?_run (parameterWrites parameters? ++ operations)
        (start text fields descriptor positions) modifier carried isText
      have silent : (start text fields descriptor positions).markings.value? modifier = none :=
        Markings.value?_align_of_text Markings.empty descriptor fields modifier carried isText
      rw [modifier?, namedLater, Option.bind_some, together, said, silent, Option.or_none]
  · intro spelling foreign
    have foreignLater := (made.carried?_run operations spelling).trans foreign
    rw [showsModifier, modifier?, foreignLater]
    exact ⟨rfl, rfl⟩

/-- The echelon of an infantry is hidden, and stays hidden when it is taken away and when another code
brings one again. A code for another type is refused. The text is the one that came with the
parameters. -/
theorem lastWord_run_of_create_hiddenEchelon :
    let parameters := Parameters.ofPairs [("T", .text "1-6")]
    let operations : List Operation :=
      [.showModifier "B" false, .writeModifier "echelon" (.text " "), .recode "SFGPUCA--------",
        .recode "SHGPUCI----F---"]
    ∃ made, create Catalog.standard "SFGPUCI----D---" [⟨0, 0, 0⟩] (some parameters) = .ok made ∧
      (made.run operations).identifier = "SHGPUCI----F---" ∧
      (made.run operations).showsModifier "Echelon" = false ∧
      (made.run operations).modifier? "text" = some (.text "1-6") ∧
      (made.run operations).showsModifier "echelons" = false := by
  intro parameters operations
  have listed : parameters.modifiers = [("T", .text "1-6")] := by rfl
  have created : create Catalog.standard "SFGPUCI----D---" [⟨0, 0, 0⟩] (some parameters) = .ok _ :=
    (create_eq_ok_iff _ _ _ _ _).mpr
      ⟨_, Catalog.pointType .warfighting (some "G") "UCI---" "Infantry" Catalog.unitModifiers, rfl,
        by decide +kernel, rfl, rfl⟩
  obtain ⟨recognized, foreign⟩ := lastWord_run_of_create _ _ _ _ _ operations created
  have said := (recognized "text" .text rfl).2 rfl
  rw [parameterWrites, listed] at said
  exact ⟨_, created, rfl, (recognized "Echelon" .echelon rfl).1, said, (foreign "echelons" rfl).1⟩

end Graphic

end TacticalSymbols

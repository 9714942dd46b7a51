import TacticalSymbols.Proofs.Graphic.Coherence
import TacticalSymbols.Proofs.Graphic.Placement

/-!
Two writes of modifiers in either order. Writes of different modifiers lead to the same graphic in
both orders, if both orders are granted; only the feint or dummy flag and the installation do not, as
that flag is in the token of an installation. A write does nothing, or says a text beside the code, or
puts something into the code, and which of these it is depends on the type of the graphic alone.
-/

namespace TacticalSymbols

namespace Graphic

/-! ### Codes in place of codes -/

/-- Of two codes the later counts, if the first does not bring in a token that the second drops. -/
theorem withCode_withCode (graphic : Graphic) (first second : String) (middle last : CodeFields)
    (mirrored : graphic.markings.Mirrors graphic.descriptor graphic.fields)
    (traced : ∀ (modifier : Modifier) (axis : Axis), modifier.kind = .token →
      modifier.axis? = some axis → middle.contains axis = true →
        last.contains axis = true ∨ graphic.fields.contains axis = true) :
    (graphic.withCode first middle).withCode second last = graphic.withCode second last := by
  have aligned : (graphic.markings.align graphic.descriptor middle).align graphic.descriptor last =
      graphic.markings.align graphic.descriptor last := by
    apply Markings.align_align
    intro modifier axis isToken stored carried inMiddle
    rcases traced modifier axis isToken stored inMiddle with inLast | before
    · exact .inl inLast
    · exact .inr (mirrored.isSome_of_contains modifier axis isToken stored carried before)
  exact congrArg (fun markings => Graphic.mk second last graphic.descriptor graphic.positions
    markings graphic.display graphic.style? graphic.visible) aligned

private theorem withCode_place_place (graphic : Graphic) (first second : String)
    (placed later : Placement)
    (mirrored : graphic.markings.Mirrors graphic.descriptor graphic.fields)
    (shared : placed.axis = later.axis → later.axis = .unitEquipment) :
    (graphic.withCode first (graphic.fields.place placed)).withCode second
        ((graphic.fields.place placed).place later) =
      graphic.withCode second ((graphic.fields.place placed).place later) := by
  apply graphic.withCode_withCode first second _ _ mirrored
  intro modifier axis isToken stored inMiddle
  by_cases atLater : axis = later.axis
  -- What the second placement takes away was not put there by the first, which is elsewhere.
  · right
    have elsewhere : axis ≠ placed.axis := by
      intro atPlaced
      rw [atLater, shared (atPlaced.symm.trans atLater)] at stored
      cases modifier <;> cases isToken <;> cases stored
    rw [← CodeFields.contains_place_of_ne graphic.fields placed axis elsewhere]
    exact inMiddle
  · left
    rw [CodeFields.contains_place_of_ne _ later axis atLater]
    exact inMiddle

/-! ### Texts beside the code -/

def noted (graphic : Graphic) (modifier : Modifier) (held : String) : Graphic :=
  { graphic with markings := graphic.markings.setValue modifier (.text held) }

theorem noted_comm (graphic : Graphic) (left right : Modifier) (leftHeld rightHeld : String)
    (different : left ≠ right) :
    (graphic.noted left leftHeld).noted right rightHeld =
      (graphic.noted right rightHeld).noted left leftHeld :=
  congrArg (fun markings => { graphic with markings := markings })
    (graphic.markings.setValue_comm left right (.text leftHeld) (.text rightHeld) different)

theorem withCode_noted (graphic : Graphic) (modifier : Modifier) (held identifier : String)
    (fields : CodeFields) (isText : modifier.kind = .text)
    (carried : graphic.descriptor.carries modifier = true) :
    (graphic.noted modifier held).withCode identifier fields =
      (graphic.withCode identifier fields).noted modifier held :=
  congrArg (fun markings => Graphic.mk identifier fields graphic.descriptor graphic.positions
      markings graphic.display graphic.style? graphic.visible)
    (graphic.markings.align_setValue graphic.descriptor fields modifier (.text held) isText carried)

/-! ### Ways of writing -/

section Ways

def Idles (descriptor : Descriptor) (change : Change) : Prop :=
  ∀ before after : Graphic, before.descriptor = descriptor →
    Update.run change before = (.ok (), after) → after = before

structure Notes (descriptor : Descriptor) (modifier : Modifier) (change : Change) : Prop where
  isText : modifier.kind = .text
  carried : descriptor.carries modifier = true
  exists_noted : ∃ held, ∀ before after : Graphic, before.descriptor = descriptor →
    Update.run change before = (.ok (), after) → after = before.noted modifier held

structure Puts (descriptor : Descriptor) (modifier : Modifier) (value : Modifier.Value)
    (change : Change) : Prop where
  exists_places : ∀ fields : CodeFields, ∃ placement, fields.Places modifier value placement
  exists_code : ∀ (before after : Graphic) (placement : Placement),
    before.descriptor = descriptor → before.fields.Places modifier value placement →
      Update.run change before = (.ok (), after) →
        ∃ identifier, (before.fields.place placement).encode = .ok identifier ∧
          after = before.withCode identifier (before.fields.place placement)

variable (descriptor : Descriptor) (spelling : String) (modifier : Modifier)
  (value : Modifier.Value) (spelled : Modifier.ofSpelling? spelling = some modifier)

include spelled

theorem carried?_of_spelled (graphic : Graphic) (isOf : graphic.descriptor = descriptor) :
    graphic.carried? spelling = if descriptor.carries modifier then some modifier else none := by
  rw [carried?, spelled, isOf]
  rfl

theorem idles_writeModifier
    (unused : (descriptor.carries modifier && modifier.kind.takes value) = false) :
    Idles descriptor (writeModifier spelling value) := by
  intro before after isOf written
  have carriedBy := carried?_of_spelled descriptor spelling modifier spelled before isOf
  have idle : Update.run (writeModifier spelling value) before = (.ok (), before) := by
    cases carried : descriptor.carries modifier with
    | false =>
        rw [carried, if_neg (by decide)] at carriedBy
        exact run_writeModifier_of_foreign spelling value before carriedBy
    | true =>
        rw [carried, if_pos rfl] at carriedBy
        rw [carried, Bool.true_and] at unused
        exact run_writeModifier_of_notTaken spelling modifier value before carriedBy unused
  cases idle.symm.trans written
  rfl

theorem notes_writeModifier (isText : modifier.kind = .text)
    (carried : descriptor.carries modifier = true) (taken : modifier.kind.takes value = true) :
    Notes descriptor modifier (writeModifier spelling value) := by
  refine ⟨isText, carried, ?_⟩
  rw [isText] at taken
  cases value with
  | flag set => cases taken
  | token held => cases taken
  | text held =>
      refine ⟨held, ?_⟩
      intro before after isOf written
      have carriedBy := carried?_of_spelled descriptor spelling modifier spelled before isOf
      rw [carried, if_pos rfl] at carriedBy
      rw [run_writeModifier, carriedBy] at written
      dsimp only at written
      rw [isText] at written
      cases written
      rfl

theorem puts_writeModifier (inCode : modifier.kind ≠ .text)
    (carried : descriptor.carries modifier = true) (taken : modifier.kind.takes value = true) :
    Puts descriptor modifier value (writeModifier spelling value) := by
  refine ⟨fun fields => fields.exists_places modifier value inCode taken, ?_⟩
  intro before after placement isOf places written
  have carriedBy := carried?_of_spelled descriptor spelling modifier spelled before isOf
  rw [carried, if_pos rfl] at carriedBy
  rw [run_writeModifier_of_places before spelling modifier value placement carriedBy places]
    at written
  obtain ⟨identifier, encoded, same⟩ := (run_takeOver_eq_ok_iff _ _ _).mp written
  exact ⟨identifier, encoded, same.symm⟩

private theorem writeModifier_ways :
    Idles descriptor (writeModifier spelling value) ∨
      Notes descriptor modifier (writeModifier spelling value) ∨
      Puts descriptor modifier value (writeModifier spelling value) := by
  cases used : descriptor.carries modifier && modifier.kind.takes value with
  | false => exact .inl (idles_writeModifier descriptor spelling modifier value spelled used)
  | true =>
      obtain ⟨carried, taken⟩ := Bool.and_eq_true_iff.mp used
      by_cases isText : modifier.kind = .text
      · exact .inr (.inl
          (notes_writeModifier descriptor spelling modifier value spelled isText carried taken))
      · exact .inr (.inr
          (puts_writeModifier descriptor spelling modifier value spelled isText carried taken))

end Ways

/-! ### Writes in either order -/

/-- Both orders of two changes lead to the same graphic, if both orders are granted. -/
def SameEnd (graphic : Graphic) (left right : Change) : Prop :=
  ∀ afterLeft afterRight forward backward,
    Update.run left graphic = (.ok (), afterLeft) →
      Update.run right afterLeft = (.ok (), forward) →
        Update.run right graphic = (.ok (), afterRight) →
          Update.run left afterRight = (.ok (), backward) → forward = backward

namespace SameEnd

variable {graphic : Graphic} {left right : Change} {leftModifier rightModifier : Modifier}
  {leftValue rightValue : Modifier.Value}

theorem symm (same : graphic.SameEnd left right) : graphic.SameEnd right left :=
  fun afterRight afterLeft backward forward rightFirst thenLeft leftFirst thenRight =>
    (same afterLeft afterRight forward backward leftFirst thenRight rightFirst thenLeft).symm

private theorem of_idles (idles : Idles graphic.descriptor left)
    (typed : ∀ after, Update.run right graphic = (.ok (), after) →
      after.descriptor = graphic.descriptor) : graphic.SameEnd left right := by
  intro afterLeft afterRight forward backward leftFirst thenRight rightFirst thenLeft
  rw [idles graphic afterLeft rfl leftFirst] at thenRight
  cases thenRight.symm.trans rightFirst
  exact (idles afterRight backward (typed afterRight rightFirst) thenLeft).symm

private theorem of_notes (leftNotes : Notes graphic.descriptor leftModifier left)
    (rightNotes : Notes graphic.descriptor rightModifier right)
    (different : leftModifier ≠ rightModifier) : graphic.SameEnd left right := by
  intro afterLeft afterRight forward backward leftFirst thenRight rightFirst thenLeft
  obtain ⟨leftHeld, leftNoted⟩ := leftNotes.exists_noted
  obtain ⟨rightHeld, rightNoted⟩ := rightNotes.exists_noted
  have isLeft := leftNoted graphic afterLeft rfl leftFirst
  have isRight := rightNoted graphic afterRight rfl rightFirst
  subst isLeft isRight
  rw [rightNoted (graphic.noted leftModifier leftHeld) forward rfl thenRight,
    leftNoted (graphic.noted rightModifier rightHeld) backward rfl thenLeft]
  exact graphic.noted_comm leftModifier rightModifier leftHeld rightHeld different

private theorem of_notes_puts (notes : Notes graphic.descriptor leftModifier left)
    (puts : Puts graphic.descriptor rightModifier rightValue right) :
    graphic.SameEnd left right := by
  intro afterLeft afterRight forward backward leftFirst thenRight rightFirst thenLeft
  obtain ⟨held, noted⟩ := notes.exists_noted
  obtain ⟨placement, places⟩ := puts.exists_places graphic.fields
  have isLeft := noted graphic afterLeft rfl leftFirst
  subst isLeft
  obtain ⟨identifier, encoded, isForward⟩ :=
    puts.exists_code (graphic.noted leftModifier held) forward placement rfl places thenRight
  obtain ⟨again, encodedAgain, isRight⟩ :=
    puts.exists_code graphic afterRight placement rfl places rightFirst
  subst isRight
  have sameCode : again = identifier := Except.ok.inj (encodedAgain.symm.trans encoded)
  rw [isForward, noted (graphic.withCode again (graphic.fields.place placement)) backward rfl
    thenLeft, sameCode]
  exact graphic.withCode_noted leftModifier held identifier _ notes.isText notes.carried

private theorem of_puts (coherent : graphic.Coherent)
    (leftPuts : Puts graphic.descriptor leftModifier leftValue left)
    (rightPuts : Puts graphic.descriptor rightModifier rightValue right)
    (different : leftModifier ≠ rightModifier)
    (apart : ¬ leftModifier.ShareInstallation rightModifier) : graphic.SameEnd left right := by
  intro afterLeft afterRight forward backward leftFirst thenRight rightFirst thenLeft
  obtain ⟨leftPlaced, leftPlaces⟩ := leftPuts.exists_places graphic.fields
  obtain ⟨rightPlaced, rightPlaces⟩ := rightPuts.exists_places graphic.fields
  obtain ⟨leftLater, rightLater, rightAfter, leftAfter, rightAxis, leftAxis, sameFields⟩ :=
    leftPlaces.exists_comm rightPlaces different apart
  obtain ⟨leftCode, _leftEncoded, isLeft⟩ :=
    leftPuts.exists_code graphic afterLeft leftPlaced rfl leftPlaces leftFirst
  obtain ⟨rightCode, _rightEncoded, isRight⟩ :=
    rightPuts.exists_code graphic afterRight rightPlaced rfl rightPlaces rightFirst
  subst isLeft isRight
  obtain ⟨code, encoded, isForward⟩ :=
    rightPuts.exists_code (graphic.withCode leftCode (graphic.fields.place leftPlaced)) forward
      rightLater rfl rightAfter thenRight
  obtain ⟨again, encodedAgain, isBackward⟩ :=
    leftPuts.exists_code (graphic.withCode rightCode (graphic.fields.place rightPlaced)) backward
      leftLater rfl leftAfter thenLeft
  have sameCode : code = again :=
    Except.ok.inj (encoded.symm.trans ((congrArg CodeFields.encode sameFields).trans encodedAgain))
  -- Of the two codes of an order only the later counts, and that is for the same fields in both.
  calc forward
      = graphic.withCode code ((graphic.fields.place leftPlaced).place rightLater) := by
        rw [isForward]
        apply graphic.withCode_place_place leftCode code leftPlaced rightLater coherent.mirrored
        rw [rightAxis]
        exact leftPlaces.shared_axis rightPlaces different apart
    _ = graphic.withCode again ((graphic.fields.place rightPlaced).place leftLater) := by
        rw [sameFields, sameCode]
    _ = backward := by
        rw [isBackward]
        symm
        apply graphic.withCode_place_place rightCode again rightPlaced leftLater coherent.mirrored
        rw [leftAxis]
        exact rightPlaces.shared_axis leftPlaces (Ne.symm different)
          (fun shared => apart shared.symm)

end SameEnd

theorem descriptor_of_writeModifier (graphic after : Graphic) (spelling : String)
    (value : Modifier.Value)
    (written : Update.run (writeModifier spelling value) graphic = (.ok (), after)) :
    after.descriptor = graphic.descriptor := by
  have effect := effect_writeModifier spelling value graphic
  unfold Update.after at effect
  rw [written] at effect
  exact effect.descriptor_eq

private theorem sameEnd_of_coherent (graphic : Graphic) (coherent : graphic.Coherent)
    (leftSpelling rightSpelling : String) (left right : Modifier)
    (leftSpelled : Modifier.ofSpelling? leftSpelling = some left)
    (rightSpelled : Modifier.ofSpelling? rightSpelling = some right) (different : left ≠ right)
    (apart : ¬ left.ShareInstallation right) (leftValue rightValue : Modifier.Value) :
    graphic.SameEnd (writeModifier leftSpelling leftValue)
      (writeModifier rightSpelling rightValue) := by
  have leftWays := writeModifier_ways graphic.descriptor leftSpelling left leftValue leftSpelled
  have rightWays :=
    writeModifier_ways graphic.descriptor rightSpelling right rightValue rightSpelled
  rcases leftWays with leftIdles | leftNotes | leftPuts
  · exact .of_idles leftIdles fun after =>
      descriptor_of_writeModifier graphic after rightSpelling rightValue
  · rcases rightWays with rightIdles | rightNotes | rightPuts
    · exact (SameEnd.of_idles rightIdles fun after =>
        descriptor_of_writeModifier graphic after leftSpelling leftValue).symm
    · exact .of_notes leftNotes rightNotes different
    · exact .of_notes_puts leftNotes rightPuts
  · rcases rightWays with rightIdles | rightNotes | rightPuts
    · exact (SameEnd.of_idles rightIdles fun after =>
        descriptor_of_writeModifier graphic after leftSpelling leftValue).symm
    · exact (SameEnd.of_notes_puts rightNotes leftPuts).symm
    · exact .of_puts coherent leftPuts rightPuts different apart

/-- Two modifiers of a graphic are written in one order and in the other, and no write is refused:
then the graphic comes out the same, whatever has been done to it before and whatever the values
are. -/
theorem writeModifier_comm (graphic : Graphic) (reachable : graphic.Reachable)
    (leftSpelling rightSpelling : String) (left right : Modifier)
    (leftSpelled : Modifier.ofSpelling? leftSpelling = some left)
    (rightSpelled : Modifier.ofSpelling? rightSpelling = some right) (different : left ≠ right)
    (apart : ¬ left.ShareInstallation right) (leftValue rightValue : Modifier.Value)
    (forward backward : Graphic)
    (leftFirst : Update.run (do
        writeModifier leftSpelling leftValue
        writeModifier rightSpelling rightValue) graphic = (.ok (), forward))
    (rightFirst : Update.run (do
        writeModifier rightSpelling rightValue
        writeModifier leftSpelling leftValue) graphic = (.ok (), backward)) :
    forward = backward := by
  obtain ⟨_, afterLeft, ranLeft, thenRight⟩ := (Update.run_bind_eq_ok_iff _ _ _ _ _).mp leftFirst
  obtain ⟨_, afterRight, ranRight, thenLeft⟩ := (Update.run_bind_eq_ok_iff _ _ _ _ _).mp rightFirst
  exact sameEnd_of_coherent graphic reachable.coherent leftSpelling rightSpelling left right
    leftSpelled rightSpelled different apart leftValue rightValue afterLeft afterRight forward
    backward ranLeft thenRight ranRight thenLeft

/-- After the echelon has been taken away, a feint or dummy flag joins the flag of a headquarters or
stands in its place. -/
theorem writeModifier_comm_unitFlags :
    ∃ made forward backward,
      create Catalog.standard "SFGPUCI---AD---" [⟨0, 0, 0⟩] none = .ok made ∧
        Update.run (do
          writeModifier "FeintDummy" (.flag true)
          writeModifier "headquarters" (.flag false)) (made.run [.writeModifier "B" (.text " ")]) =
            (.ok (), forward) ∧
        Update.run (do
          writeModifier "headquarters" (.flag false)
          writeModifier "FeintDummy" (.flag true)) (made.run [.writeModifier "B" (.text " ")]) =
            (.ok (), backward) ∧
        forward.identifier = "SFGPUCI---F----" ∧ forward = backward := by
  have created := create_of_find? Catalog.standard "SFGPUCI---AD---" [⟨0, 0, 0⟩] _
    (Catalog.pointType .warfighting (some "G") "UCI---" "Infantry" Catalog.unitModifiers) rfl
    (by decide +kernel) rfl
  have reachable := (reachable_of_create _ _ _ _ _ created).run [.writeModifier "B" (.text " ")]
  refine ⟨_, _, _, created, rfl, rfl, rfl, ?_⟩
  exact writeModifier_comm _ reachable "FeintDummy" "headquarters" .feintDummy .headquarters rfl rfl
    (by decide) (by decide) (.flag true) (.flag false) _ _ rfl rfl

end Graphic

end TacticalSymbols

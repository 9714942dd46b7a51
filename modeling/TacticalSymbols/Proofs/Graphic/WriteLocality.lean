import TacticalSymbols.Proofs.Graphic.Canonical
import TacticalSymbols.Proofs.Graphic.LastWord

/-!
What a write of a modifier leaves alone. It changes the code only in the modifier slot, and says nothing
of other modifiers: the flags that it does not set stay in their token, and axes that it does not write
stay as they are. Only an installation takes the feint or dummy flag with it, and the other way round.
-/

namespace TacticalSymbols

private theorem Axis.index_of_inSlot (axis : Axis) (inSlot : axis.inSlot = true) (index : Nat)
    (covered : axis.span.Covers index) : index = 10 ∨ index = 11 := by
  have bounds : 11 ≤ axis.span.first ∧ axis.span.last ≤ 12 := by
    revert inSlot
    cases axis <;> decide
  unfold Span.Covers at covered
  omega

namespace CodeFields

/-! ### Codes -/

private theorem getElem?_place_of_encode (fields : CodeFields) (placement : Placement)
    (inSlot : placement.axis.inSlot = true) (scheme : Scheme) (before after : String)
    (named : fields.scheme? = some scheme) (writtenBefore : fields.encode = .ok before)
    (writtenAfter : (fields.place placement).encode = .ok after) (index : Nat)
    (notFirst : index ≠ 10) (notSecond : index ≠ 11) :
    after.toList[index]? = before.toList[index]? := by
  have namedAfter := scheme?_place_of_inSlot placement inSlot named
  obtain ⟨_, _, _, isBefore⟩ := (encode_eq_ok_iff fields before).mp writtenBefore
  obtain ⟨_, _, _, isAfter⟩ := (encode_eq_ok_iff _ after).mp writtenAfter
  rw [isBefore, isAfter, String.toList_ofList, String.toList_ofList]
  apply getElem?_sheet_congr scheme _ _
    (writable_of_encode _ scheme after namedAfter writtenAfter)
    (writable_of_encode fields scheme before named writtenBefore)
  intro axis covered
  apply token?_place_of_ne
  intro same
  rw [same] at covered
  rcases placement.axis.index_of_inSlot inSlot index covered with first | second
  · exact notFirst first
  · exact notSecond second

/-! ### Other modifiers -/

section Places

variable {fields : CodeFields} {modifier : Modifier} {value : Modifier.Value}
  {placement : Placement} (places : fields.Places modifier value placement) (other : Modifier)
  (different : modifier ≠ other) (apart : ¬ modifier.ShareInstallation other)

include places different apart

private theorem Places.token?_eq_of_apart (notFlag : other.kind ≠ .flag) (axis : Axis)
    (stored : other.axis? = some axis) :
    (fields.place placement).token? axis = fields.token? axis := by
  apply token?_place_of_ne
  intro there
  rcases places.axis_eq with itsAxis | ⟨atInstallation, isFeint⟩
  · rw [← there] at itsAxis
    exact different (other.eq_of_axis? modifier axis notFlag stored itsAxis)
  · rw [there, atInstallation] at stored
    have isInstallation : Modifier.installation = other :=
      other.eq_of_axis? .installation .installation notFlag stored rfl
    exact apart (.inl ⟨isFeint, isInstallation.symm⟩)

private theorem Places.flag_shownFlags_of_apart (isFlag : other.kind = .flag) :
    (fields.place placement).shownFlags.flag other = fields.shownFlags.flag other := by
  rw [flag_shownFlags _ other isFlag, flag_shownFlags _ other isFlag,
    places.flag_unitFlags other (Ne.symm different) isFlag]
  by_cases isFeint : other = .feintDummy
  · have elsewhere := places.axis_ne_installation other different apart isFeint
    rw [token?_place_of_ne fields placement .installation (Ne.symm elsewhere)]
  · rw [beq_eq_false_iff_ne.mpr isFeint, Bool.false_and, Bool.false_and]

end Places

end CodeFields

theorem Markings.value?_align_of_flag (markings : Markings) (descriptor : Descriptor)
    (fields : CodeFields) (modifier : Modifier) (carried : descriptor.carries modifier = true)
    (isFlag : modifier.kind = .flag) :
    (markings.align descriptor fields).value? modifier =
      some (.flag (fields.shownFlags.flag modifier)) := by
  rw [fields.flag_shownFlags modifier isFlag]
  exact (Markings.mirrors_align markings descriptor fields).flags modifier carried isFlag

namespace Graphic

private theorem value?_withCode_of_apart (graphic : Graphic)
    (mirrored : graphic.markings.Mirrors graphic.descriptor graphic.fields) (identifier : String)
    (modifier : Modifier) (value : Modifier.Value) (placement : Placement)
    (places : graphic.fields.Places modifier value placement) (other : Modifier)
    (carried : graphic.descriptor.carries other = true) (different : modifier ≠ other)
    (apart : ¬ modifier.ShareInstallation other) :
    (graphic.withCode identifier (graphic.fields.place placement)).markings.value? other =
      graphic.markings.value? other := by
  have aligned := Markings.mirrors_align graphic.markings graphic.descriptor
    (graphic.fields.place placement)
  cases kind : other.kind with
  | text => exact Markings.value?_align_of_text _ _ _ other carried kind
  | flag =>
      rw [mirrored.flags other carried kind, ← graphic.fields.flag_shownFlags other kind,
        ← places.flag_shownFlags_of_apart other different apart kind]
      exact Markings.value?_align_of_flag _ _ _ other carried kind
  | token =>
      rw [mirrored.tokens other carried kind]
      refine (aligned.tokens other carried kind).trans ?_
      cases stored : other.axis? with
      | none => rfl
      | some axis =>
          rw [Option.bind_some, Option.bind_some,
            places.token?_eq_of_apart other different apart (by rw [kind]; decide) axis stored]

/-! ### Graphics -/

/-- The same graphic but for the slot of the code, which is the eleventh and the twelfth place, and for
the values of modifiers. -/
structure SameAround (before after : Graphic) : Prop where
  characters : ∀ index, index ≠ 10 → index ≠ 11 →
    after.identifier.toList[index]? = before.identifier.toList[index]?
  positions : after.positions = before.positions
  display : after.display = before.display
  style : after.style? = before.style?
  visible : after.visible = before.visible
  descriptor : after.descriptor = before.descriptor
  shown : ∀ spelling, after.showsModifier spelling = before.showsModifier spelling

theorem carried?_eq_of_descriptor {before after : Graphic}
    (same : after.descriptor = before.descriptor) (spelling : String) :
    after.carried? spelling = before.carried? spelling := by
  rw [carried?, carried?, same]

theorem showsModifier_eq {before after : Graphic} (same : after.descriptor = before.descriptor)
    (shown : ∀ modifier, before.descriptor.carries modifier = true →
      after.markings.isVisible modifier = before.markings.isVisible modifier) (spelling : String) :
    after.showsModifier spelling = before.showsModifier spelling := by
  rw [showsModifier, showsModifier, carried?_eq_of_descriptor same]
  cases carried : before.carried? spelling with
  | none => rfl
  | some modifier => exact shown modifier (Option.filter_eq_some_iff.mp carried).2

theorem modifier?_eq {before after : Graphic} (same : after.descriptor = before.descriptor)
    (spelling : String)
    (valued : ∀ modifier, before.carried? spelling = some modifier →
      after.markings.value? modifier = before.markings.value? modifier) :
    after.modifier? spelling = before.modifier? spelling := by
  rw [modifier?, modifier?, carried?_eq_of_descriptor same]
  cases carried : before.carried? spelling with
  | none => rfl
  | some modifier => exact valued modifier carried

/-! ### Granted writes -/

/-- What a write that is granted does: nothing, or it says a text beside the code, or puts something
into the code. -/
inductive Granted (graphic : Graphic) (modifier : Modifier) (value : Modifier.Value) :
    Graphic → Prop where
  | idle : Granted graphic modifier value graphic
  | noted (held : String) (isText : modifier.kind = .text) :
      Granted graphic modifier value (graphic.noted modifier held)
  | put (inCode : modifier.kind ≠ .text) (carried : graphic.descriptor.carries modifier = true)
      (placement : Placement) (places : graphic.fields.Places modifier value placement)
      (identifier : String)
      (encoded : (graphic.fields.place placement).encode = .ok identifier) :
      Granted graphic modifier value
        (graphic.withCode identifier (graphic.fields.place placement))

private theorem granted_of_writeModifier (graphic left : Graphic) (spelling : String)
    (modifier : Modifier) (value : Modifier.Value)
    (spelled : Modifier.ofSpelling? spelling = some modifier)
    (written : Update.run (writeModifier spelling value) graphic = (.ok (), left)) :
    Granted graphic modifier value left := by
  cases used : graphic.descriptor.carries modifier && modifier.kind.takes value with
  | false =>
      rw [idles_writeModifier graphic.descriptor spelling modifier value spelled used graphic left rfl
        written]
      exact .idle
  | true =>
      obtain ⟨carried, taken⟩ := Bool.and_eq_true_iff.mp used
      by_cases isText : modifier.kind = .text
      · obtain ⟨held, noted⟩ := (notes_writeModifier graphic.descriptor spelling modifier value
          spelled isText carried taken).exists_noted
        rw [noted graphic left rfl written]
        exact .noted held isText
      · have puts := puts_writeModifier graphic.descriptor spelling modifier value spelled isText
          carried taken
        obtain ⟨placement, places⟩ := puts.exists_places graphic.fields
        obtain ⟨identifier, encoded, same⟩ :=
          puts.exists_code graphic left placement rfl places written
        rw [same]
        exact .put isText carried placement places identifier encoded

section Granted

variable {graphic left : Graphic} {modifier : Modifier} {value : Modifier.Value}
  (granted : graphic.Granted modifier value left)

include granted

private theorem Granted.identifier_of_text (isText : modifier.kind = .text) :
    left.identifier = graphic.identifier := by
  cases granted with
  | idle => rfl
  | noted held _isText => rfl
  | put inCode carried placement places identifier encoded => exact absurd isText inCode

private theorem Granted.sameAround (reachable : graphic.Reachable) : graphic.SameAround left := by
  cases granted with
  | idle => exact ⟨fun _ _ _ => rfl, rfl, rfl, rfl, rfl, rfl, fun _ => rfl⟩
  | noted held _isText =>
      exact ⟨fun _ _ _ => rfl, rfl, rfl, rfl, rfl, rfl, showsModifier_eq rfl
        (fun other _carried => graphic.markings.isVisible_setValue modifier other (.text held))⟩
  | put inCode carried placement places identifier encoded =>
      have ready := reachable.coherent.ready
      have applies := (Bool.and_eq_true_iff.mp carried).2
      have used := places.uses ready.writable applies
      have own := reachable.encode_eq placement.axis used places.inSlot
      refine ⟨?_, rfl, rfl, rfl, rfl, rfl, ?_⟩
      · exact graphic.fields.getElem?_place_of_encode placement places.inSlot _ graphic.identifier
          identifier ready.named own encoded
      · exact showsModifier_eq rfl
          (sameBeside_withCode graphic identifier (graphic.fields.place placement)).shown

private theorem Granted.modifier?_eq_of_apart (reachable : graphic.Reachable) (spelling : String)
    (apart : ∀ other, Modifier.ofSpelling? spelling = some other →
      modifier ≠ other ∧ ¬ modifier.ShareInstallation other) :
    left.modifier? spelling = graphic.modifier? spelling := by
  cases granted with
  | idle => rfl
  | noted held _isText =>
      refine modifier?_eq ?_ spelling ?_
      · rfl
      intro other carried
      have different := (apart other (Option.filter_eq_some_iff.mp carried).1).1
      exact (Markings.value?_setValue _ modifier other _).trans (if_neg (Ne.symm different))
  | put inCode carried placement places identifier encoded =>
      refine modifier?_eq ?_ spelling ?_
      · rfl
      intro other otherCarried
      obtain ⟨spelled, carriesOther⟩ := Option.filter_eq_some_iff.mp otherCarried
      obtain ⟨different, notShared⟩ := apart other spelled
      exact graphic.value?_withCode_of_apart reachable.coherent.mirrored identifier modifier value
        placement places other carriesOther different notShared

end Granted

/-- A write of a modifier that is granted changes nothing of a graphic but the slot of its code and the
value of that modifier, whatever has been done to the graphic before. A text leaves the whole code
alone. Besides, the feint or dummy flag and the installation may change each other. -/
theorem local_of_writeModifier (graphic : Graphic) (reachable : graphic.Reachable)
    (spelling : String) (value : Modifier.Value) (left : Graphic)
    (written : Update.run (writeModifier spelling value) graphic = (.ok (), left)) :
    graphic.SameAround left ∧
      (∀ modifier, Modifier.ofSpelling? spelling = some modifier → modifier.kind = .text →
        left.identifier = graphic.identifier) ∧
      ∀ otherSpelling,
        (∀ modifier other, Modifier.ofSpelling? spelling = some modifier →
          Modifier.ofSpelling? otherSpelling = some other →
            modifier ≠ other ∧ ¬ modifier.ShareInstallation other) →
          left.modifier? otherSpelling = graphic.modifier? otherSpelling := by
  cases spelled : Modifier.ofSpelling? spelling with
  | none =>
      cases (run_writeModifier_of_unnamed spelling value graphic spelled).symm.trans written
      exact ⟨⟨fun _ _ _ => rfl, rfl, rfl, rfl, rfl, rfl, fun _ => rfl⟩, nofun, fun _ _ => rfl⟩
  | some modifier =>
      have granted := granted_of_writeModifier graphic left spelling modifier value spelled written
      refine ⟨granted.sameAround reachable, ?_, ?_⟩
      · intro named same isText
        cases same
        exact granted.identifier_of_text isText
      · intro otherSpelling apart
        exact granted.modifier?_eq_of_apart reachable otherSpelling
          (fun other spelledOther => apart modifier other rfl spelledOther)

/-- A task force is noted beside the echelon of a headquarters: the token of the unit is another, the
other characters and the other two modifiers are the same. -/
theorem local_of_writeModifier_taskForce :
    ∃ made left, create Catalog.standard "sfgpuci---adusg" [⟨0, 0, 0⟩] none = .ok made ∧
      Update.run (writeModifier "taskForce" (.flag true)) made = (.ok (), left) ∧
      left.identifier = "SFGPUCI---BDUSG" ∧ made.SameAround left ∧
      left.modifier? "headquarters" = some (.flag true) ∧
      left.modifier? "B" = some (.token "D") := by
  have created := create_of_find? Catalog.standard "sfgpuci---adusg" [⟨0, 0, 0⟩] _
    (Catalog.pointType .warfighting (some "G") "UCI---" "Infantry" Catalog.unitModifiers) rfl
    (by decide +kernel) rfl
  obtain ⟨around, _text, others⟩ := local_of_writeModifier _ (reachable_of_create _ _ _ _ _ created)
    "taskForce" (.flag true) _ rfl
  refine ⟨_, _, created, rfl, rfl, around, ?_, ?_⟩
  · refine (others "headquarters" ?_).trans rfl
    intro modifier other spelled spelledOther
    cases spelled
    cases spelledOther
    decide
  · refine (others "B" ?_).trans rfl
    intro modifier other spelled spelledOther
    cases spelled
    cases spelledOther
    decide

end Graphic

end TacticalSymbols

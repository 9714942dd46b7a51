import TacticalSymbols.Proofs.Code.Grammar

/-!
Codes that are read in part. The violations in the report of such a code are all that is wrong with
it and nothing else: they are found where they are told, and once their places are blank the code is
read as exactly the fields that were valid before.
-/

namespace TacticalSymbols

structure Violation.Stands (scheme : Scheme) (characters : List Char) (violation : Violation) :
    Prop where
  found : violation.token.toList = violation.axis.span.slice characters
  notFiller : allFiller violation.token.toList = false
  placed : violation.position = violation.axis.start
  notExpected : violation.token ∉ violation.expected
  /-- The scheme lacks the axis and expects nothing there, or the axis does not take the token. -/
  rejected :
    (scheme.uses violation.axis = false ∧ violation.expected = []) ∨
      (scheme.uses violation.axis = true ∧ isLegal violation.axis violation.token scheme = false ∧
        violation.expected = (legalTokens violation.axis scheme).tokens)

namespace CodeFields

def blanked (violations : List Violation) (characters : List Char) : List Char :=
  characters.mapIdx (fun index character =>
    if ∃ violation ∈ violations, violation.axis.span.Covers index then filler else character)

private theorem length_blanked (violations : List Violation) (characters : List Char) :
    (blanked violations characters).length = characters.length :=
  List.length_mapIdx

private theorem map_toUpper_blanked (violations : List Violation) (characters : List Char) :
    (blanked violations characters).map Char.toUpper =
      blanked violations (characters.map Char.toUpper) := by
  have blank : filler.toUpper = filler := by decide
  apply List.ext_getElem?
  intro index
  unfold blanked
  rw [List.getElem?_map, List.getElem?_mapIdx, List.getElem?_mapIdx, List.getElem?_map]
  cases characters[index]? with
  | none => rfl
  | some character =>
      dsimp only [Option.map_some]
      split
      · rw [blank]
      · rfl

private theorem getElem?_blanked_of_reported (violations : List Violation) (characters : List Char)
    (index : Nat) (within : index < characters.length)
    (reported : ∃ violation ∈ violations, violation.axis.span.Covers index) :
    (blanked violations characters)[index]? = some filler := by
  unfold blanked
  rw [List.getElem?_mapIdx, List.getElem?_eq_getElem within, Option.map_some, if_pos reported]

private theorem getElem?_blanked_of_not_reported (violations : List Violation)
    (characters : List Char) (index : Nat)
    (free : ¬ ∃ violation ∈ violations, violation.axis.span.Covers index) :
    (blanked violations characters)[index]? = characters[index]? := by
  unfold blanked
  simp only [List.getElem?_mapIdx, if_neg free, Option.map_id']

/-! ### The axes that are read -/

private theorem nodup_axesRead (scheme : Scheme) (tag : Char) : (axesRead scheme tag).Nodup := by
  unfold axesRead
  rcases slotAxes_cases tag with same | same | same | same <;> rw [same] <;> cases scheme <;> decide

private theorem slotAxes_tagged_or (tag : Char) :
    (∃ axis, slotAxes tag = [axis]) ∨ slotAxes tag = [.unitEquipment, .echelon] := by
  rcases slotAxes_cases tag with same | same | same | same
  · exact .inl ⟨_, same⟩
  · exact .inl ⟨_, same⟩
  · exact .inl ⟨_, same⟩
  · exact .inr same

/-- No two axes of one reading share a place, whether or not the scheme has them. -/
private theorem apart_of_mem_axesRead (scheme : Scheme) (tag : Char) (left right : Axis)
    (readLeft : left ∈ axesRead scheme tag) (readRight : right ∈ axesRead scheme tag)
    (different : left ≠ right) : left.Apart right := by
  have outsideAlone : ∀ axis other : Axis, axis.inSlot = false → axis.Together other := by
    intro axis other outside inSlot
    rw [outside] at inSlot
    cases inSlot
  rcases (mem_axesRead_iff scheme tag left).mp readLeft with
    ⟨usesLeft, _notScheme, outside⟩ | ⟨_hasSlot, slotLeft⟩
  · rcases (mem_axesRead_iff scheme tag right).mp readRight with
      ⟨usesRight, _notScheme, _outside⟩ | ⟨_hasSlot, slotRight⟩
    · exact Axis.apart_of_uses scheme left right usesLeft usesRight different
        (outsideAlone left right outside)
    · have apart := Axis.apart_of_inSlot right left (inSlot_of_mem_slotAxes tag right slotRight)
        different.symm (fun _ inSlot => absurd inSlot (by simp [outside]))
      exact apart.symm
  · apply Axis.apart_of_inSlot left right (inSlot_of_mem_slotAxes tag left slotLeft) different
    intro leftInSlot rightInSlot
    rcases (mem_axesRead_iff scheme tag right).mp readRight with
      ⟨_used, _notScheme, outside⟩ | ⟨_hasSlot, slotRight⟩
    · rw [outside] at rightInSlot
      cases rightInSlot
    · exact together_of_mem_slotAxes tag left right slotLeft slotRight leftInSlot rightInSlot

/-! ### What is reported -/

section Reported

variable (scheme : Scheme) (characters : List Char)

theorem mem_violations_iff (violation : Violation) :
    violation ∈ (readFields scheme characters).violations ↔
      ∃ axis ∈ axesRead scheme (slotTag characters),
        isRejected scheme characters axis = true ∧ violationAt scheme characters axis = violation := by
  rw [violations_readFields, List.mem_map]
  simp only [List.mem_filter, and_assoc]

private theorem exists_violation_covers_iff (index : Nat) :
    (∃ violation ∈ (readFields scheme characters).violations, violation.axis.span.Covers index) ↔
      ∃ axis ∈ axesRead scheme (slotTag characters),
        isRejected scheme characters axis = true ∧ axis.span.Covers index := by
  constructor
  · intro reported
    obtain ⟨violation, member, covers⟩ := reported
    obtain ⟨axis, read, rejected, same⟩ := (mem_violations_iff scheme characters violation).mp member
    subst same
    exact ⟨axis, read, rejected, covers⟩
  · intro rejected
    obtain ⟨axis, read, rejected, covers⟩ := rejected
    exact ⟨violationAt scheme characters axis,
      (mem_violations_iff scheme characters _).mpr ⟨axis, read, rejected, rfl⟩, covers⟩

private theorem nodup_axes_violations :
    ((readFields scheme characters).violations.map Violation.axis).Nodup := by
  have own : Violation.axis ∘ violationAt scheme characters = id := rfl
  rw [violations_readFields, List.map_map, own, List.map_id]
  exact (nodup_axesRead scheme _).filter _

private theorem found?_of_isRejected (axis : Axis)
    (rejected : isRejected scheme characters axis = true) :
    found? scheme characters axis = none := by
  simp only [isRejected, Bool.and_eq_true, Bool.not_eq_true'] at rejected
  simp [found?, rejected.1, rejected.2]

private theorem contains_of_isRejected (axis : Axis)
    (read : axis ∈ axesRead scheme (slotTag characters))
    (rejected : isRejected scheme characters axis = true) :
    (readFields scheme characters).valid.contains axis = false := by
  have notScheme : axis ≠ .scheme := by
    intro same
    subst same
    exact scheme_not_mem_axesRead scheme _ read
  rw [contains, token?_readFields, if_neg notScheme, if_pos read,
    found?_of_isRejected scheme characters axis rejected]
  rfl

private theorem stands_violationAt (axis : Axis)
    (rejected : isRejected scheme characters axis = true) :
    (violationAt scheme characters axis).Stands scheme characters := by
  simp only [isRejected, Bool.and_eq_true, Bool.not_eq_true', Bool.and_eq_false_iff] at rejected
  obtain ⟨notFiller, refused⟩ := rejected
  have found : (violationAt scheme characters axis).token.toList = axis.span.slice characters :=
    String.toList_ofList
  cases used : scheme.uses axis with
  | false =>
      have nothing : (violationAt scheme characters axis).expected = [] := by
        simp [violationAt, used]
      exact ⟨found, by rw [found]; exact notFiller, rfl, by simp [nothing], .inl ⟨used, nothing⟩⟩
  | true =>
      have illegal : isLegal axis (violationAt scheme characters axis).token scheme = false :=
        refused.resolve_left (by simp [used])
      have listed : (violationAt scheme characters axis).expected =
          (legalTokens axis scheme).tokens := by
        simp [violationAt, used]
      refine ⟨found, by rw [found]; exact notFiller, rfl, ?_, .inr ⟨used, illegal, listed⟩⟩
      intro expected
      rw [listed] at expected
      rw [isLegal_of_mem_tokens axis _ scheme expected] at illegal
      cases illegal

end Reported

/-! ### Reading what is left -/

def remainder (scheme : Scheme) (characters : List Char) : List Char :=
  blanked (readFields scheme characters).violations characters

section Remainder

variable {scheme : Scheme} {characters : List Char} (full : characters.length = codeLength)

include full

private theorem length_remainder : (remainder scheme characters).length = codeLength := by
  rw [remainder, length_blanked, full]

private theorem allFiller_slice_remainder (axis : Axis)
    (read : axis ∈ axesRead scheme (slotTag characters))
    (rejected : isRejected scheme characters axis = true) :
    allFiller (axis.span.slice (remainder scheme characters)) = true := by
  rw [axis.allFiller_slice_iff _ (length_remainder full)]
  intro index covered
  apply getElem?_blanked_of_reported
  · rw [full]
    exact axis.lt_codeLength_of_covers index covered
  · exact (exists_violation_covers_iff scheme characters index).mpr ⟨axis, read, rejected, covered⟩

omit full in
private theorem slice_remainder (axis : Axis)
    (free : ∀ other ∈ axesRead scheme (slotTag characters),
      isRejected scheme characters other = true → axis.Apart other) :
    axis.span.slice (remainder scheme characters) = axis.span.slice characters := by
  apply axis.slice_eq_of_covered
  intro index covered
  apply getElem?_blanked_of_not_reported
  intro reported
  obtain ⟨other, read, rejected, otherCovers⟩ :=
    (exists_violation_covers_iff scheme characters index).mp reported
  exact (free other read rejected).not_covers index covered otherCovers

omit full in
private theorem slice_remainder_of_accepted (axis : Axis)
    (read : axis ∈ axesRead scheme (slotTag characters))
    (accepted : isRejected scheme characters axis = false) :
    axis.span.slice (remainder scheme characters) = axis.span.slice characters := by
  apply slice_remainder
  intro other otherRead rejected
  apply apart_of_mem_axesRead scheme _ axis other read otherRead
  intro same
  rw [same, rejected] at accepted
  cases accepted

omit full in
private theorem schemeSlice_remainder :
    Axis.scheme.span.slice (remainder scheme characters) =
      Axis.scheme.span.slice characters := by
  apply slice_remainder
  intro other read _rejected
  have notScheme : other ≠ .scheme := by
    intro same
    subst same
    exact scheme_not_mem_axesRead scheme _ read
  revert notScheme
  cases other <;> decide

variable (scheme) in
/-- With its violations blank the slot is read as the same axes, unless it was one violation. -/
private theorem slotAxes_remainder :
    slotAxes (slotTag (remainder scheme characters)) = slotAxes (slotTag characters) ∨
      ∀ axis ∈ slotAxes (slotTag characters), isRejected scheme characters axis = true := by
  by_cases reported : ∃ violation ∈ (readFields scheme characters).violations,
      violation.axis.span.Covers (Axis.unitEquipment.start - 1)
  · have blank : slotTag (remainder scheme characters) = filler := by
      rw [slotTag, List.getD_eq_getElem?_getD, remainder,
        getElem?_blanked_of_reported _ _ _ (by rw [full]; decide) reported]
      rfl
    obtain ⟨axis, read, rejected, covers⟩ :=
      (exists_violation_covers_iff scheme characters _).mp reported
    have inSlot : axis.inSlot = true := by
      revert covers
      cases axis <;> decide
    have isRead : axis ∈ slotAxes (slotTag characters) := by
      rcases (mem_axesRead_iff scheme _ axis).mp read with ⟨_used, _notScheme, outside⟩ | ⟨_, member⟩
      · rw [outside] at inSlot
        cases inSlot
      · exact member
    rw [blank]
    -- A tag that stands for one axis belongs to its token, so that the whole slot is rejected.
    rcases slotAxes_tagged_or (slotTag characters) with ⟨tagged, same⟩ | same
    · right
      rw [same] at isRead ⊢
      rw [List.forall_mem_singleton, ← List.mem_singleton.mp isRead]
      exact rejected
    · left
      rw [same]
      rfl
  · left
    rw [slotTag, slotTag, List.getD_eq_getElem?_getD, List.getD_eq_getElem?_getD, remainder,
      getElem?_blanked_of_not_reported _ _ _ reported]

private theorem mem_axesRead_or_rejected (axis : Axis)
    (read : axis ∈ axesRead scheme (slotTag characters)) :
    axis ∈ axesRead scheme (slotTag (remainder scheme characters)) ∨
      isRejected scheme characters axis = true := by
  rw [mem_axesRead_iff] at read ⊢
  rcases read with outside | ⟨hasSlot, member⟩
  · exact .inl (.inl outside)
  · rcases slotAxes_remainder scheme full with same | allRejected
    · exact .inl (.inr ⟨hasSlot, by rw [same]; exact member⟩)
    · exact .inr (allRejected axis member)

private theorem mem_axesRead_or_blank (axis : Axis)
    (read : axis ∈ axesRead scheme (slotTag (remainder scheme characters))) :
    axis ∈ axesRead scheme (slotTag characters) ∨
      allFiller (axis.span.slice (remainder scheme characters)) = true := by
  rcases (mem_axesRead_iff scheme _ axis).mp read with outside | ⟨hasSlot, member⟩
  · exact .inl ((mem_axesRead_iff scheme _ axis).mpr (.inl outside))
  · rcases slotAxes_remainder scheme full with same | allRejected
    · rw [same] at member
      exact .inl ((mem_axesRead_iff scheme _ axis).mpr (.inr ⟨hasSlot, member⟩))
    · right
      rw [axis.allFiller_slice_iff _ (length_remainder full)]
      intro index covered
      obtain ⟨other, otherMember, otherCovers⟩ := exists_mem_slotAxes_covers (slotTag characters) axis
        (inSlot_of_mem_slotAxes _ axis member) index covered
      have blank := allFiller_slice_remainder full other
        ((mem_axesRead_iff scheme _ other).mpr (.inr ⟨hasSlot, otherMember⟩))
        (allRejected other otherMember)
      exact (other.allFiller_slice_iff _ (length_remainder full)).mp blank index otherCovers

private theorem isRejected_remainder (axis : Axis)
    (read : axis ∈ axesRead scheme (slotTag (remainder scheme characters))) :
    isRejected scheme (remainder scheme characters) axis = false := by
  rcases mem_axesRead_or_blank full axis read with readBefore | blank
  · cases rejected : isRejected scheme characters axis with
    | true => simp [isRejected, allFiller_slice_remainder full axis readBefore rejected]
    | false =>
        have accepted := rejected
        unfold isRejected at accepted ⊢
        rw [slice_remainder_of_accepted axis readBefore rejected]
        exact accepted
  · simp [isRejected, blank]

private theorem found?_remainder (axis : Axis)
    (read : axis ∈ axesRead scheme (slotTag characters)) :
    found? scheme (remainder scheme characters) axis = found? scheme characters axis := by
  cases rejected : isRejected scheme characters axis with
  | true =>
      rw [found?_of_isRejected scheme characters axis rejected]
      simp [found?, allFiller_slice_remainder full axis read rejected]
  | false =>
      unfold found?
      rw [slice_remainder_of_accepted axis read rejected]

private theorem reads_remainder
    (named : Scheme.ofToken? (String.ofList (Axis.scheme.span.slice characters)) = some scheme) :
    Reads scheme (remainder scheme characters) (readFields scheme characters).valid := by
  refine ⟨length_remainder full, ?_, isRejected_remainder full, ?_⟩
  · rw [schemeSlice_remainder]
    exact named
  · intro axis
    rw [token?_readFields]
    by_cases isScheme : axis = .scheme
    · rw [if_pos isScheme, if_pos isScheme]
    · rw [if_neg isScheme, if_neg isScheme]
      by_cases readBefore : axis ∈ axesRead scheme (slotTag characters)
      · rw [if_pos readBefore]
        split
        · exact (found?_remainder full axis readBefore).symm
        next notRead =>
          have rejected := (mem_axesRead_or_rejected full axis readBefore).resolve_left notRead
          exact found?_of_isRejected scheme characters axis rejected
      · rw [if_neg readBefore]
        split
        next readAfter =>
          have blank := (mem_axesRead_or_blank full axis readAfter).resolve_left readBefore
          simp [found?, blank]
        next => rfl

end Remainder

/-! ### Reports -/

private theorem readFields_of_invalidFields (text : String) (violations : List Violation)
    (valid : CodeFields) (failed : decode text = .error (.invalidFields violations valid)) :
    text.length = codeLength ∧ ∃ scheme : Scheme, scheme.token = schemeToken text ∧
      violations = (readFields scheme (Text.upper text).toList).violations ∧
      valid = (readFields scheme (Text.upper text).toList).valid ∧ violations ≠ [] := by
  rw [Text.upper_toList]
  by_cases full : text.length = codeLength
  · refine ⟨full, ?_⟩
    cases named : Scheme.ofToken? (schemeToken text) with
    | none =>
        rw [decode_of_unknownScheme text full named] at failed
        cases failed
    | some scheme =>
        have isNamed := (ofToken?_schemeToken_iff text scheme).mp named
        rw [decode_of_scheme text full scheme isNamed] at failed
        split at failed
        next => cases failed
        next reported =>
          cases failed
          exact ⟨scheme, isNamed, rfl, rfl, by simpa using reported⟩
  · rw [decode_of_wrongLength text full] at failed
    cases failed

/-- The report of a code that is read in part is complete. There is a violation, no axis has two,
each stands in the code as it is told, and none of their axes has a token among the fields that are
valid. Once the places of the violations are blank, the code is read as exactly these fields, and
they can be written. -/
theorem decode_blanked (text : String) (violations : List Violation) (valid : CodeFields)
    (failed : decode text = .error (.invalidFields violations valid)) :
    ∃ scheme : Scheme, scheme.token = schemeToken text ∧ violations ≠ [] ∧
      (violations.map Violation.axis).Nodup ∧
      (∀ violation ∈ violations, valid.contains violation.axis = false ∧
        violation.Stands scheme (Text.upper text).toList) ∧
      decode (String.ofList (blanked violations text.toList)) = .ok valid ∧
      ∃ code, valid.encode = .ok code := by
  obtain ⟨full, scheme, named, sameViolations, sameValid, nonempty⟩ :=
    readFields_of_invalidFields text violations valid failed
  have upperFull : (Text.upper text).toList.length = codeLength := by
    rw [Text.upper_toList, List.length_map, String.length_toList, full]
  have upperNamed : Scheme.ofToken?
      (String.ofList (Axis.scheme.span.slice (Text.upper text).toList)) = some scheme := by
    rw [Text.upper_toList, ← schemeToken_eq]
    exact (ofToken?_schemeToken_iff text scheme).mpr named
  have reads := reads_remainder upperFull upperNamed
  refine ⟨scheme, named, nonempty, ?_, ?_, ?_, ?_⟩
  · rw [sameViolations]
    exact nodup_axes_violations scheme _
  · intro violation member
    rw [sameViolations] at member
    obtain ⟨axis, read, rejected, same⟩ := (mem_violations_iff scheme _ violation).mp member
    subst same
    rw [sameValid]
    exact ⟨contains_of_isRejected scheme _ axis read rejected,
      stands_violationAt scheme _ axis rejected⟩
  · rw [decode_eq_ok_iff, String.toList_ofList, map_toUpper_blanked, ← Text.upper_toList,
      sameViolations, sameValid]
    exact ⟨scheme, reads⟩
  · rw [sameValid]
    exact ⟨_, (encode_eq_ok_iff _ _).mpr
      ⟨scheme, scheme?_of_reads reads, writable_of_reads reads, rfl⟩⟩

/-- Emergency management has no auxiliary equipment, and the order of battle is illegal: the two
violations are taken out of the slot and of the last place. -/
theorem decode_blanked_foreignSlot :
    ∃ violations valid,
      decode "efipa-----nsusq" = .error (.invalidFields violations valid) ∧
        violations.map Violation.axis = [.orderOfBattle, .auxiliaryEquipment] ∧
        decode "efipa-------us-" = .ok valid := by
  obtain ⟨_scheme, _named, _nonempty, _distinct, _stand, readBack, _written⟩ :=
    decode_blanked "efipa-----nsusq" _ _ rfl
  exact ⟨_, _, rfl, rfl, readBack⟩

end CodeFields

end TacticalSymbols

import TacticalSymbols.Proofs.Code.Reading
import TacticalSymbols.Proofs.Code.Sheet

/-!
Reading and writing undo each other. A written code reads back as the same fields in capitals, and
a code that can be read is written back with its unused places blank.
-/

namespace TacticalSymbols.CodeFields

def capitals (fields : CodeFields) : CodeFields :=
  { token? := fun axis => (fields.token? axis).map Text.upper }

@[simp] theorem token?_capitals (fields : CodeFields) (axis : Axis) :
    fields.capitals.token? axis = (fields.token? axis).map Text.upper :=
  rfl

theorem capitals_eq_self_iff (fields : CodeFields) :
    fields.capitals = fields ↔
      ∀ axis token, fields.token? axis = some token → Text.upper token = token := by
  constructor
  · intro capitals axis token present
    have same := congrArg (fun fields => fields.token? axis) capitals
    simpa only [token?_capitals, present, Option.map_some, Option.some.injEq] using same
  · intro capital
    apply CodeFields.ext
    funext axis
    rw [token?_capitals]
    cases present : fields.token? axis with
    | none => rfl
    | some token => rw [Option.map_some, capital axis token present]

theorem Writable.isLegal_of_capitals {scheme : Scheme} {fields : CodeFields}
    (writable : Writable scheme fields) (capitals : fields.capitals = fields) (axis : Axis)
    (token : String) (present : fields.token? axis = some token) :
    isLegal axis token scheme = true := by
  have legal := (writable.legal axis token present).2
  rwa [(capitals_eq_self_iff fields).mp capitals axis token present] at legal

private theorem token?_scheme_of_scheme? (fields : CodeFields) (scheme : Scheme)
    (named : fields.scheme? = some scheme) :
    ∃ token, fields.token? .scheme = some token ∧ Scheme.ofToken? token = some scheme :=
  Option.bind_eq_some_iff.mp named

/-! ### Reading what was written -/

section Written

variable {scheme : Scheme} {fields : CodeFields} (writable : Writable scheme fields)

include writable

/-- A token that starts the slot decides how the slot is read. -/
private theorem mem_slotAxes_of_starts (axis : Axis) (token : String)
    (present : fields.token? axis = some token) (starts : axis.start = Axis.unitEquipment.start) :
    axis ∈ slotAxes (slotTag (sheet fields.cells)) := by
  have legal := (writable.legal axis token present).2
  have slice := slice_sheet scheme fields writable axis token present
  have nonempty : 0 < axis.width := by cases axis <;> decide
  have first : (Text.upper token).toList.headD filler = slotTag (sheet fields.cells) := by
    rw [← slice, List.headD_eq_head?_getD, List.head?_eq_getElem?,
      axis.getElem?_slice _ 0 nonempty, starts, Nat.add_zero, slotTag, List.getD_eq_getElem?_getD]
  rw [← first]
  exact axis.mem_slotAxes_of_isLegal _ scheme legal starts

private theorem mem_slotAxes_of_written (axis : Axis) (token : String)
    (present : fields.token? axis = some token) (inSlot : axis.inSlot = true) :
    axis ∈ slotAxes (slotTag (sheet fields.cells)) := by
  by_cases starts : axis.start = Axis.unitEquipment.start
  · exact mem_slotAxes_of_starts writable axis token present starts
  · have isEchelon : axis = .echelon := by
      revert inSlot starts
      cases axis <;> decide
    subst isEchelon
    -- An echelon leaves the tag to a unit token, or blank.
    cases unit : fields.token? .unitEquipment with
    | some unitToken =>
        have read := mem_slotAxes_of_starts writable .unitEquipment unitToken unit rfl
        rcases slotAxes_cases (slotTag (sheet fields.cells)) with same | same | same | same <;>
          rw [same] at read ⊢ <;> revert read <;> decide
    | none =>
        have blank : (sheet fields.cells)[Axis.unitEquipment.start - 1]? = some filler := by
          apply getElem?_sheet_of_not_covered scheme fields writable _ (by decide)
          intro other holds covered
          obtain ⟨otherToken, otherPresent⟩ := Option.isSome_iff_exists.mp holds
          have together := writable.together other .echelon holds (by rw [contains, present]; rfl)
          have isUnit : other = .unitEquipment := by
            revert covered together
            cases other <;> decide
          rw [isUnit, unit] at otherPresent
          cases otherPresent
        rw [slotTag, List.getD_eq_getElem?_getD, blank]
        decide

private theorem mem_axesRead_of_written (axis : Axis) (token : String)
    (present : fields.token? axis = some token) (notScheme : axis ≠ .scheme) :
    axis ∈ axesRead scheme (slotTag (sheet fields.cells)) := by
  have used := (writable.legal axis token present).1
  rw [mem_axesRead_iff]
  by_cases inSlot : axis.inSlot = true
  · exact .inr ⟨List.any_eq_true.mpr ⟨axis, List.contains_iff_mem.mp used, inSlot⟩,
      mem_slotAxes_of_written writable axis token present inSlot⟩
  · exact .inl ⟨used, notScheme, by simpa using inSlot⟩

private theorem blank_of_not_written (axis : Axis)
    (read : axis ∈ axesRead scheme (slotTag (sheet fields.cells)))
    (missing : fields.token? axis = none) :
    allFiller (axis.span.slice (sheet fields.cells)) = true := by
  rw [axis.allFiller_slice_iff _ (length_sheet fields.cells)]
  intro index covered
  apply getElem?_sheet_of_not_covered scheme fields writable index
    (axis.lt_codeLength_of_covers index covered)
  intro other holds
  obtain ⟨token, present⟩ := Option.isSome_iff_exists.mp holds
  have different : axis ≠ other := by
    intro same
    rw [same, present] at missing
    cases missing
  refine Axis.Apart.not_covers ?_ index covered
  rcases (mem_axesRead_iff scheme _ axis).mp read with ⟨used, _notScheme, outside⟩ | ⟨_, inSlot⟩
  · apply Axis.apart_of_uses scheme axis other used (writable.legal other token present).1 different
    intro impossible
    rw [outside] at impossible
    cases impossible
  · apply Axis.apart_of_inSlot axis other (inSlot_of_mem_slotAxes _ axis inSlot) different
    intro axisInSlot otherInSlot
    exact together_of_mem_slotAxes _ axis other inSlot
      (mem_slotAxes_of_written writable other token present otherInSlot) axisInSlot otherInSlot

private theorem found?_of_written (axis : Axis) (token : String)
    (present : fields.token? axis = some token) :
    found? scheme (sheet fields.cells) axis = some (Text.upper token) := by
  obtain ⟨used, legal⟩ := writable.legal axis token present
  rw [found?_eq_some_iff, slice_sheet scheme fields writable axis token present,
    String.ofList_toList]
  exact ⟨(axis.fits_of_isLegal _ scheme legal).notFiller, used, legal, rfl⟩

theorem reads_sheet (named : fields.scheme? = some scheme) :
    Reads scheme (sheet fields.cells) fields.capitals := by
  constructor
  · exact length_sheet fields.cells
  · obtain ⟨token, present, isToken⟩ := token?_scheme_of_scheme? fields scheme named
    rw [slice_sheet scheme fields writable .scheme token present, String.ofList_toList,
      Scheme.ofToken?_upper, isToken]
  · intro axis read
    cases present : fields.token? axis with
    | none => simp [isRejected, blank_of_not_written writable axis read present]
    | some token =>
        obtain ⟨_solid, used, legal, same⟩ :=
          (found?_eq_some_iff _ _ _ _).mp (found?_of_written writable axis token present)
        simp [isRejected, used, same, legal]
  · intro axis
    rw [token?_capitals]
    by_cases isScheme : axis = .scheme
    · subst isScheme
      obtain ⟨token, present, isToken⟩ := token?_scheme_of_scheme? fields scheme named
      rw [if_pos rfl, present, Option.map_some, Scheme.upper_of_ofToken? token scheme isToken]
    · rw [if_neg isScheme]
      cases present : fields.token? axis with
      | none =>
          split
          next read => simp [found?, blank_of_not_written writable axis read present]
          next => rfl
      | some token =>
          rw [if_pos (mem_axesRead_of_written writable axis token present isScheme),
            found?_of_written writable axis token present]
          rfl

/-- The sheet of fields that can be written reads back as the fields in capitals. -/
theorem decode_sheet (named : fields.scheme? = some scheme) :
    decode (String.ofList (sheet fields.cells)) = .ok fields.capitals := by
  rw [decode_eq_ok_iff, String.toList_ofList, map_toUpper_sheet]
  exact ⟨scheme, reads_sheet writable named⟩

end Written

theorem decode_of_written (fields : CodeFields) (text : String)
    (written : fields.encode = .ok text) : decode text = .ok fields.capitals := by
  obtain ⟨scheme, named, writable, same⟩ := (encode_eq_ok_iff fields text).mp written
  rw [same]
  exact decode_sheet writable named

/-- Writing loses nothing: every code that is written has the full length, and reading it gives each
axis its own token in capitals and no other axis anything. -/
theorem decode_of_encode (fields : CodeFields) (text : String)
    (written : fields.encode = .ok text) :
    text.length = codeLength ∧ decode text = .ok fields.capitals := by
  constructor
  · obtain ⟨_scheme, _named, _writable, same⟩ := (encode_eq_ok_iff fields text).mp written
    rw [same, String.length_ofList, length_sheet]
  · exact decode_of_written fields text written

theorem decode_of_encode_smallLetters :
    let fields := ofList [(.scheme, "s"), (.battleDimension, "g"), (.functionId, "uci---"),
      (.unitEquipment, "b"), (.echelon, "d")]
    fields.encode = .ok "S-G-UCI---BD---" ∧
      "S-G-UCI---BD---".length = codeLength ∧
      decode "S-G-UCI---BD---" = .ok fields.capitals :=
  ⟨rfl, decode_of_encode _ _ rfl⟩

/-! ### Writing what was read -/

section Read

variable {scheme : Scheme} {characters : List Char} {fields : CodeFields}
  (reads : Reads scheme characters fields)

include reads

theorem token?_scheme_of_reads : fields.token? .scheme = some scheme.token := by
  rw [reads.tokens, if_pos rfl]

theorem scheme?_of_reads : fields.scheme? = some scheme := by
  unfold scheme?
  rw [token?_scheme_of_reads reads]
  exact scheme.ofToken?_token

private theorem found?_of_reads (axis : Axis) (token : String) (notScheme : axis ≠ .scheme)
    (present : fields.token? axis = some token) :
    axis ∈ axesRead scheme (slotTag characters) ∧ found? scheme characters axis = some token := by
  rw [reads.tokens, if_neg notScheme] at present
  split at present
  next read => exact ⟨read, present⟩
  next => cases present

private theorem mem_slotAxes_of_reads (axis : Axis) (holds : fields.contains axis = true)
    (inSlot : axis.inSlot = true) : axis ∈ slotAxes (slotTag characters) := by
  obtain ⟨token, present⟩ := Option.isSome_iff_exists.mp holds
  have notScheme : axis ≠ .scheme := by
    intro same
    subst same
    cases inSlot
  have read := (found?_of_reads reads axis token notScheme present).1
  rcases (mem_axesRead_iff scheme _ axis).mp read with ⟨_used, _notScheme, outside⟩ | ⟨_, member⟩
  · rw [outside] at inSlot
    cases inSlot
  · exact member

theorem writable_of_reads : Writable scheme fields := by
  constructor
  · intro axis token present
    by_cases isScheme : axis = .scheme
    · subst isScheme
      rw [token?_scheme_of_reads reads] at present
      cases present
      rw [Scheme.upper_token]
      cases scheme <;> decide
    · have found := (found?_of_reads reads axis token isScheme present).2
      obtain ⟨_solid, used, legal, _same⟩ := (found?_eq_some_iff _ _ _ _).mp found
      rw [(axis.fits_of_isLegal token scheme legal).capitals]
      exact ⟨used, legal⟩
  · intro left right holdsLeft holdsRight leftInSlot rightInSlot
    exact together_of_mem_slotAxes _ left right
      (mem_slotAxes_of_reads reads left holdsLeft leftInSlot)
      (mem_slotAxes_of_reads reads right holdsRight rightInSlot) leftInSlot rightInSlot

theorem capitals_of_reads : fields.capitals = fields := by
  rw [capitals_eq_self_iff]
  intro axis held present
  by_cases isScheme : axis = .scheme
  · subst isScheme
    rw [token?_scheme_of_reads reads] at present
    cases present
    exact scheme.upper_token
  · have found := (found?_of_reads reads axis held isScheme present).2
    obtain ⟨_solid, _used, legal, _same⟩ := (found?_eq_some_iff _ _ _ _).mp found
    exact (axis.fits_of_isLegal held scheme legal).capitals

private theorem slice_of_reads (capital : characters.map Char.toUpper = characters) (axis : Axis)
    (token : String) (present : fields.token? axis = some token) :
    axis.span.slice characters = token.toList := by
  by_cases isScheme : axis = .scheme
  · subst isScheme
    rw [token?_scheme_of_reads reads] at present
    cases present
    have same := Scheme.upper_of_ofToken? _ scheme reads.named
    rw [← String.toList_inj, Text.upper_toList, String.toList_ofList, Span.map_slice, capital]
      at same
    exact same
  · have found := (found?_of_reads reads axis token isScheme present).2
    obtain ⟨_solid, _used, _legal, same⟩ := (found?_eq_some_iff _ _ _ _).mp found
    rw [← same, String.toList_ofList]

private theorem blank_of_axisRead (axis : Axis)
    (read : axis ∈ axesRead scheme (slotTag characters)) (missing : fields.contains axis ≠ true)
    (index : Nat) (covers : axis.span.Covers index) : characters[index]? = some filler := by
  have notScheme : axis ≠ .scheme := by
    intro same
    subst same
    exact scheme_not_mem_axesRead scheme _ read
  have nothing : found? scheme characters axis = none := by
    rw [contains, reads.tokens, if_neg notScheme, if_pos read] at missing
    exact Option.not_isSome_iff_eq_none.mp missing
  have blank := allFiller_of_found?_eq_none scheme characters axis (reads.accepted axis read) nothing
  exact (axis.allFiller_slice_iff characters reads.full).mp blank index covers

private theorem blank_of_reads (index : Nat) (covered : scheme.Covers index)
    (free : ∀ axis, fields.contains axis = true → ¬ axis.span.Covers index) :
    characters[index]? = some filler := by
  obtain ⟨axis, placed, covers⟩ := covered
  by_cases inSlot : axis.inSlot = true
  · obtain ⟨read, member, readCovers⟩ :=
      exists_mem_slotAxes_covers (slotTag characters) axis inSlot index covers
    have isRead : read ∈ axesRead scheme (slotTag characters) :=
      (mem_axesRead_iff scheme _ read).mpr
        (.inr ⟨List.any_eq_true.mpr ⟨axis, placed, inSlot⟩, member⟩)
    exact blank_of_axisRead reads read isRead (fun holds => free read holds readCovers) index
      readCovers
  · have notScheme : axis ≠ .scheme := by
      intro same
      subst same
      exact free .scheme (by rw [contains, token?_scheme_of_reads reads]; rfl) covers
    have isRead : axis ∈ axesRead scheme (slotTag characters) :=
      (mem_axesRead_iff scheme _ axis).mpr
        (.inl ⟨List.contains_iff_mem.mpr placed, notScheme, by simpa using inSlot⟩)
    exact blank_of_axisRead reads axis isRead (fun holds => free axis holds covers) index covers

theorem getElem?_sheet_of_reads (capital : characters.map Char.toUpper = characters) (index : Nat)
    (within : index < codeLength) :
    (sheet fields.cells)[index]? =
      if scheme.Covers index then characters[index]? else some filler := by
  have writable := writable_of_reads reads
  by_cases taken : ∃ axis, fields.contains axis = true ∧ axis.span.Covers index
  · obtain ⟨axis, holds, covers⟩ := taken
    obtain ⟨token, present⟩ := Option.isSome_iff_exists.mp holds
    obtain ⟨offset, inside, same⟩ := (axis.covers_iff_offset index).mp covers
    obtain ⟨used, legal⟩ := writable.legal axis token present
    rw [if_pos ⟨axis, List.contains_iff_mem.mp used, covers⟩, same,
      ← axis.getElem?_slice _ offset inside, ← axis.getElem?_slice _ offset inside,
      slice_sheet scheme fields writable axis token present,
      slice_of_reads reads capital axis token present,
      (capitals_eq_self_iff fields).mp (capitals_of_reads reads) axis token present]
  · have free : ∀ axis, fields.contains axis = true → ¬ axis.span.Covers index :=
      fun axis holds covers => taken ⟨axis, holds, covers⟩
    rw [getElem?_sheet_of_not_covered scheme fields writable index within free]
    split
    next covered => exact (blank_of_reads reads index covered free).symm
    next => rfl

end Read

theorem capitals_of_decode (text : String) (fields : CodeFields)
    (readable : decode text = .ok fields) : fields.capitals = fields := by
  obtain ⟨_scheme, reads⟩ := (decode_eq_ok_iff text fields).mp readable
  exact capitals_of_reads reads

/-- A code that can be read can be written: the result keeps, in capitals, what stands where its
scheme has an axis and is blank elsewhere, and it is read and written as itself. -/
theorem encode_of_decode (text : String) (fields : CodeFields)
    (readable : decode text = .ok fields) :
    ∃ scheme code,
      Scheme.ofToken? (String.ofList (Axis.scheme.span.slice text.toList)) = some scheme ∧
        fields.encode = .ok code ∧ code.length = codeLength ∧
        (∀ index, index < codeLength → code.toList[index]? =
          if scheme.Covers index then (Text.upper text).toList[index]? else some filler) ∧
        decode code = .ok fields ∧ ∀ again, decode code = .ok again → again.encode = .ok code := by
  obtain ⟨scheme, reads⟩ := (decode_eq_ok_iff text fields).mp readable
  rw [← Text.upper_toList] at reads
  have capital : (Text.upper text).toList.map Char.toUpper = (Text.upper text).toList := by
    rw [← Text.upper_toList, Text.upper_upper]
  have written : fields.encode = .ok (String.ofList (sheet fields.cells)) :=
    (encode_eq_ok_iff fields _).mpr
      ⟨scheme, scheme?_of_reads reads, writable_of_reads reads, rfl⟩
  have readBack : decode (String.ofList (sheet fields.cells)) = .ok fields := by
    rw [decode_sheet (writable_of_reads reads) (scheme?_of_reads reads), capitals_of_reads reads]
  refine ⟨scheme, _, ?_, written, ?_, ?_, readBack, ?_⟩
  · rw [← Scheme.ofToken?_upper, Text.upper, String.toList_ofList, Span.map_slice,
      ← Text.upper_toList]
    exact reads.named
  · rw [String.length_ofList, length_sheet]
  · intro index within
    rw [String.toList_ofList]
    exact getElem?_sheet_of_reads reads capital index within
  · intro again readAgain
    rw [readBack] at readAgain
    cases readAgain
    exact written

theorem encode_of_decode_unusedPlace :
    ∃ fields, decode "ghgpglp----ausx" = .ok fields ∧ fields.encode = .ok "GHGPGLP-----USX" ∧
      decode "GHGPGLP-----USX" = .ok fields := by
  refine ⟨_, rfl, rfl, ?_⟩
  obtain ⟨scheme, code, _named, written, _full, _characters, readBack, _again⟩ :=
    encode_of_decode "ghgpglp----ausx" _ rfl
  have same : code = "GHGPGLP-----USX" := (Except.ok.inj written).symm
  rw [← same]
  exact readBack

end TacticalSymbols.CodeFields

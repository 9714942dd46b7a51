import TacticalSymbols.Proofs.Code.Sheet

/-!
The places that reading and writing touch. A reading that asks for each character whether it is there,
and gives up where it is not, never gives up and finds the same. Writing puts every character at a
place of its own axis, so inside the code, and no two at one place, whether or not it fails later.
-/

namespace TacticalSymbols

/-! ### Reading with a check of every place -/

def Span.Within (span : Span) (count : Nat) : Prop :=
  1 ≤ span.first ∧ span.first ≤ span.last ∧ span.last ≤ count

instance (span : Span) (count : Nat) : Decidable (span.Within count) :=
  inferInstanceAs (Decidable (_ ∧ _))

def Span.slice? (span : Span) (characters : List Char) : Option (List Char) :=
  if span.Within characters.length then some (span.slice characters) else none

namespace CodeFields

def Reading.nextChecked? (scheme : Scheme) (characters : List Char) (reading : Reading)
    (axis : Axis) : Option Reading := do
  let token ← axis.span.slice? characters
  return reading.accept scheme axis token

/-- Asks for the tag of the slot under every scheme, also where the slot is not read. -/
def readFieldsChecked? (scheme : Scheme) (characters : List Char) : Option Reading := do
  let tag ← characters[Axis.unitEquipment.start - 1]?
  (axesRead scheme tag).foldlM (Reading.nextChecked? scheme characters)
    { valid := ofScheme scheme, violations := [] }

def ofCapitalsChecked? (characters : List Char) : Option (Except ReadError CodeFields) :=
  if characters.length != codeLength then some (.error (.wrongLength characters.length))
  else do
    let token ← Axis.scheme.span.slice? characters
    match Scheme.ofToken? (String.ofList token) with
    | none => return .error (.unknownScheme (String.ofList token))
    | some scheme =>
        let reading ← readFieldsChecked? scheme characters
        if reading.violations.isEmpty then return .ok reading.valid
        else return .error (.invalidFields reading.violations reading.valid)

/-- Decodes as `decode` does, but gives nothing once a character is asked for that is not there. -/
def decodeChecked? (text : String) : Option (Except ReadError CodeFields) :=
  ofCapitalsChecked? (text.toList.map Char.toUpper)

section Full

variable (characters : List Char) (full : characters.length = codeLength)

include full

private theorem slice?_of_full (axis : Axis) :
    axis.span.slice? characters = some (axis.span.slice characters) := by
  unfold Span.slice?
  rw [full]
  exact if_pos axis.span_inside

private theorem getElem?_slotTag :
    characters[Axis.unitEquipment.start - 1]? = some (slotTag characters) := by
  have within : Axis.unitEquipment.start - 1 < characters.length := by
    rw [full]
    decide
  unfold slotTag
  rw [List.getD_eq_getElem?_getD, List.getElem?_eq_getElem within, Option.getD_some]

private theorem readFieldsChecked?_eq (scheme : Scheme) :
    readFieldsChecked? scheme characters = some (readFields scheme characters) := by
  have steps : Reading.nextChecked? scheme characters =
      fun reading axis => pure (reading.next scheme characters axis) := by
    funext reading axis
    unfold Reading.nextChecked?
    rw [slice?_of_full characters full axis]
    rfl
  unfold readFieldsChecked? readFields
  rw [getElem?_slotTag characters full, steps]
  exact List.foldlM_pure

end Full

private theorem ofCapitalsChecked?_eq (characters : List Char) :
    ofCapitalsChecked? characters = some (ofCapitals characters) := by
  unfold ofCapitalsChecked? ofCapitals
  by_cases full : characters.length = codeLength
  · rw [if_neg (by simp [full]), if_neg (by simp [full]), slice?_of_full characters full]
    dsimp only [Option.bind_eq_bind, Option.bind_some]
    cases Scheme.ofToken? (String.ofList (Axis.scheme.span.slice characters)) with
    | none => rfl
    | some scheme =>
        dsimp only
        rw [readFieldsChecked?_eq characters full scheme, Option.bind_some]
        split <;> rfl
  · rw [if_pos (by simpa using full), if_pos (by simpa using full)]

/-! ### Places that are written -/

theorem exists_written_prefix (scheme : Scheme) (fields : CodeFields) :
    ∃ written, written <+: fields.toList ∧ Admitted scheme written ∧
      (write scheme fields).cells = written.flatMap itemCells := by
  generalize items : fields.toList = listed, done : write scheme fields = writing
  have ends := write_ends scheme fields
  rw [items, done] at ends
  cases ends with
  | complete _ admitted => exact ⟨listed, List.prefix_rfl, admitted, rfl⟩
  | stopped before item after failure admitted _error =>
      exact ⟨before, List.prefix_append before (item :: after), admitted, rfl⟩

/-- Every character that reading asks for is there, whatever is read, and whichever axis is cut out of a
code lies in it as a whole. Every character that writing puts down lies at a place of the axis whose
token it belongs to, and so inside the code, and no place is written twice, even if the writing
fails. -/
theorem accesses_inside :
    (∀ text, decodeChecked? text = some (decode text)) ∧
      (∀ axis : Axis, axis.span.Within codeLength) ∧
      ∀ scheme fields, ∃ written, written <+: fields.toList ∧
        (write scheme fields).cells = written.flatMap itemCells ∧
        (∀ item ∈ written, ∀ cell ∈ itemCells item,
          item.1.span.Covers cell.index ∧ cell.index < codeLength) ∧
        (write scheme fields).cells.Pairwise (fun left right => left.index ≠ right.index) := by
  refine ⟨fun text => ofCapitalsChecked?_eq _, Axis.span_inside, fun scheme fields => ?_⟩
  obtain ⟨written, isPrefix, admitted, put⟩ := exists_written_prefix scheme fields
  refine ⟨written, isPrefix, put, ?_, ?_⟩
  · intro item listed cell ofItem
    have legal := (legal_of_admitted scheme written admitted item listed).2
    have covered := covers_of_mem_itemCells scheme item legal cell ofItem
    exact ⟨covered, item.1.lt_codeLength_of_covers cell.index covered⟩
  · rw [put]
    exact pairwise_cells_of_admitted scheme written admitted
      ((pairwise_toList fields).sublist isPrefix.sublist)

/-- A function id of six bytes that are three characters ends the writing, and neither it nor the long
country behind it is put down. What was put down before it lies where it belongs. -/
theorem accesses_inside_shortFunctionId :
    let fields := ofList [(.scheme, "s"), (.standardIdentity, "f"), (.functionId, "ééé"),
      (.country, "usa")]
    (write .warfighting fields).failure? = some (.invalidToken .functionId "ééé" 5) ∧
      (∃ item ∈ fields.toList, ⟨1, 'F'⟩ ∈ itemCells item ∧ item.1.span.Covers 1 ∧ 1 < codeLength) ∧
      (write .warfighting fields).cells.Pairwise (fun left right => left.index ≠ right.index) := by
  intro fields
  obtain ⟨_read, _within, written⟩ := accesses_inside
  obtain ⟨items, isPrefix, put, inside, once⟩ := written .warfighting fields
  have standing : ⟨1, 'F'⟩ ∈ (write .warfighting fields).cells := by decide
  rw [put] at standing
  obtain ⟨item, listed, ofItem⟩ := List.mem_flatMap.mp standing
  exact ⟨rfl, ⟨item, isPrefix.subset listed, ofItem, inside item listed _ ofItem⟩, once⟩

end CodeFields

end TacticalSymbols

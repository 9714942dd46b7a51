import TacticalSymbols.Proofs.Code.Locality
import TacticalSymbols.Proofs.Code.RoundTrip

/-!
The codes that can be read, described by what is written in them. A code is read exactly if some
legal tokens, each written at its own axis, give its characters wherever the scheme has an axis; no
other tokens give them, and these are what is read.
-/

namespace TacticalSymbols.CodeFields

/-! ### Codes that fields fill -/

/-- The characters of a code on which each token is written at its axis, as it stands. -/
def page (fields : CodeFields) : List Char :=
  sheet (fields.toList.flatMap (fun item => cellsOf item.1 item.2))

/-- Legal tokens for a code of the scheme: nothing is said about how they are found in it. -/
structure Fills (scheme : Scheme) (characters : List Char) (fields : CodeFields) : Prop where
  named : fields.token? .scheme = some scheme.token
  legal : ∀ axis token, fields.token? axis = some token →
    scheme.uses axis = true ∧ isLegal axis token scheme = true
  /-- The slot is used in one way at most. -/
  together : ∀ left right, fields.contains left = true → fields.contains right = true →
    left.Together right
  written : scheme.Alike fields.page characters

def schemeToken (text : String) : String :=
  Text.upper (String.ofList (text.toList.take 1))

private theorem page_eq_sheet (fields : CodeFields) (capitals : fields.capitals = fields) :
    fields.page = sheet fields.cells := by
  have held : ∀ item ∈ fields.toList, cellsOf item.1 item.2 = itemCells item := by
    intro item member
    have present := (mem_toList fields item.1 item.2).mp member
    rw [itemCells, (capitals_eq_self_iff fields).mp capitals item.1 item.2 present]
  unfold page cells
  rw [List.flatMap_congr held]

section Fills

variable {scheme : Scheme} {characters : List Char} {fields : CodeFields}

private theorem Fills.writable (fills : Fills scheme characters fields) :
    Writable scheme fields := by
  refine ⟨fun axis token present => ?_, fills.together⟩
  obtain ⟨used, legal⟩ := fills.legal axis token present
  rw [(axis.fits_of_isLegal token scheme legal).capitals]
  exact ⟨used, legal⟩

private theorem Fills.capitals_eq (fills : Fills scheme characters fields) :
    fields.capitals = fields := by
  rw [capitals_eq_self_iff]
  intro axis token present
  exact (axis.fits_of_isLegal token scheme (fills.legal axis token present).2).capitals

private theorem Fills.scheme?_eq (fills : Fills scheme characters fields) :
    fields.scheme? = some scheme := by
  unfold scheme?
  rw [fills.named]
  exact scheme.ofToken?_token

/-- Fields that fill a code are read from it: their own page is read as them, and is read alike. -/
theorem Fills.ofCapitals_eq (fills : Fills scheme characters fields)
    (full : characters.length = codeLength) : ofCapitals characters = .ok fields := by
  have page := page_eq_sheet fields fills.capitals_eq
  have alike : scheme.Alike (sheet fields.cells) characters := page ▸ fills.written
  have reads := reads_sheet fills.writable fills.scheme?_eq
  rw [← ofCapitals_eq_of_alike alike reads.full full reads.named, ofCapitals_eq_ok_iff]
  rw [fills.capitals_eq] at reads
  exact ⟨scheme, reads⟩

private theorem fills_of_reads (reads : Reads scheme characters fields)
    (capital : characters.map Char.toUpper = characters) : Fills scheme characters fields := by
  have writable := writable_of_reads reads
  have capitals := capitals_of_reads reads
  refine ⟨token?_scheme_of_reads reads, fun axis token present => ?_, writable.together, ?_⟩
  · rw [← (capitals_eq_self_iff fields).mp capitals axis token present]
    exact writable.legal axis token present
  · intro index covered
    have within : index < codeLength := by
      obtain ⟨axis, _placed, covers⟩ := covered
      exact axis.lt_codeLength_of_covers index covers
    rw [page_eq_sheet fields capitals, getElem?_sheet_of_reads reads capital index within,
      if_pos covered]

end Fills

/-! ### Outcomes -/

theorem schemeToken_eq (text : String) :
    schemeToken text =
      String.ofList (Axis.scheme.span.slice (text.toList.map Char.toUpper)) := by
  unfold schemeToken Text.upper
  rw [String.toList_ofList, ← Span.map_slice]
  rfl

theorem ofToken?_schemeToken_iff (text : String) (scheme : Scheme) :
    Scheme.ofToken? (schemeToken text) = some scheme ↔ scheme.token = schemeToken text := by
  rw [Scheme.ofToken?_eq_some_iff, Text.sameLetters_iff, scheme.upper_token, schemeToken,
    Text.upper_upper]

theorem decode_of_wrongLength (text : String) (wrong : text.length ≠ codeLength) :
    decode text = .error (.wrongLength text.length) := by
  unfold decode ofCapitals
  rw [List.length_map, String.length_toList, if_pos (by simpa using wrong)]

section Full

variable (text : String) (full : text.length = codeLength)

include full

theorem decode_of_unknownScheme (unknown : Scheme.ofToken? (schemeToken text) = none) :
    decode text = .error (.unknownScheme (schemeToken text)) := by
  rw [schemeToken_eq] at unknown ⊢
  unfold decode ofCapitals
  rw [List.length_map, String.length_toList, if_neg (by simpa using full)]
  simp only [unknown]

theorem decode_of_scheme (scheme : Scheme) (named : scheme.token = schemeToken text) :
    decode text =
      if (readFields scheme (text.toList.map Char.toUpper)).violations.isEmpty then
        .ok (readFields scheme (text.toList.map Char.toUpper)).valid
      else
        .error (.invalidFields (readFields scheme (text.toList.map Char.toUpper)).violations
          (readFields scheme (text.toList.map Char.toUpper)).valid) := by
  rw [← ofToken?_schemeToken_iff, schemeToken_eq] at named
  unfold decode ofCapitals
  rw [List.length_map, String.length_toList, if_neg (by simpa using full)]
  simp only [named]

private theorem decode_eq_ok_iff_fills (scheme : Scheme) (named : scheme.token = schemeToken text)
    (fields : CodeFields) :
    decode text = .ok fields ↔ Fills scheme (Text.upper text).toList fields := by
  rw [Text.upper_toList]
  constructor
  · intro read
    obtain ⟨other, reads⟩ := (decode_eq_ok_iff text fields).mp read
    have sameScheme : other = scheme := by
      have otherNamed := reads.named
      rw [← schemeToken_eq, (ofToken?_schemeToken_iff text scheme).mpr named] at otherNamed
      exact (Option.some.inj otherNamed).symm
    subst sameScheme
    apply fills_of_reads reads
    rw [← Text.upper_toList, ← Text.upper_toList, Text.upper_upper]
  · intro fills
    exact fills.ofCapitals_eq (by rw [List.length_map, String.length_toList, full])

theorem decode_eq_invalidFields_iff (scheme : Scheme) (named : scheme.token = schemeToken text) :
    (∃ violations valid, decode text = .error (.invalidFields violations valid)) ↔
      ∀ fields, decode text ≠ .ok fields := by
  rw [decode_of_scheme text full scheme named]
  by_cases clean :
      (readFields scheme (text.toList.map Char.toUpper)).violations.isEmpty = true
  · simp [clean]
  · simp [clean]

end Full

theorem decode_eq_wrongLength_iff (text : String) (count : Nat) :
    decode text = .error (.wrongLength count) ↔ text.length = count ∧ count ≠ codeLength := by
  by_cases full : text.length = codeLength
  · have otherwise : decode text ≠ .error (.wrongLength count) := by
      cases named : Scheme.ofToken? (schemeToken text) with
      | none => simp [decode_of_unknownScheme text full named]
      | some scheme =>
          rw [decode_of_scheme text full scheme ((ofToken?_schemeToken_iff text scheme).mp named)]
          split <;> simp
    constructor
    · intro impossible
      exact absurd impossible otherwise
    · intro counted
      exact absurd (counted.1.symm.trans full) counted.2
  · rw [decode_of_wrongLength text full, Except.error.injEq, ReadError.wrongLength.injEq]
    constructor
    · intro counted
      rw [← counted]
      exact ⟨rfl, full⟩
    · intro counted
      exact counted.1

theorem decode_eq_unknownScheme_iff (text : String) (full : text.length = codeLength)
    (token : String) :
    decode text = .error (.unknownScheme token) ↔
      token = schemeToken text ∧ ∀ scheme : Scheme, scheme.token ≠ token := by
  cases named : Scheme.ofToken? (schemeToken text) with
  | none =>
      have unknown : ∀ scheme : Scheme, scheme.token ≠ schemeToken text := by
        intro scheme same
        rw [(ofToken?_schemeToken_iff text scheme).mpr same] at named
        cases named
      rw [decode_of_unknownScheme text full named, Except.error.injEq,
        ReadError.unknownScheme.injEq]
      constructor
      · intro same
        rw [← same]
        exact ⟨rfl, unknown⟩
      · intro same
        exact same.1.symm
  | some scheme =>
      have isNamed := (ofToken?_schemeToken_iff text scheme).mp named
      constructor
      · intro impossible
        rw [decode_of_scheme text full scheme isNamed] at impossible
        split at impossible <;> cases impossible
      · intro unknown
        exact absurd (isNamed.trans unknown.1.symm) (unknown.2 scheme)

/-- Reading a text has one of four outcomes, and each is told by the text alone. The length is asked
for first, then the scheme. Of a scheme that there is, the code is read as the legal tokens that fill
it, of which there is one choice at most, and it is invalid if there is none. -/
theorem decode_outcomes (text : String) :
    (∀ count, decode text = .error (.wrongLength count) ↔
        text.length = count ∧ count ≠ codeLength) ∧
      (text.length = codeLength →
        (∀ token, decode text = .error (.unknownScheme token) ↔
            token = schemeToken text ∧ ∀ scheme : Scheme, scheme.token ≠ token) ∧
          ∀ scheme : Scheme, scheme.token = schemeToken text →
            (∀ fields, decode text = .ok fields ↔ Fills scheme (Text.upper text).toList fields) ∧
              (∀ left right, Fills scheme (Text.upper text).toList left →
                Fills scheme (Text.upper text).toList right → left = right) ∧
              ((∃ violations valid, decode text = .error (.invalidFields violations valid)) ↔
                ∀ fields, ¬ Fills scheme (Text.upper text).toList fields)) := by
  refine ⟨decode_eq_wrongLength_iff text, fun full => ⟨decode_eq_unknownScheme_iff text full, ?_⟩⟩
  intro scheme named
  have readsFills := decode_eq_ok_iff_fills text full scheme named
  refine ⟨readsFills, ?_, ?_⟩
  · intro left right leftFills rightFills
    have readLeft := (readsFills left).mpr leftFills
    have readRight := (readsFills right).mpr rightFills
    exact Except.ok.inj (readLeft.symm.trans readRight)
  · rw [decode_eq_invalidFields_iff text full scheme named]
    exact forall_congr' (fun fields => not_congr (readsFills fields))

/-- An installation fills the slot of a warfighting code; an auxiliary equipment, which emergency
management does not have, leaves its code without any fields that fill it. -/
theorem decode_outcomes_slotTags :
    (∃ fields, Fills .warfighting (Text.upper "sfgpir----hbus-").toList fields ∧
        fields.token? .installation = some Installation.feintDummy) ∧
      ∀ fields, ¬ Fills .emergencyManagement (Text.upper "EFIPA-----NS---").toList fields := by
  have installed := ((decode_outcomes "sfgpir----hbus-").2 rfl).2 .warfighting rfl
  have foreign := ((decode_outcomes "EFIPA-----NS---").2 rfl).2 .emergencyManagement rfl
  exact ⟨⟨_, (installed.1 _).mp rfl, rfl⟩, foreign.2.2.mp ⟨_, _, rfl⟩⟩

end TacticalSymbols.CodeFields

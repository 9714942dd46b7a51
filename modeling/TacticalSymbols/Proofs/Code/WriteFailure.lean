import TacticalSymbols.Proofs.Code.Sheet

/-!
Why writing fails. The writing of fields ends at the first of them that cannot be written behind those
before it: the scheme does not use its axis, or its token is not legal, or the slot is in another use.
In terms of the fields as a whole this is the first axis, in axis order, whose field is at fault.
-/

namespace TacticalSymbols

/-! ### Axis order -/

def Axis.Before (left right : Axis) : Prop :=
  [left, right].Sublist all

instance (left right : Axis) : Decidable (left.Before right) :=
  inferInstanceAs (Decidable (List.Sublist _ _))

private theorem not_before_swapped : ∀ left ∈ Axis.all, ∀ right ∈ Axis.all,
    left.Before right → ¬ right.Before left := by
  decide

theorem Axis.Before.asymm {left right : Axis} (before : left.Before right) :
    ¬ right.Before left :=
  not_before_swapped left (Axis.mem_all left) right (Axis.mem_all right) before

namespace CodeFields

section Split

variable {fields : CodeFields} {before after : List (Axis × String)} {item : Axis × String}
  (split : fields.toList = before ++ item :: after)

include split

theorem before_of_split (earlier : Axis) (member : earlier ∈ before.map Prod.fst) :
    earlier.Before item.1 := by
  have listed := fields.sublist_map_toList
  rw [split, List.map_append, List.map_cons] at listed
  have first : [earlier].Sublist (before.map Prod.fst) := List.singleton_sublist.mpr member
  have rest : [item.1].Sublist (item.1 :: after.map Prod.fst) :=
    List.singleton_sublist.mpr List.mem_cons_self
  exact (first.append rest).trans listed

/-- A field is listed before another if its axis comes before, since no axis does so both ways. -/
private theorem mem_before_of_split (earlier : Axis) (held : String)
    (present : fields.token? earlier = some held) (ordered : earlier.Before item.1) :
    (earlier, held) ∈ before := by
  have listed := (mem_toList fields earlier held).mpr present
  rw [split] at listed
  rcases List.mem_append.mp listed with isBefore | isBehind
  · exact isBefore
  · exfalso
    rcases List.mem_cons.mp isBehind with isItem | isAfter
    · rw [← isItem] at ordered
      exact ordered.asymm ordered
    · obtain ⟨between, rest, afterSplit⟩ := List.append_of_mem isAfter
      have whole : fields.toList = (before ++ item :: between) ++ (earlier, held) :: rest := by
        rw [split, afterSplit, List.append_assoc, List.cons_append]
      have later : item.1.Before earlier :=
        before_of_split whole item.1
          (List.mem_map_of_mem (List.mem_append_right before List.mem_cons_self))
      exact ordered.asymm later

end Split

/-! ### One field behind others -/

/-- Why a field cannot be written behind others. Only the first reason that there is counts; where the
slot is in another use, the first axis that they have there is named. -/
inductive Hinders (scheme : Scheme) (before : List (Axis × String)) (item : Axis × String) :
    WriteError → Prop where
  | unused (unused : scheme.uses item.1 = false) :
      Hinders scheme before item (.axisNotUsed item.1 scheme)
  | illegal (used : scheme.uses item.1 = true)
      (illegal : isLegal item.1 (Text.upper item.2) scheme = false) :
      Hinders scheme before item (.invalidToken item.1 (Text.upper item.2) item.1.start)
  | taken (holder : Axis) (used : scheme.uses item.1 = true)
      (legal : isLegal item.1 (Text.upper item.2) scheme = true)
      (held : holder? before = some holder) (inSlot : item.1.inSlot = true)
      (different : holder.slotUse? ≠ item.1.slotUse?) :
      Hinders scheme before item (.slotConflict holder item.1)

private theorem errorBehind?_eq_some_iff (scheme : Scheme) (before : List (Axis × String))
    (item : Axis × String) (failure : WriteError) :
    errorBehind? scheme before item = some failure ↔ Hinders scheme before item failure := by
  unfold errorBehind? fieldError?
  cases used : scheme.uses item.1 with
  | false =>
      rw [if_pos (by decide)]
      constructor
      · intro same
        cases same
        exact .unused used
      · intro hinders
        cases hinders with
        | unused _ => rfl
        | illegal isUsed _ => cases used.symm.trans isUsed
        | taken _ isUsed _ _ _ _ => cases used.symm.trans isUsed
  | true =>
      rw [if_neg (by decide)]
      cases legal : isLegal item.1 (Text.upper item.2) scheme with
      | false =>
          rw [if_pos (by simp)]
          constructor
          · intro same
            cases same
            exact .illegal used legal
          · intro hinders
            cases hinders with
            | unused notUsed => cases used.symm.trans notUsed
            | illegal _ _ => rfl
            | taken _ _ isLegal _ _ _ => cases legal.symm.trans isLegal
      | true =>
          -- What is legal has the width of its axis.
          have width := (item.1.fits_of_isLegal _ scheme legal).width
          rw [if_neg (by simp [width])]
          constructor
          · intro same
            cases held : holder? before with
            | none =>
                rw [held] at same
                cases same
            | some holder =>
                rw [held] at same
                dsimp only at same
                split at same
                next clash =>
                  cases same
                  rw [Bool.and_eq_true, bne_iff_ne] at clash
                  exact .taken holder used legal held clash.1 clash.2
                next => cases same
          · intro hinders
            cases hinders with
            | unused notUsed => cases used.symm.trans notUsed
            | illegal _ notLegal => cases legal.symm.trans notLegal
            | taken holder _ _ held inSlot different =>
                rw [held]
                dsimp only
                rw [if_pos (by simpa [inSlot] using different)]

/-! ### All fields -/

/-- The first of the items that cannot be written behind those before it is hindered so. -/
def Halts (scheme : Scheme) (items : List (Axis × String)) (failure : WriteError) : Prop :=
  ∃ before item after, items = before ++ item :: after ∧ Admitted scheme before ∧
    Hinders scheme before item failure

theorem Writing.Ends.failure?_eq_some_iff {scheme : Scheme} {items : List (Axis × String)}
    {writing : Writing} (ends : Ends scheme items writing) (failure : WriteError) :
    writing.failure? = some failure ↔ Halts scheme items failure := by
  constructor
  · intro failed
    cases ends with
    | complete items admitted => cases failed
    | stopped before item after reason admitted error =>
        cases failed
        exact ⟨before, item, after, rfl, admitted, (errorBehind?_eq_some_iff _ _ _ _).mp error⟩
  · intro halts
    obtain ⟨before, item, after, split, admitted, hinders⟩ := halts
    have error := (errorBehind?_eq_some_iff scheme before item failure).mpr hinders
    cases ends with
    | complete items all =>
        rw [all before item after split] at error
        cases error
    | stopped otherBefore otherItem otherAfter reason otherAdmitted otherError =>
        rcases List.append_eq_append_iff.mp split with
          ⟨between, isBefore, isRest⟩ | ⟨between, isOther, isRest⟩
        · cases between with
          | nil =>
              cases isRest
              rw [isBefore, List.append_nil, otherError] at error
              exact error
          | cons first between =>
              cases isRest
              rw [admitted otherBefore otherItem between isBefore] at otherError
              cases otherError
        · cases between with
          | nil =>
              cases isRest
              rw [isOther, List.append_nil, error] at otherError
              exact otherError.symm
          | cons first between =>
              cases isRest
              rw [otherAdmitted before item between isOther] at error
              cases error

theorem encode_eq_error_iff (fields : CodeFields) (scheme : Scheme)
    (named : fields.scheme? = some scheme) (failure : WriteError) :
    fields.encode = .error failure ↔ Halts scheme fields.toList failure := by
  rw [← (write_ends scheme fields).failure?_eq_some_iff]
  unfold encode
  rw [named]
  dsimp only
  cases (write scheme fields).failure? <;> simp

/-! ### Faulty fields -/

/-- What hinders a field behind those before it hinders it among all. No later field is the first in
the slot, unless it is the field itself, which does not hinder itself. -/
private theorem hinders_append_cons_iff (scheme : Scheme) (before after : List (Axis × String))
    (item : Axis × String) (failure : WriteError) :
    Hinders scheme (before ++ item :: after) item failure ↔
      Hinders scheme before item failure := by
  constructor
  · intro hinders
    cases hinders with
    | unused unused => exact .unused unused
    | illegal used illegal => exact .illegal used illegal
    | taken holder used legal held inSlot different =>
        rw [holder?_append_cons before after item inSlot] at held
        cases first : holder? before with
        | none =>
            rw [first] at held
            cases held
            exact absurd rfl different
        | some earlier =>
            rw [first] at held
            cases held
            exact .taken holder used legal first inSlot different
  · intro hinders
    cases hinders with
    | unused unused => exact .unused unused
    | illegal used illegal => exact .illegal used illegal
    | taken holder used legal held inSlot different =>
        refine .taken holder used legal ?_ inSlot different
        rw [holder?_append_cons before after item inSlot, held]
        rfl

/-- What is wrong with the field on an axis: the scheme does not use the axis, or else its token is not
legal, or else the first axis in the slot that has a token puts the slot to another use. -/
def Faulty (scheme : Scheme) (fields : CodeFields) (axis : Axis) (failure : WriteError) : Prop :=
  ∃ token, fields.token? axis = some token ∧ Hinders scheme fields.toList (axis, token) failure

private theorem admitted_iff_not_faulty (scheme : Scheme) {fields : CodeFields}
    {before after : List (Axis × String)} {item : Axis × String}
    (split : fields.toList = before ++ item :: after) :
    Admitted scheme before ↔
      ∀ earlier : Axis, earlier.Before item.1 → ∀ reason, ¬ Faulty scheme fields earlier reason := by
  constructor
  · intro admitted earlier ordered reason faulty
    obtain ⟨held, present, hinders⟩ := faulty
    obtain ⟨front, between, beforeSplit⟩ :=
      List.append_of_mem (mem_before_of_split split earlier held present ordered)
    rw [split, beforeSplit, List.append_assoc, List.cons_append, hinders_append_cons_iff,
      ← errorBehind?_eq_some_iff, admitted front (earlier, held) between beforeSplit] at hinders
    cases hinders
  · intro sound front earlier between beforeSplit
    cases error : errorBehind? scheme front earlier with
    | none => rfl
    | some reason =>
        have listed : earlier ∈ before := by
          rw [beforeSplit]
          exact List.mem_append_right front List.mem_cons_self
        have ordered := before_of_split split earlier.1 (List.mem_map_of_mem listed)
        have whole : fields.toList = front ++ earlier :: (between ++ item :: after) := by
          rw [split, beforeSplit, List.append_assoc, List.cons_append]
        refine absurd ⟨earlier.2, ?_, ?_⟩ (sound earlier.1 ordered reason)
        · rw [← mem_toList, whole]
          exact List.mem_append_right front List.mem_cons_self
        · rw [whole, hinders_append_cons_iff, ← errorBehind?_eq_some_iff]
          exact error

private theorem halts_iff_first_faulty (scheme : Scheme) (fields : CodeFields)
    (failure : WriteError) : Halts scheme fields.toList failure ↔
      ∃ axis, Faulty scheme fields axis failure ∧
        ∀ earlier : Axis, earlier.Before axis → ∀ reason, ¬ Faulty scheme fields earlier reason := by
  constructor
  · intro halts
    obtain ⟨before, item, after, split, admitted, hinders⟩ := halts
    refine ⟨item.1, ⟨item.2, ?_, ?_⟩, (admitted_iff_not_faulty scheme split).mp admitted⟩
    · rw [← mem_toList, split]
      exact List.mem_append_right before List.mem_cons_self
    · rw [split, hinders_append_cons_iff]
      exact hinders
  · intro first
    obtain ⟨axis, ⟨token, present, hinders⟩, sound⟩ := first
    obtain ⟨before, after, split⟩ :=
      List.append_of_mem ((mem_toList fields axis token).mpr present)
    rw [split, hinders_append_cons_iff] at hinders
    exact ⟨before, (axis, token), after, split, (admitted_iff_not_faulty scheme split).mpr sound,
      hinders⟩

/-! ### Outcomes -/

/-- Whether the scheme token is that of the scheme, in either letter case. -/
def NamesScheme (fields : CodeFields) (scheme : Scheme) : Prop :=
  ∃ token, fields.token? .scheme = some token ∧ Text.sameLetters scheme.token token = true

private theorem scheme?_eq_some_iff (fields : CodeFields) (scheme : Scheme) :
    fields.scheme? = some scheme ↔ fields.NamesScheme scheme := by
  unfold scheme? NamesScheme
  rw [Option.bind_eq_some_iff]
  simp only [Scheme.ofToken?_eq_some_iff]

theorem encode_eq_missingScheme_iff (fields : CodeFields) :
    fields.encode = .error .missingScheme ↔ ∀ scheme, ¬ fields.NamesScheme scheme := by
  cases named : fields.scheme? with
  | none =>
      have nameless : ∀ scheme, ¬ fields.NamesScheme scheme := by
        intro scheme names
        rw [(fields.scheme?_eq_some_iff scheme).mpr names] at named
        cases named
      have missing : fields.encode = .error .missingScheme := by
        unfold encode
        rw [named]
      exact ⟨fun _ => nameless, fun _ => missing⟩
  | some scheme =>
      constructor
      · intro missing
        obtain ⟨_, _, _, _, _, hinders⟩ := (encode_eq_error_iff fields scheme named _).mp missing
        cases hinders
      · intro nameless
        exact absurd ((fields.scheme?_eq_some_iff scheme).mp named) (nameless scheme)

private theorem together_iff_exists_use (fields : CodeFields) :
    (∀ left right, fields.contains left = true → fields.contains right = true →
        left.Together right) ↔
      ∃ use, ∀ axis, fields.contains axis = true → axis.inSlot = true →
        axis.slotUse? = some use := by
  constructor
  · intro together
    by_cases taken : ∃ axis, fields.contains axis = true ∧ axis.inSlot = true
    · obtain ⟨holder, holds, inSlot⟩ := taken
      obtain ⟨use, ofHolder⟩ := Option.isSome_iff_exists.mp inSlot
      refine ⟨use, fun axis held axisInSlot => ?_⟩
      rw [together axis holder held holds axisInSlot inSlot, ofHolder]
    · exact ⟨.unitAndEchelon, fun axis holds inSlot => absurd ⟨axis, holds, inSlot⟩ taken⟩
  · intro oneUse left right holdsLeft holdsRight leftInSlot rightInSlot
    obtain ⟨use, uses⟩ := oneUse
    rw [uses left holdsLeft leftInSlot, uses right holdsRight rightInSlot]

/-- Writing fields has three outcomes. Without the token of a scheme nothing is written. Of a scheme
that there is, the fields can be written exactly if the scheme uses all their axes, all tokens are legal
in capitals, and the slot is put to one use; otherwise the failure is what is wrong with the first axis,
in axis order, whose field is at fault. What is legal is never too short or too long. -/
theorem encode_outcomes (fields : CodeFields) :
    (fields.encode = .error .missingScheme ↔ ∀ scheme, ¬ fields.NamesScheme scheme) ∧
      ∀ scheme, fields.NamesScheme scheme →
        ((∃ code, fields.encode = .ok code) ↔
            (∀ axis token, fields.token? axis = some token →
              scheme.uses axis = true ∧ isLegal axis (Text.upper token) scheme = true) ∧
            ∃ use, ∀ axis, fields.contains axis = true → axis.inSlot = true →
              axis.slotUse? = some use) ∧
          (∀ failure, fields.encode = .error failure ↔
            ∃ axis, Faulty scheme fields axis failure ∧
              ∀ earlier : Axis, earlier.Before axis →
                ∀ reason, ¬ Faulty scheme fields earlier reason) ∧
          ∀ axis token, isLegal axis token scheme = true → token.length = axis.width := by
  refine ⟨fields.encode_eq_missingScheme_iff, fun scheme names => ?_⟩
  have named := (fields.scheme?_eq_some_iff scheme).mpr names
  refine ⟨?_, ?_, fun axis token legal => (axis.fits_of_isLegal token scheme legal).width⟩
  · rw [← fields.together_iff_exists_use]
    constructor
    · intro written
      obtain ⟨code, written⟩ := written
      have writable := fields.writable_of_encode scheme code named written
      exact ⟨writable.legal, writable.together⟩
    · intro fits
      exact fields.encode_of_writable scheme named ⟨fits.1, fits.2⟩
  · intro failure
    rw [encode_eq_error_iff fields scheme named, halts_iff_first_faulty]

/-- A mobility is refused beside an echelon. The fields behind it are wrong as well, but those before
it are not. -/
theorem encode_outcomes_besideEchelon :
    let fields := ofList [(.scheme, "s"), (.functionId, "uci---"), (.echelon, "d"),
      (.mobility, "mo"), (.country, "u"), (.orderOfBattle, "é")]
    fields.NamesScheme .warfighting ∧
      fields.encode = .error (.slotConflict .echelon .mobility) ∧
      Faulty .warfighting fields .mobility (.slotConflict .echelon .mobility) ∧
      ∀ reason, ¬ Faulty .warfighting fields .functionId reason := by
  intro fields
  have names : fields.NamesScheme .warfighting := ⟨"s", rfl, rfl⟩
  obtain ⟨_missing, ofScheme⟩ := encode_outcomes fields
  obtain ⟨_written, failed, _width⟩ := ofScheme .warfighting names
  obtain ⟨axis, faulty, sound⟩ := (failed (.slotConflict .echelon .mobility)).mp rfl
  have isMobility : axis = .mobility := by
    obtain ⟨_token, _present, hinders⟩ := faulty
    cases hinders
    rfl
  subst isMobility
  exact ⟨names, rfl, faulty, sound .functionId (by decide)⟩

end CodeFields

end TacticalSymbols

import TacticalSymbols.Code.Writing
import TacticalSymbols.Proofs.Code.Layout
import TacticalSymbols.Proofs.Code.Tokens

/-!
What writing does. Fields can be written exactly if the scheme uses every one of their axes, every
token is legal once in capitals, and the slot is used in one way; the characters then stand at the
places of their axes and nowhere else.
-/

namespace TacticalSymbols.CodeFields

/-! ### One pass over the fields -/

def itemCells (item : Axis × String) : List Cell :=
  cellsOf item.1 (Text.upper item.2)

def holder? (items : List (Axis × String)) : Option Axis :=
  (items.map Prod.fst).find? Axis.inSlot

/-- What keeps a field from being written behind others. -/
def errorBehind? (scheme : Scheme) (before : List (Axis × String)) (item : Axis × String) :
    Option WriteError :=
  fieldError? scheme (holder? before) item.1 (Text.upper item.2)

def Admitted (scheme : Scheme) (items : List (Axis × String)) : Prop :=
  ∀ before item after, items = before ++ item :: after → errorBehind? scheme before item = none

/-- How a pass over fields ends: all are written, or those before the first that has an error. -/
inductive Writing.Ends (scheme : Scheme) : List (Axis × String) → Writing → Prop where
  | complete (items : List (Axis × String)) (admitted : Admitted scheme items) :
      Ends scheme items
        { cells := items.flatMap itemCells, slotHolder? := holder? items, failure? := none }
  | stopped (before : List (Axis × String)) (item : Axis × String) (after : List (Axis × String))
      (failure : WriteError) (admitted : Admitted scheme before)
      (error : errorBehind? scheme before item = some failure) :
      Ends scheme (before ++ item :: after)
        { cells := before.flatMap itemCells
          slotHolder? := holder? before
          failure? := some failure }

private theorem holder?_append_singleton (items : List (Axis × String)) (item : Axis × String) :
    holder? (items ++ [item]) =
      if item.1.inSlot then holder? items <|> some item.1 else holder? items := by
  unfold holder?
  rw [List.map_append, List.find?_append]
  by_cases inSlot : item.1.inSlot = true
  · rw [if_pos inSlot, List.map_cons, List.find?_cons_of_pos inSlot]
    cases (items.map Prod.fst).find? Axis.inSlot <;> rfl
  · rw [if_neg inSlot, List.map_cons, List.find?_cons_of_neg inSlot]
    exact Option.or_none

private theorem admitted_append_singleton (scheme : Scheme) (items : List (Axis × String))
    (item : Axis × String) (admitted : Admitted scheme items)
    (noError : errorBehind? scheme items item = none) : Admitted scheme (items ++ [item]) := by
  intro before next after same
  rcases List.eq_nil_or_concat after with isLast | ⟨inner, last, isInner⟩
  · subst isLast
    obtain ⟨sameItems, sameItem⟩ := List.append_inj' same rfl
    cases sameItem
    exact sameItems ▸ noError
  · subst isInner
    rw [List.concat_eq_append, ← List.cons_append, ← List.append_assoc] at same
    obtain ⟨sameItems, _sameLast⟩ := List.append_inj' same rfl
    exact admitted before next inner sameItems

private theorem Writing.next_ends (scheme : Scheme) (items : List (Axis × String))
    (item : Axis × String) (writing : Writing) (ends : Ends scheme items writing) :
    Ends scheme (items ++ [item]) (writing.next scheme item) := by
  cases ends with
  | stopped before first after failure admitted error =>
      rw [List.append_assoc, List.cons_append]
      exact .stopped before first (after ++ [item]) failure admitted error
  | complete items admitted =>
      cases error : errorBehind? scheme items item with
      | some failure =>
          have stops := Ends.stopped items item [] failure admitted error
          unfold errorBehind? at error
          simpa [Writing.next, error] using stops
      | none =>
          have completes := Ends.complete (items ++ [item])
            (admitted_append_singleton scheme items item admitted error)
          rw [List.flatMap_append, List.flatMap_singleton, holder?_append_singleton] at completes
          unfold errorBehind? at error
          simpa [Writing.next, error, itemCells] using completes

private theorem Writing.foldl_next_ends (scheme : Scheme) (passed rest : List (Axis × String))
    (writing : Writing) (ends : Ends scheme passed writing) :
    Ends scheme (passed ++ rest) (rest.foldl (Writing.next scheme) writing) := by
  induction rest generalizing passed writing with
  | nil => rwa [List.append_nil]
  | cons item rest ih =>
      have continued := ih (passed ++ [item]) _ (next_ends scheme passed item writing ends)
      rwa [List.append_assoc] at continued

theorem write_ends (scheme : Scheme) (fields : CodeFields) :
    Writing.Ends scheme fields.toList (write scheme fields) := by
  have start : Writing.Ends scheme [] { cells := [], slotHolder? := none, failure? := none } :=
    .complete [] (by intro before item after impossible; simp at impossible)
  exact Writing.foldl_next_ends scheme [] fields.toList _ start

theorem Writing.Ends.failure?_eq_none_iff {scheme : Scheme} {items : List (Axis × String)}
    {writing : Writing} (ends : Ends scheme items writing) :
    writing.failure? = none ↔ Admitted scheme items := by
  cases ends with
  | complete items admitted => exact ⟨fun _ => admitted, fun _ => rfl⟩
  | stopped before item after failure admitted error =>
      constructor
      · intro impossible
        cases impossible
      · intro all
        rw [all before item after rfl] at error
        cases error

private theorem Writing.Ends.cells_eq {scheme : Scheme} {items : List (Axis × String)}
    {writing : Writing} (ends : Ends scheme items writing) (whole : writing.failure? = none) :
    writing.cells = items.flatMap itemCells := by
  cases ends with
  | complete items admitted => rfl
  | stopped before item after failure admitted error => cases whole

/-! ### Which fields can be written -/

/-- The fields that a code of the scheme can hold. -/
structure Writable (scheme : Scheme) (fields : CodeFields) : Prop where
  legal : ∀ axis token, fields.token? axis = some token →
    scheme.uses axis = true ∧ isLegal axis (Text.upper token) scheme = true
  together : ∀ left right, fields.contains left = true → fields.contains right = true →
    left.Together right

/-- A token that is legal has the width of its axis, so widths need not be asked for. -/
theorem errorBehind?_eq_none_iff (scheme : Scheme) (before : List (Axis × String))
    (item : Axis × String) :
    errorBehind? scheme before item = none ↔
      (scheme.uses item.1 = true ∧ isLegal item.1 (Text.upper item.2) scheme = true) ∧
        ∀ holder, holder? before = some holder → item.1.inSlot = true →
          holder.slotUse? = item.1.slotUse? := by
  unfold errorBehind? fieldError?
  by_cases placed : scheme.uses item.1 = true
  · by_cases legal : isLegal item.1 (Text.upper item.2) scheme = true
    · have width := (item.1.fits_of_isLegal _ _ legal).width
      cases holder? before <;> simp [placed, legal, width]
    · simp [placed, legal]
  · simp [placed]

private theorem holder?_isSome_of_mem (items : List (Axis × String)) (item : Axis × String)
    (member : item ∈ items) (inSlot : item.1.inSlot = true) : (holder? items).isSome = true := by
  unfold holder?
  rw [List.find?_isSome]
  exact ⟨item.1, List.mem_map_of_mem member, inSlot⟩

theorem holder?_append_cons (before after : List (Axis × String)) (item : Axis × String)
    (inSlot : item.1.inSlot = true) :
    holder? (before ++ item :: after) = (holder? before).or (some item.1) := by
  unfold holder?
  rw [List.map_append, List.find?_append, List.map_cons, List.find?_cons_of_pos inSlot]

private theorem slotUse?_of_admitted (scheme : Scheme) (items : List (Axis × String))
    (admitted : Admitted scheme items) (item : Axis × String) (member : item ∈ items)
    (inSlot : item.1.inSlot = true) (holder : Axis) (held : holder? items = some holder) :
    holder.slotUse? = item.1.slotUse? := by
  obtain ⟨before, after, split⟩ := List.append_of_mem member
  have noConflict :=
    ((errorBehind?_eq_none_iff scheme before item).mp (admitted before item after split)).2
  rw [split, holder?_append_cons before after item inSlot] at held
  cases first : holder? before with
  | none =>
      rw [first] at held
      cases held
      rfl
  | some earlier =>
      rw [first] at held
      cases held
      exact noConflict holder first inSlot

theorem legal_of_admitted (scheme : Scheme) (items : List (Axis × String))
    (admitted : Admitted scheme items) (item : Axis × String) (member : item ∈ items) :
    scheme.uses item.1 = true ∧ isLegal item.1 (Text.upper item.2) scheme = true := by
  obtain ⟨before, after, split⟩ := List.append_of_mem member
  exact ((errorBehind?_eq_none_iff scheme before item).mp (admitted before item after split)).1

theorem together_of_admitted (scheme : Scheme) (items : List (Axis × String))
    (admitted : Admitted scheme items) (left right : Axis × String) (leftMember : left ∈ items)
    (rightMember : right ∈ items) : left.1.Together right.1 := by
  intro leftInSlot rightInSlot
  obtain ⟨holder, held⟩ :=
    Option.isSome_iff_exists.mp (holder?_isSome_of_mem items left leftMember leftInSlot)
  rw [← slotUse?_of_admitted scheme items admitted left leftMember leftInSlot holder held,
    slotUse?_of_admitted scheme items admitted right rightMember rightInSlot holder held]

theorem contains_of_token? (fields : CodeFields) (axis : Axis) (token : String)
    (present : fields.token? axis = some token) : fields.contains axis = true := by
  rw [contains, present]
  rfl

theorem contains_iff (fields : CodeFields) (axis : Axis) :
    fields.contains axis = true ↔ ∃ token, (axis, token) ∈ fields.toList := by
  simp only [mem_toList, contains, Option.isSome_iff_exists]

theorem admitted_toList_iff (scheme : Scheme) (fields : CodeFields) :
    Admitted scheme fields.toList ↔ Writable scheme fields := by
  constructor
  · intro admitted
    constructor
    · intro axis token present
      exact legal_of_admitted scheme fields.toList admitted (axis, token)
        ((mem_toList fields axis token).mpr present)
    · intro left right holdsLeft holdsRight
      obtain ⟨leftToken, leftMember⟩ := (contains_iff fields left).mp holdsLeft
      obtain ⟨rightToken, rightMember⟩ := (contains_iff fields right).mp holdsRight
      exact together_of_admitted scheme fields.toList admitted _ _ leftMember rightMember
  · intro writable before item after split
    have member : item ∈ fields.toList := by
      rw [split]
      exact List.mem_append_right before List.mem_cons_self
    refine (errorBehind?_eq_none_iff scheme before item).mpr
      ⟨writable.legal item.1 item.2 ((mem_toList fields item.1 item.2).mp member), ?_⟩
    intro holder held inSlot
    obtain ⟨earlier, earlierMember, same⟩ := List.mem_map.mp (List.mem_of_find?_eq_some held)
    have holderInSlot : holder.inSlot = true := List.find?_some held
    have earlierListed : earlier ∈ fields.toList := by
      rw [split]
      exact List.mem_append_left _ earlierMember
    exact writable.together holder item.1
      ((contains_iff fields holder).mpr ⟨earlier.2, by rw [← same]; exact earlierListed⟩)
      ((contains_iff fields item.1).mpr ⟨item.2, member⟩) holderInSlot inSlot

def cells (fields : CodeFields) : List Cell :=
  fields.toList.flatMap itemCells

theorem encode_eq_ok_iff (fields : CodeFields) (text : String) :
    fields.encode = .ok text ↔
      ∃ scheme, fields.scheme? = some scheme ∧ Writable scheme fields ∧
        text = String.ofList (sheet fields.cells) := by
  unfold encode
  cases named : fields.scheme? with
  | none => simp
  | some scheme =>
      have ends := write_ends scheme fields
      simp only [Option.some.injEq, exists_eq_left', ← admitted_toList_iff,
        ← ends.failure?_eq_none_iff]
      cases failed : (write scheme fields).failure? with
      | some failure => simp
      | none =>
          rw [ends.cells_eq failed]
          simp [cells, eq_comm]

theorem writable_of_encode (fields : CodeFields) (scheme : Scheme) (code : String)
    (named : fields.scheme? = some scheme) (written : fields.encode = .ok code) :
    Writable scheme fields := by
  obtain ⟨other, otherNamed, writable, _same⟩ := (encode_eq_ok_iff fields code).mp written
  rw [named] at otherNamed
  cases otherNamed
  exact writable

theorem encode_of_writable (fields : CodeFields) (scheme : Scheme)
    (named : fields.scheme? = some scheme) (writable : Writable scheme fields) :
    ∃ code, fields.encode = .ok code :=
  ⟨_, (encode_eq_ok_iff fields _).mpr ⟨scheme, named, writable, rfl⟩⟩

end TacticalSymbols.CodeFields

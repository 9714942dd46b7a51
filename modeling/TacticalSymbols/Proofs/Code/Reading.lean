import TacticalSymbols.Proofs.Code.Layout
import TacticalSymbols.Proofs.Code.Tokens

/-!
What reading finds. Each axis is read by itself: from the characters at its places it gets a token,
nothing, or a violation, whatever the other axes get.
-/

namespace TacticalSymbols.CodeFields

/-! ### One axis -/

def found? (scheme : Scheme) (characters : List Char) (axis : Axis) : Option String :=
  let token := axis.span.slice characters
  if allFiller token then none
  else if scheme.uses axis && isLegal axis (String.ofList token) scheme then
    some (String.ofList token)
  else none

def isRejected (scheme : Scheme) (characters : List Char) (axis : Axis) : Bool :=
  let token := axis.span.slice characters
  !allFiller token && !(scheme.uses axis && isLegal axis (String.ofList token) scheme)

def violationAt (scheme : Scheme) (characters : List Char) (axis : Axis) : Violation :=
  { axis := axis
    token := String.ofList (axis.span.slice characters)
    position := axis.start
    expected := if scheme.uses axis then (legalTokens axis scheme).tokens else [] }

theorem found?_eq_some_iff (scheme : Scheme) (characters : List Char) (axis : Axis)
    (token : String) :
    found? scheme characters axis = some token ↔
      allFiller (axis.span.slice characters) = false ∧ scheme.uses axis = true ∧
        isLegal axis token scheme = true ∧ String.ofList (axis.span.slice characters) = token := by
  simp only [found?]
  constructor
  · intro found
    split at found
    · cases found
    · split at found
      next blank taken =>
        cases found
        rw [Bool.and_eq_true] at taken
        exact ⟨by simpa using blank, taken.1, taken.2, rfl⟩
      next => cases found
  · intro stands
    obtain ⟨solid, used, legal, same⟩ := stands
    rw [same, if_neg (by simp [solid]), if_pos (by simp [used, legal])]

theorem allFiller_of_found?_eq_none (scheme : Scheme) (characters : List Char) (axis : Axis)
    (accepted : isRejected scheme characters axis = false)
    (missing : found? scheme characters axis = none) :
    allFiller (axis.span.slice characters) = true := by
  simp only [isRejected, Bool.and_eq_false_iff, Bool.not_eq_false'] at accepted
  rcases accepted with blank | taken
  · exact blank
  · by_cases blank : allFiller (axis.span.slice characters) = true
    · exact blank
    · simp only [found?] at missing
      rw [if_neg blank, if_pos taken] at missing
      cases missing

private theorem Reading.next_valid (scheme : Scheme) (characters : List Char) (reading : Reading)
    (axis other : Axis) :
    (reading.next scheme characters axis).valid.token? other =
      if other = axis then (found? scheme characters axis).or (reading.valid.token? other)
      else reading.valid.token? other := by
  unfold Reading.next Reading.accept found?
  by_cases same : other = axis
  · subst same
    rw [if_pos rfl]
    dsimp only
    split
    · rfl
    · split
      · exact token?_set_self _ _ _
      · rfl
  · rw [if_neg same]
    dsimp only
    split
    · rfl
    · split
      · exact token?_set_of_ne _ _ _ _ same
      · rfl

private theorem Reading.next_violations (scheme : Scheme) (characters : List Char)
    (reading : Reading) (axis : Axis) :
    (reading.next scheme characters axis).violations =
      reading.violations ++
        if isRejected scheme characters axis then [violationAt scheme characters axis] else [] := by
  unfold Reading.next Reading.accept isRejected violationAt
  by_cases blank : allFiller (axis.span.slice characters) = true
  · simp [blank]
  · by_cases taken : (scheme.uses axis &&
        isLegal axis (String.ofList (axis.span.slice characters)) scheme) = true
    · simp [blank, taken]
    · simp [blank, taken]

/-! ### All axes -/

private theorem token?_foldl_next (scheme : Scheme) (characters : List Char) (axes : List Axis)
    (reading : Reading) (axis : Axis) :
    (axes.foldl (Reading.next scheme characters) reading).valid.token? axis =
      if axis ∈ axes then (found? scheme characters axis).or (reading.valid.token? axis)
      else reading.valid.token? axis := by
  induction axes generalizing reading with
  | nil => rfl
  | cons first rest ih =>
      rw [List.foldl_cons, ih, Reading.next_valid]
      by_cases isFirst : axis = first
      · subst isFirst
        rw [if_pos rfl, if_pos List.mem_cons_self]
        split
        · cases found? scheme characters axis <;> rfl
        · rfl
      · rw [if_neg isFirst]
        simp only [List.mem_cons, isFirst, false_or]

private theorem violations_foldl_next (scheme : Scheme) (characters : List Char) (axes : List Axis)
    (reading : Reading) :
    (axes.foldl (Reading.next scheme characters) reading).violations =
      reading.violations ++
        (axes.filter (isRejected scheme characters)).map (violationAt scheme characters) := by
  induction axes generalizing reading with
  | nil => exact (List.append_nil _).symm
  | cons first rest ih =>
      rw [List.foldl_cons, ih, Reading.next_violations, List.append_assoc]
      by_cases rejected : isRejected scheme characters first = true
      · rw [if_pos rejected, List.filter_cons_of_pos rejected]
        rfl
      · rw [if_neg rejected, List.filter_cons_of_neg rejected]
        rfl

theorem mem_axesRead_iff (scheme : Scheme) (tag : Char) (axis : Axis) :
    axis ∈ axesRead scheme tag ↔
      (scheme.uses axis = true ∧ axis ≠ .scheme ∧ axis.inSlot = false) ∨
        (scheme.axes.any Axis.inSlot = true ∧ axis ∈ slotAxes tag) := by
  unfold axesRead Scheme.uses
  rw [List.mem_append, List.mem_filter]
  by_cases hasSlot : scheme.axes.any Axis.inSlot = true
  · simp [hasSlot]
  · simp [hasSlot]

theorem scheme_not_mem_axesRead (scheme : Scheme) (tag : Char) :
    Axis.scheme ∉ axesRead scheme tag := by
  rw [mem_axesRead_iff]
  intro read
  rcases read with ⟨_used, notScheme, _outside⟩ | ⟨_hasSlot, inSlot⟩
  · exact notScheme rfl
  · cases inSlot_of_mem_slotAxes tag .scheme inSlot

theorem token?_readFields (scheme : Scheme) (characters : List Char) (axis : Axis) :
    (readFields scheme characters).valid.token? axis =
      if axis = .scheme then some scheme.token
      else if axis ∈ axesRead scheme (slotTag characters) then found? scheme characters axis
      else none := by
  unfold readFields
  rw [token?_foldl_next]
  by_cases isScheme : axis = .scheme
  · subst isScheme
    rw [if_neg (scheme_not_mem_axesRead scheme _), if_pos rfl]
    exact token?_set_self _ _ _
  · have nothing : (ofScheme scheme).token? axis = none :=
      token?_set_of_ne _ _ _ _ isScheme
    rw [if_neg isScheme, nothing, Option.or_none]

theorem violations_readFields (scheme : Scheme) (characters : List Char) :
    (readFields scheme characters).violations =
      ((axesRead scheme (slotTag characters)).filter (isRejected scheme characters)).map
        (violationAt scheme characters) :=
  violations_foldl_next scheme characters _ _

/-! ### Codes that can be read -/

/-- The fields that stand in a code of the scheme in which nothing is rejected. -/
structure Reads (scheme : Scheme) (characters : List Char) (fields : CodeFields) : Prop where
  full : characters.length = codeLength
  named : Scheme.ofToken? (String.ofList (Axis.scheme.span.slice characters)) = some scheme
  accepted : ∀ axis ∈ axesRead scheme (slotTag characters), isRejected scheme characters axis = false
  tokens : ∀ axis, fields.token? axis =
    if axis = .scheme then some scheme.token
    else if axis ∈ axesRead scheme (slotTag characters) then found? scheme characters axis
    else none

theorem ofCapitals_eq_ok_iff (characters : List Char) (fields : CodeFields) :
    ofCapitals characters = .ok fields ↔ ∃ scheme, Reads scheme characters fields := by
  have sameFields : ∀ scheme, (readFields scheme characters).valid = fields ↔
      ∀ axis, fields.token? axis =
        if axis = .scheme then some scheme.token
        else if axis ∈ axesRead scheme (slotTag characters) then found? scheme characters axis
        else none := by
    intro scheme
    simp only [CodeFields.ext_iff, funext_iff, token?_readFields, eq_comm]
  unfold ofCapitals
  constructor
  · intro read
    split at read
    · cases read
    next full =>
      dsimp only at read
      split at read
      · cases read
      next scheme named =>
        split at read
        next clean =>
          cases read
          refine ⟨scheme, by simpa using full, named, ?_, (sameFields scheme).mp rfl⟩
          simpa [violations_readFields] using clean
        next => cases read
  · intro readable
    obtain ⟨scheme, full, named, accepted, tokens⟩ := readable
    have clean : (readFields scheme characters).violations.isEmpty = true := by
      simpa [violations_readFields] using accepted
    rw [if_neg (by simp [full])]
    simp only [named, clean, if_true, (sameFields scheme).mpr tokens]

theorem decode_eq_ok_iff (text : String) (fields : CodeFields) :
    decode text = .ok fields ↔
      ∃ scheme, Reads scheme (text.toList.map Char.toUpper) fields :=
  ofCapitals_eq_ok_iff _ fields

theorem decode_upper (text : String) : decode (Text.upper text) = decode text := by
  unfold decode
  rw [← Text.upper_toList, Text.upper_upper, Text.upper_toList]

end TacticalSymbols.CodeFields

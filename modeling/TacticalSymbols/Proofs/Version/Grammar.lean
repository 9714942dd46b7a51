import TacticalSymbols.Proofs.Text
import TacticalSymbols.Version

/-!
The grammar of semantic versions. The texts that are read are exactly those of the valid versions
whose three numbers fit into 64 bits, and each is read as the version that it is the text of.
-/

namespace TacticalSymbols.Version

def IsIdentifier (identifier : String) : Prop :=
  identifier ≠ "" ∧
    ∀ character ∈ identifier.toList, character.isAlphanum = true ∨ character = '-'

def IsPreReleaseIdentifier (identifier : String) : Prop :=
  IsIdentifier identifier ∧
    (isNumeric identifier = true → ∃ value : Nat, identifier = value.repr)

structure Valid (version : Version) : Prop where
  preRelease : ∀ identifier ∈ version.preRelease, IsPreReleaseIdentifier identifier
  build : ∀ identifier ∈ version.build, IsIdentifier identifier

/-- The three numbers fit into 64 bits. -/
structure Bounded (version : Version) : Prop where
  major : version.major < UInt64.size
  minor : version.minor < UInt64.size
  patch : version.patch < UInt64.size

def labelled (mark : Char) (identifiers : List String) : String :=
  if identifiers = [] then "" else String.singleton mark ++ ".".intercalate identifiers

def text (version : Version) : String :=
  ".".intercalate [version.major.repr, version.minor.repr, version.patch.repr] ++
    labelled '-' version.preRelease ++ labelled '+' version.build

/-! ### Identifiers -/

theorem isIdentifier_iff (identifier : String) :
    isIdentifier identifier.toList = true ↔ IsIdentifier identifier := by
  unfold isIdentifier IsIdentifier
  rw [Bool.and_eq_true, Bool.not_eq_true', List.isEmpty_eq_false_iff, List.all_eq_true]
  simp

theorem isPreReleaseIdentifier_iff (identifier : String) :
    isPreReleaseIdentifier identifier.toList = true ↔ IsPreReleaseIdentifier identifier := by
  unfold isPreReleaseIdentifier IsPreReleaseIdentifier isNumeric
  rw [Bool.and_eq_true, isIdentifier_iff, Bool.or_eq_true, Bool.not_eq_true',
    Text.isWholeNumber_iff_exists_toDigits]
  have written (value : Nat) :
      identifier = value.repr ↔ identifier.toList = Nat.toDigits 10 value := by
    rw [← String.toList_inj, Nat.toList_repr]
  simp only [written, imp_iff_not_or, Bool.not_eq_true]

private theorem IsIdentifier.not_mem {identifier : String} (isIdentifier : IsIdentifier identifier)
    {mark : Char} (isNoLetter : mark.isAlphanum = false) (isNoHyphen : mark ≠ '-') :
    mark ∉ identifier.toList := by
  intro member
  rcases isIdentifier.2 mark member with isAlphanum | isHyphen
  · exact absurd isAlphanum (by simp [isNoLetter])
  · exact isNoHyphen isHyphen

instance (identifier : String) : Decidable (IsIdentifier identifier) :=
  decidable_of_iff _ (isIdentifier_iff identifier)

instance (identifier : String) : Decidable (IsPreReleaseIdentifier identifier) :=
  decidable_of_iff _ (isPreReleaseIdentifier_iff identifier)

instance (version : Version) : Decidable version.Valid :=
  decidable_of_iff
    ((∀ identifier ∈ version.preRelease, IsPreReleaseIdentifier identifier) ∧
      ∀ identifier ∈ version.build, IsIdentifier identifier)
    ⟨fun both => ⟨both.1, both.2⟩, fun valid => ⟨valid.preRelease, valid.build⟩⟩

/-! ### Parts of a text -/

private theorem map_toList_map_ofList (parts : List (List Char)) :
    (parts.map String.ofList).map String.toList = parts := by
  rw [List.map_map]
  exact List.map_id'' (fun _ => String.toList_ofList) parts

private theorem map_ofList_map_toList (identifiers : List String) :
    (identifiers.map String.toList).map String.ofList = identifiers := by
  rw [List.map_map]
  exact List.map_id'' (fun _ => String.ofList_toList) identifiers

/-- A text in front of the first separator, put together with what follows it. -/
def attach (separator : Char) (front : List Char) : Option (List Char) → List Char
  | none => front
  | some rest => front ++ separator :: rest

def joined? (identifiers : List String) : Option (List Char) :=
  if identifiers = [] then none else some (['.'].intercalate (identifiers.map String.toList))

private theorem splitAt_eq_splitOn (separator : Char) (characters : List Char) :
    splitAt separator characters = characters.splitOn separator := by
  induction characters with
  | nil => rfl
  | cons first rest ih =>
      rw [List.splitOn_cons_eq_if_modifyHead, splitAt, ih]
      by_cases isSeparator : first = separator
      · simp [isSeparator]
      · rw [if_neg isSeparator, if_neg (by simpa using isSeparator)]
        cases parts : rest.splitOn separator with
        | nil => exact absurd parts (List.splitOn_ne_nil separator rest)
        | cons part others => rfl

private theorem cutAt_eq_iff (separator : Char) (characters front : List Char)
    (rest : Option (List Char)) :
    cutAt separator characters = (front, rest) ↔
      characters = attach separator front rest ∧ separator ∉ front := by
  constructor
  · intro cut
    unfold cutAt at cut
    cases left : characters.dropWhile (· != separator) with
    | nil =>
        rw [left] at cut
        cases cut
        exact ⟨rfl, (Text.dropWhile_ne_eq_nil_iff separator characters).mp left⟩
    | cons first rest =>
        rw [left] at cut
        cases cut
        refine ⟨?_, Text.not_mem_takeWhile_ne separator characters⟩
        cases Text.eq_of_dropWhile_ne separator characters rest first left
        rw [attach, ← left, List.takeWhile_append_dropWhile]
  · intro attached
    obtain ⟨isAttached, absent⟩ := attached
    unfold cutAt
    rw [isAttached]
    cases rest with
    | none => rw [attach, (Text.dropWhile_ne_eq_nil_iff separator front).mpr absent]
    | some rest =>
        rw [attach, Text.dropWhile_ne_append separator front rest absent,
          Text.takeWhile_ne_append separator front rest absent]

theorem number?_eq_some_iff (digits : List Char) (number : Nat) :
    number? digits = some number ↔
      digits = number.repr.toList ∧ number < UInt64.size := by
  unfold number?
  rw [Nat.toList_repr]
  constructor
  · intro read
    obtain ⟨fits, isValue⟩ := (Option.ite_none_right_eq_some ..).mp read
    obtain ⟨isWhole, bounded⟩ := (Bool.and_eq_true _ _).mp fits
    cases isValue
    exact ⟨(Text.toDigits_digitsValue digits isWhole).symm, of_decide_eq_true bounded⟩
  · intro written
    obtain ⟨isWritten, bounded⟩ := written
    rw [isWritten, Text.digitsValue_toDigits, Text.isWholeNumber_toDigits]
    simp [bounded]

section Identifiers

variable (accepts : List Char → Bool)
  (pointless : ∀ identifier : String,
    accepts identifier.toList = true → '.' ∉ identifier.toList)

include pointless

theorem identifiers?_eq_some_iff (part : Option (List Char)) (identifiers : List String) :
    identifiers? accepts part = some identifiers ↔
      part = joined? identifiers ∧
        ∀ identifier ∈ identifiers, accepts identifier.toList = true := by
  constructor
  · intro read
    cases part with
    | none =>
        cases read
        exact ⟨rfl, by simp⟩
    | some characters =>
        obtain ⟨areAccepted, same⟩ := (Option.ite_none_right_eq_some ..).mp read
        cases same
        rw [List.all_eq_true] at areAccepted
        constructor
        · unfold joined?
          rw [splitAt_eq_splitOn, if_neg (by simp), map_toList_map_ofList,
            List.intercalate_splitOn]
        · intro identifier member
          obtain ⟨part, isPart, same⟩ := List.mem_map.mp member
          rw [← same, String.toList_ofList]
          exact areAccepted part isPart
  · intro joined
    obtain ⟨isJoined, areAccepted⟩ := joined
    rw [isJoined]
    unfold joined?
    by_cases isNone : identifiers = []
    · rw [if_pos isNone, isNone]
      rfl
    · have absent : ∀ part ∈ identifiers.map String.toList, '.' ∉ part := by
        rw [List.forall_mem_map]
        exact fun identifier member => pointless identifier (areAccepted identifier member)
      rw [if_neg isNone, identifiers?, splitAt_eq_splitOn,
        List.splitOn_intercalate '.' absent (by simpa using isNone), map_ofList_map_toList]
      exact if_pos (by simpa using areAccepted)

end Identifiers

private theorem identifiers?_isIdentifier_eq_some_iff (part : Option (List Char))
    (identifiers : List String) :
    identifiers? isIdentifier part = some identifiers ↔
      part = joined? identifiers ∧ ∀ identifier ∈ identifiers, IsIdentifier identifier := by
  simp only [← isIdentifier_iff]
  refine identifiers?_eq_some_iff _ ?_ _ _
  intro identifier accepted
  exact ((isIdentifier_iff _).mp accepted).not_mem rfl (by decide)

private theorem identifiers?_isPreReleaseIdentifier_eq_some_iff (part : Option (List Char))
    (identifiers : List String) :
    identifiers? isPreReleaseIdentifier part = some identifiers ↔
      part = joined? identifiers ∧
        ∀ identifier ∈ identifiers, IsPreReleaseIdentifier identifier := by
  simp only [← isPreReleaseIdentifier_iff]
  refine identifiers?_eq_some_iff _ ?_ _ _
  intro identifier accepted
  exact ((isPreReleaseIdentifier_iff _).mp accepted).1.not_mem rfl (by decide)

private theorem toList_append_labelled (front : String) (mark : Char) (identifiers : List String) :
    (front ++ labelled mark identifiers).toList =
      attach mark front.toList (joined? identifiers) := by
  unfold labelled joined?
  by_cases isNone : identifiers = []
  · simp [isNone, attach]
  · simp [isNone, attach]

/-! ### Texts -/

def core (version : Version) : List Char :=
  ['.'].intercalate
    [version.major.repr.toList, version.minor.repr.toList,
      version.patch.repr.toList]

private theorem toList_text (version : Version) :
    version.text.toList =
      attach '+' (attach '-' version.core (joined? version.preRelease))
        (joined? version.build) := by
  unfold text core
  rw [toList_append_labelled, toList_append_labelled, String.toList_intercalate]
  rfl

private theorem parse?_eq_some_iff_parts (written : String) (version : Version) :
    parse? written = some version ↔
      ∃ front build core preRelease major minor patch,
        cutAt '+' written.toList = (front, build) ∧ cutAt '-' front = (core, preRelease) ∧
          splitAt '.' core = [major, minor, patch] ∧
          number? major = some version.major ∧ number? minor = some version.minor ∧
          number? patch = some version.patch ∧
          identifiers? isPreReleaseIdentifier preRelease = some version.preRelease ∧
          identifiers? isIdentifier build = some version.build := by
  unfold parse?
  cases cutBuild : cutAt '+' written.toList with
  | mk front build =>
      cases cutPreRelease : cutAt '-' front with
      | mk core preRelease =>
          simp only [cutPreRelease]
          constructor
          · intro read
            split at read
            · rename_i major minor patch parts
              simp only [Option.pure_def, Option.bind_eq_bind, Option.bind_eq_some_iff,
                Option.some.injEq] at read
              obtain ⟨_, readMajor, _, readMinor, _, readPatch, _, readPreRelease, _, readBuild,
                same⟩ := read
              cases same
              exact ⟨front, build, core, preRelease, major, minor, patch, rfl, cutPreRelease, parts,
                readMajor, readMinor, readPatch, readPreRelease, readBuild⟩
            · cases read
          · intro parts
            obtain ⟨_, _, _, _, major, minor, patch, sameBuild, samePreRelease, split, readMajor,
              readMinor, readPatch, readPreRelease, readBuild⟩ := parts
            cases sameBuild
            cases cutPreRelease.symm.trans samePreRelease
            rw [split]
            simp [readMajor, readMinor, readPatch, readPreRelease, readBuild]

private theorem not_mem_repr (number : Nat) (mark : Char) (isNoDigit : mark.isDigit = false) :
    mark ∉ number.repr.toList := by
  rw [Nat.toList_repr]
  intro member
  exact absurd (Text.isDigit_of_mem_toDigits number mark member) (by simp [isNoDigit])

private theorem not_mem_core (version : Version) (mark : Char) (isNoDigit : mark.isDigit = false)
    (isNoPoint : mark ≠ '.') : mark ∉ version.core := by
  refine Text.not_mem_intercalate '.' mark isNoPoint _ ?_
  simp only [List.forall_mem_cons, List.not_mem_nil, false_implies, implies_true, and_true]
  exact ⟨not_mem_repr _ mark isNoDigit, not_mem_repr _ mark isNoDigit,
    not_mem_repr _ mark isNoDigit⟩

private theorem splitAt_core (version : Version) :
    splitAt '.' version.core =
      [version.major.repr.toList, version.minor.repr.toList,
        version.patch.repr.toList] := by
  rw [splitAt_eq_splitOn]
  refine List.splitOn_intercalate '.' ?_ (by simp)
  simp only [List.forall_mem_cons, List.not_mem_nil, false_implies, implies_true, and_true]
  exact ⟨not_mem_repr _ '.' rfl, not_mem_repr _ '.' rfl, not_mem_repr _ '.' rfl⟩

private theorem Valid.plus_not_mem {version : Version} (valid : version.Valid) :
    '+' ∉ attach '-' version.core (joined? version.preRelease) := by
  have absent : '+' ∉ version.core := not_mem_core version '+' rfl (by decide)
  unfold joined?
  by_cases isRelease : version.preRelease = []
  · rw [if_pos isRelease]
    exact absent
  · rw [if_neg isRelease, attach]
    simp only [List.mem_append, List.mem_cons, not_or]
    refine ⟨absent, by decide, Text.not_mem_intercalate '.' '+' (by decide) _ ?_⟩
    rw [List.forall_mem_map]
    intro identifier member
    exact (valid.preRelease identifier member).1.not_mem rfl (by decide)

/-- The texts that are read are those of valid versions within bounds. -/
theorem parse?_eq_some_iff (written : String) (version : Version) :
    parse? written = some version ↔
      version.Valid ∧ version.Bounded ∧ written = version.text := by
  rw [parse?_eq_some_iff_parts]
  simp only [cutAt_eq_iff, number?_eq_some_iff, identifiers?_isIdentifier_eq_some_iff,
    identifiers?_isPreReleaseIdentifier_eq_some_iff]
  constructor
  · intro parts
    obtain ⟨front, build, numbers, preRelease, major, minor, patch, ⟨isText, _⟩, ⟨isFront, _⟩,
      split, ⟨isMajor, majorBound⟩, ⟨isMinor, minorBound⟩, ⟨isPatch, patchBound⟩,
      ⟨isPreRelease, preReleaseValid⟩, ⟨isBuild, buildValid⟩⟩ := parts
    have isCore : numbers = version.core := by
      rw [splitAt_eq_splitOn] at split
      rw [core, ← isMajor, ← isMinor, ← isPatch, ← split, List.intercalate_splitOn]
    refine ⟨⟨preReleaseValid, buildValid⟩, ⟨majorBound, minorBound, patchBound⟩, ?_⟩
    rw [← String.toList_inj, toList_text, isText, isFront, isCore, isPreRelease, isBuild]
  · intro valid
    obtain ⟨valid, bounded, isText⟩ := valid
    rw [isText, toList_text]
    -- Hyphens may stand in identifiers of both kinds, so it counts that none stands in the core.
    exact ⟨_, _, _, _, _, _, _, ⟨rfl, valid.plus_not_mem⟩,
      ⟨rfl, not_mem_core version '-' rfl (by decide)⟩, splitAt_core version,
      ⟨rfl, bounded.major⟩, ⟨rfl, bounded.minor⟩, ⟨rfl, bounded.patch⟩,
      ⟨rfl, valid.preRelease⟩, ⟨rfl, valid.build⟩⟩

/-! ### Texts of valid versions -/

private theorem Valid.cutAt_text {version : Version} (valid : version.Valid) :
    cutAt '+' version.text.toList =
      (attach '-' version.core (joined? version.preRelease), joined? version.build) :=
  (cutAt_eq_iff ..).mpr ⟨toList_text version, valid.plus_not_mem⟩

private theorem cutAt_core (version : Version) (preRelease : Option (List Char)) :
    cutAt '-' (attach '-' version.core preRelease) = (version.core, preRelease) :=
  (cutAt_eq_iff ..).mpr ⟨rfl, not_mem_core version '-' rfl (by decide)⟩

private theorem eq_of_joined?_eq (left right : List String)
    (leftValid : ∀ identifier ∈ left, IsIdentifier identifier)
    (rightValid : ∀ identifier ∈ right, IsIdentifier identifier)
    (same : joined? left = joined? right) : left = right := by
  have readLeft := (identifiers?_isIdentifier_eq_some_iff _ left).mpr ⟨rfl, leftValid⟩
  have readRight := (identifiers?_isIdentifier_eq_some_iff _ right).mpr ⟨same, rightValid⟩
  exact Option.some_inj.mp (readLeft.symm.trans readRight)

theorem Valid.eq_of_text_eq {left right : Version} (leftValid : left.Valid)
    (rightValid : right.Valid) (same : left.text = right.text) : left = right := by
  have sameParts := rightValid.cutAt_text
  rw [← same, leftValid.cutAt_text, Prod.mk.injEq] at sameParts
  obtain ⟨sameFront, sameBuild⟩ := sameParts
  have sameFrontParts := cutAt_core right (joined? right.preRelease)
  rw [← sameFront, cutAt_core, Prod.mk.injEq] at sameFrontParts
  obtain ⟨sameCore, samePreRelease⟩ := sameFrontParts
  have sameNumbers := splitAt_core right
  rw [← sameCore, splitAt_core] at sameNumbers
  simp only [List.cons.injEq, and_true, Nat.toList_repr,
    Text.toDigits_injective.eq_iff] at sameNumbers
  obtain ⟨sameMajor, sameMinor, samePatch⟩ := sameNumbers
  have equalPreRelease := eq_of_joined?_eq _ _
    (fun identifier member => (leftValid.preRelease identifier member).1)
    (fun identifier member => (rightValid.preRelease identifier member).1) samePreRelease
  have equalBuild := eq_of_joined?_eq _ _ leftValid.build rightValid.build sameBuild
  cases left
  cases right
  exact (Version.mk.injEq ..).mpr
    ⟨sameMajor, sameMinor, samePatch, equalPreRelease, equalBuild⟩

theorem Valid.parse?_text_eq_some {version : Version} (valid : version.Valid)
    (bounded : version.Bounded) : parse? version.text = some version :=
  (parse?_eq_some_iff ..).mpr ⟨valid, bounded, rfl⟩

theorem Valid.parse?_text_eq_none {version : Version} (valid : version.Valid)
    (unbounded : ¬version.Bounded) : parse? version.text = none := by
  rw [Option.eq_none_iff_forall_ne_some]
  intro other read
  obtain ⟨otherValid, bounded, same⟩ := (parse?_eq_some_iff ..).mp read
  rw [valid.eq_of_text_eq otherValid same] at unbounded
  exact unbounded bounded

end TacticalSymbols.Version

import Mathlib.Tactic.MkIffOfInductiveProp
import TacticalSymbols.Proofs.Version.Grammar

/-!
Precedence of semantic versions. Of two valid versions the comparison finds exactly the one that
precedes the other, and the full order leaves precedence for the build metadata only where the
versions have the same.
-/

namespace TacticalSymbols.Version

/-- Numbers go by value and words by their characters, and any number comes before any word. -/
@[mk_iff]
inductive IdentifierBelow : String → String → Prop where
  | numbers {left right : Nat} (less : left < right) :
      IdentifierBelow left.repr right.repr
  | numberBeforeWord {left right : String} (leftNumeric : isNumeric left = true)
      (rightWord : isNumeric right = false) : IdentifierBelow left right
  | words {left right : String} (leftWord : isNumeric left = false)
      (rightWord : isNumeric right = false) (less : left < right) : IdentifierBelow left right

/-- A pre-release comes before its release. Of two pre-releases the first identifiers that differ
decide, and where all those of one agree with the other it comes first. -/
@[mk_iff]
inductive PreReleaseBelow (left : List String) : List String → Prop where
  | release (isPreRelease : left ≠ []) : PreReleaseBelow left []
  | identifiers {right : List String} (isPreRelease : left ≠ [])
      (less : List.Lex IdentifierBelow left right) : PreReleaseBelow left right

/-- The first of the parts that differs decides. Build metadata is none of them. -/
@[mk_iff]
inductive Precedes (left right : Version) : Prop where
  | major (less : left.major < right.major)
  | minor (sameMajor : left.major = right.major) (less : left.minor < right.minor)
  | patch (sameMajor : left.major = right.major) (sameMinor : left.minor = right.minor)
      (less : left.patch < right.patch)
  | preRelease (sameMajor : left.major = right.major) (sameMinor : left.minor = right.minor)
      (samePatch : left.patch = right.patch)
      (less : PreReleaseBelow left.preRelease right.preRelease)

@[mk_iff]
structure SamePrecedence (left right : Version) : Prop where
  major : left.major = right.major
  minor : left.minor = right.minor
  patch : left.patch = right.patch
  preRelease : left.preRelease = right.preRelease

/-! ### Lists -/

section Lists

variable (compareItems : String → String → Ordering) (Below : String → String → Prop)
  (lefts rights : List String)

theorem compareLists_eq_eq_iff
    (same : ∀ left ∈ lefts, ∀ right ∈ rights, compareItems left right = .eq ↔ left = right) :
    compareLists compareItems lefts rights = .eq ↔ lefts = rights := by
  induction lefts generalizing rights with
  | nil => cases rights <;> simp [compareLists]
  | cons left lefts ih =>
      cases rights with
      | nil => simp [compareLists]
      | cons right rights =>
          simp only [List.forall_mem_cons] at same
          rw [compareLists, Ordering.then_eq_eq, List.cons.injEq, same.1.1,
            ih rights (fun item member => (same.2 item member).2)]

theorem compareLists_eq_lt_iff
    (same : ∀ left ∈ lefts, ∀ right ∈ rights, compareItems left right = .eq ↔ left = right)
    (less : ∀ left ∈ lefts, ∀ right ∈ rights, compareItems left right = .lt ↔ Below left right) :
    compareLists compareItems lefts rights = .lt ↔ List.Lex Below lefts rights := by
  induction lefts generalizing rights with
  | nil => cases rights <;> simp [compareLists]
  | cons left lefts ih =>
      cases rights with
      | nil => simp [compareLists]
      | cons right rights =>
          simp only [List.forall_mem_cons] at same less
          rw [compareLists, Ordering.then_eq_lt, less.1.1, same.1.1,
            ih rights (fun item member => (same.2 item member).2)
              (fun item member => (less.2 item member).2),
            List.cons_lex_cons_iff]

end Lists

/-! ### Identifiers -/

private theorem isNumeric_repr (number : Nat) : isNumeric number.repr = true := by
  rw [isNumeric, Nat.toList_repr, List.all_eq_true]
  exact Text.isDigit_of_mem_toDigits number

theorem repr_inj (left right : Nat) : left.repr = right.repr ↔ left = right := by
  rw [← String.toList_inj, Nat.toList_repr, Nat.toList_repr, Text.toDigits_injective.eq_iff]

private theorem ne_repr_of_word {word : String} (isWord : isNumeric word = false) (number : Nat) :
    word ≠ number.repr := by
  intro same
  rw [same, isNumeric_repr] at isWord
  cases isWord

private theorem IsPreReleaseIdentifier.kind {identifier : String}
    (valid : IsPreReleaseIdentifier identifier) :
    (∃ number : Nat, identifier = number.repr) ∨ isNumeric identifier = false := by
  cases kind : isNumeric identifier with
  | false => exact .inr rfl
  | true => exact .inl (valid.2 kind)

section Comparison

variable (leftNumber rightNumber : Nat) (left right : String)

private theorem compareIdentifiers_numbers :
    compareIdentifiers leftNumber.repr rightNumber.repr = compare leftNumber rightNumber := by
  simp only [compareIdentifiers, isNumeric_repr, Nat.toList_repr, Text.digitsValue_toDigits]

private theorem compareIdentifiers_number_word (rightWord : isNumeric right = false) :
    compareIdentifiers leftNumber.repr right = .lt := by
  simp only [compareIdentifiers, isNumeric_repr, rightWord]

private theorem compareIdentifiers_word_number (leftWord : isNumeric left = false) :
    compareIdentifiers left rightNumber.repr = .gt := by
  simp only [compareIdentifiers, isNumeric_repr, leftWord]

private theorem compareIdentifiers_words (leftWord : isNumeric left = false)
    (rightWord : isNumeric right = false) :
    compareIdentifiers left right = compare left right := by
  simp only [compareIdentifiers, leftWord, rightWord]

end Comparison

section Pair

variable {left right : String} (leftValid : IsPreReleaseIdentifier left)
  (rightValid : IsPreReleaseIdentifier right)

include leftValid rightValid

theorem compareIdentifiers_eq_eq_iff : compareIdentifiers left right = .eq ↔ left = right := by
  rcases leftValid.kind with ⟨leftNumber, rfl⟩ | leftWord <;>
    rcases rightValid.kind with ⟨rightNumber, rfl⟩ | rightWord
  · rw [compareIdentifiers_numbers, Nat.compare_eq_eq, repr_inj]
  · rw [compareIdentifiers_number_word _ _ rightWord]
    simp [(ne_repr_of_word rightWord leftNumber).symm]
  · rw [compareIdentifiers_word_number _ _ leftWord]
    simp [ne_repr_of_word leftWord]
  · rw [compareIdentifiers_words _ _ leftWord rightWord]
    exact Std.compare_eq_iff_eq

theorem compareIdentifiers_eq_lt_iff :
    compareIdentifiers left right = .lt ↔ IdentifierBelow left right := by
  rw [identifierBelow_iff]
  rcases leftValid.kind with ⟨leftNumber, rfl⟩ | leftWord <;>
    rcases rightValid.kind with ⟨rightNumber, rfl⟩ | rightWord
  · rw [compareIdentifiers_numbers, Nat.compare_eq_lt]
    simp only [isNumeric_repr, repr_inj, Bool.true_eq_false, false_and, and_false, or_false,
      ↓existsAndEq, and_true]
  · rw [compareIdentifiers_number_word _ _ rightWord]
    simp [isNumeric_repr, rightWord]
  · rw [compareIdentifiers_word_number _ _ leftWord]
    simp [isNumeric_repr, leftWord, ne_repr_of_word leftWord]
  · rw [compareIdentifiers_words _ _ leftWord rightWord]
    simp only [leftWord, rightWord, ne_repr_of_word leftWord, false_and, and_false, exists_const,
      Bool.false_eq_true, true_and, false_or]
    exact compareOfLessAndEq_eq_lt

end Pair

/-! ### Versions -/

section Pair

variable {left right : Version} (leftValid : left.Valid) (rightValid : right.Valid)

include leftValid rightValid

private theorem compareLists_preRelease_eq_eq_iff :
    compareLists compareIdentifiers left.preRelease right.preRelease = .eq ↔
      left.preRelease = right.preRelease :=
  compareLists_eq_eq_iff _ _ _ (fun _ leftMember _ rightMember =>
    compareIdentifiers_eq_eq_iff (leftValid.preRelease _ leftMember)
      (rightValid.preRelease _ rightMember))

private theorem compareLists_preRelease_eq_lt_iff :
    compareLists compareIdentifiers left.preRelease right.preRelease = .lt ↔
      List.Lex IdentifierBelow left.preRelease right.preRelease :=
  compareLists_eq_lt_iff _ _ _ _
    (fun _ leftMember _ rightMember =>
      compareIdentifiers_eq_eq_iff (leftValid.preRelease _ leftMember)
        (rightValid.preRelease _ rightMember))
    (fun _ leftMember _ rightMember =>
      compareIdentifiers_eq_lt_iff (leftValid.preRelease _ leftMember)
        (rightValid.preRelease _ rightMember))

theorem comparePreReleases_eq_eq_iff :
    comparePreReleases left.preRelease right.preRelease = .eq ↔
      left.preRelease = right.preRelease := by
  have sameLists := compareLists_preRelease_eq_eq_iff leftValid rightValid
  cases isLeft : left.preRelease with
  | nil => cases isRight : right.preRelease <;> simp [comparePreReleases]
  | cons _ _ =>
      cases isRight : right.preRelease with
      | nil => simp [comparePreReleases]
      | cons _ _ =>
          rw [isLeft, isRight] at sameLists
          exact sameLists

theorem comparePreReleases_eq_lt_iff :
    comparePreReleases left.preRelease right.preRelease = .lt ↔
      PreReleaseBelow left.preRelease right.preRelease := by
  have lessLists := compareLists_preRelease_eq_lt_iff leftValid rightValid
  rw [preReleaseBelow_iff]
  cases isLeft : left.preRelease with
  | nil => cases isRight : right.preRelease <;> simp [comparePreReleases]
  | cons _ _ =>
      cases isRight : right.preRelease with
      | nil => simp [comparePreReleases]
      | cons _ _ =>
          rw [isLeft, isRight] at lessLists
          simp [comparePreReleases, lessLists]

theorem precedence_eq_eq_iff : precedence left right = .eq ↔ left.SamePrecedence right := by
  rw [samePrecedence_iff, precedence]
  simp only [Ordering.then_eq_eq, Nat.compare_eq_eq]
  rw [comparePreReleases_eq_eq_iff leftValid rightValid]

theorem precedence_eq_lt_iff : precedence left right = .lt ↔ left.Precedes right := by
  rw [precedes_iff, precedence]
  simp only [Ordering.then_eq_lt, Nat.compare_eq_lt, Nat.compare_eq_eq]
  rw [comparePreReleases_eq_lt_iff leftValid rightValid]
  simp only [and_or_left]

-- The number eleven comes after two, though its digits would not.
omit leftValid rightValid in
example : (⟨1, 0, 0, ["beta", "2"], []⟩ : Version).Precedes ⟨1, 0, 0, ["beta", "11"], []⟩ :=
  (precedence_eq_lt_iff (by decide +kernel) (by decide +kernel)).mp (by decide +kernel)

theorem SamePrecedence.not_precedes (same : left.SamePrecedence right) :
    ¬left.Precedes right := by
  rw [← precedence_eq_lt_iff leftValid rightValid,
    (precedence_eq_eq_iff leftValid rightValid).mpr same]
  decide

theorem order_eq_lt_iff :
    order left right = .lt ↔
      left.Precedes right ∨ left.SamePrecedence right ∧
        compareLists compareBuildIdentifiers left.build right.build = .lt := by
  rw [order, Ordering.then_eq_lt, precedence_eq_lt_iff leftValid rightValid,
    precedence_eq_eq_iff leftValid rightValid]

end Pair

end TacticalSymbols.Version

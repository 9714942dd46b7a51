import TacticalSymbols.Code.Reading

/-!
Where the axes of a scheme lie. Axes that may stand together in one code never share a place, and
the slot is taken up entirely by whatever it is read as.
-/

namespace TacticalSymbols

/-! ### Places -/

def Span.Covers (span : Span) (index : Nat) : Prop :=
  span.first ≤ index + 1 ∧ index + 1 ≤ span.last

instance (span : Span) (index : Nat) : Decidable (span.Covers index) :=
  inferInstanceAs (Decidable (_ ∧ _))

def Scheme.Covers (scheme : Scheme) (index : Nat) : Prop :=
  ∃ axis ∈ scheme.axes, axis.span.Covers index

instance (scheme : Scheme) (index : Nat) : Decidable (scheme.Covers index) :=
  inferInstanceAs (Decidable (∃ axis ∈ scheme.axes, axis.span.Covers index))

namespace Axis

theorem span_inside (axis : Axis) :
    1 ≤ axis.span.first ∧ axis.span.first ≤ axis.span.last ∧ axis.span.last ≤ codeLength := by
  cases axis <;> decide

theorem covers_iff_offset (axis : Axis) (index : Nat) :
    axis.span.Covers index ↔ ∃ offset, offset < axis.width ∧ index = axis.start - 1 + offset := by
  have inside := axis.span_inside
  unfold Span.Covers start width Span.width
  constructor
  · intro covered
    obtain ⟨after, before⟩ := covered
    exact ⟨index + 1 - axis.span.first, by omega, by omega⟩
  · intro reached
    obtain ⟨offset, within, same⟩ := reached
    omega

theorem lt_codeLength_of_covers (axis : Axis) (index : Nat) (covered : axis.span.Covers index) :
    index < codeLength := by
  have inside := axis.span_inside
  unfold Span.Covers at covered
  omega

end Axis

/-! ### Slices -/

theorem Span.map_slice (span : Span) (characters : List Char) (change : Char → Char) :
    (span.slice characters).map change = span.slice (characters.map change) := by
  unfold Span.slice
  rw [List.map_take, List.map_drop]

theorem Axis.getElem?_slice (axis : Axis) (characters : List Char) (offset : Nat)
    (within : offset < axis.width) :
    (axis.span.slice characters)[offset]? = characters[axis.start - 1 + offset]? := by
  change ((characters.drop (axis.start - 1)).take axis.width)[offset]? = _
  rw [List.getElem?_take_of_lt within, List.getElem?_drop]

theorem Axis.length_slice (axis : Axis) (characters : List Char)
    (full : characters.length = codeLength) :
    (axis.span.slice characters).length = axis.width := by
  have inside := axis.span_inside
  unfold Span.slice width Span.width
  rw [List.length_take, List.length_drop, full]
  omega

theorem Axis.allFiller_slice_iff (axis : Axis) (characters : List Char)
    (full : characters.length = codeLength) :
    allFiller (axis.span.slice characters) = true ↔
      ∀ index, axis.span.Covers index → characters[index]? = some filler := by
  have size := axis.length_slice characters full
  rw [allFiller, List.all_eq_true]
  constructor
  · intro blank index covered
    obtain ⟨offset, within, same⟩ := (axis.covers_iff_offset index).mp covered
    rw [same, ← axis.getElem?_slice characters offset within, List.getElem?_eq_getElem (by omega)]
    exact congrArg some (eq_of_beq (blank _ (List.getElem_mem _)))
  · intro blank character member
    obtain ⟨offset, within, same⟩ := List.getElem_of_mem member
    have found := blank (axis.start - 1 + offset)
      ((axis.covers_iff_offset _).mpr ⟨offset, by omega, rfl⟩)
    rw [← axis.getElem?_slice characters offset (by omega), List.getElem?_eq_getElem within,
      same, Option.some.injEq] at found
    exact beq_iff_eq.mpr found

/-! ### Axes together -/

namespace Axis

/-- Whether two axes may stand in one code: of the slot they make the same use, if any. -/
def Together (left right : Axis) : Prop :=
  left.inSlot = true → right.inSlot = true → left.slotUse? = right.slotUse?

instance (left right : Axis) : Decidable (left.Together right) :=
  inferInstanceAs (Decidable (_ → _))

def Apart (left right : Axis) : Prop :=
  left.span.last < right.span.first ∨ right.span.last < left.span.first

instance (left right : Axis) : Decidable (left.Apart right) :=
  inferInstanceAs (Decidable (_ ∨ _))

theorem Apart.not_covers {left right : Axis} (apart : left.Apart right) (index : Nat)
    (covered : left.span.Covers index) : ¬ right.span.Covers index := by
  unfold Apart at apart
  unfold Span.Covers at covered ⊢
  omega

private theorem placed_apart : ∀ scheme ∈ Scheme.all, ∀ left ∈ scheme.axes,
    ∀ right ∈ scheme.axes, left ≠ right → left.Together right → left.Apart right := by
  decide

theorem apart_of_uses (scheme : Scheme) (left right : Axis) (usesLeft : scheme.uses left = true)
    (usesRight : scheme.uses right = true) (different : left ≠ right)
    (together : left.Together right) : left.Apart right :=
  placed_apart scheme (Scheme.mem_all scheme) left (List.contains_iff_mem.mp usesLeft) right
    (List.contains_iff_mem.mp usesRight) different together

theorem apart_of_inSlot (left right : Axis) (inSlot : left.inSlot = true)
    (different : left ≠ right) (together : left.Together right) : left.Apart right := by
  cases left <;> cases right <;> revert inSlot different together <;> decide

end Axis

/-! ### Reading the slot -/

namespace CodeFields

theorem slotAxes_cases (tag : Char) :
    slotAxes tag = [.installation] ∨ slotAxes tag = [.mobility] ∨
      slotAxes tag = [.auxiliaryEquipment] ∨ slotAxes tag = [.unitEquipment, .echelon] := by
  unfold slotAxes
  by_cases isInstallation : tag = 'H'
  · exact .inl (if_pos isInstallation)
  · by_cases isMobility : tag = 'M'
    · exact .inr (.inl (by rw [if_neg isInstallation, if_pos isMobility]))
    · by_cases isAuxiliary : tag = 'N'
      · exact .inr (.inr (.inl (by rw [if_neg isInstallation, if_neg isMobility,
          if_pos isAuxiliary])))
      · exact .inr (.inr (.inr (by rw [if_neg isInstallation, if_neg isMobility,
          if_neg isAuxiliary])))

theorem inSlot_of_mem_slotAxes (tag : Char) (axis : Axis) (read : axis ∈ slotAxes tag) :
    axis.inSlot = true := by
  rcases slotAxes_cases tag with same | same | same | same <;> rw [same] at read <;>
    revert read <;> cases axis <;> decide

theorem together_of_mem_slotAxes (tag : Char) (left right : Axis)
    (readLeft : left ∈ slotAxes tag) (readRight : right ∈ slotAxes tag) :
    left.Together right := by
  rcases slotAxes_cases tag with same | same | same | same <;> rw [same] at readLeft readRight <;>
    revert readLeft readRight <;> cases left <;> cases right <;> decide

theorem exists_mem_slotAxes_covers (tag : Char) (axis : Axis) (inSlot : axis.inSlot = true)
    (index : Nat) (covered : axis.span.Covers index) :
    ∃ read ∈ slotAxes tag, read.span.Covers index := by
  have bounds : 11 ≤ axis.span.first ∧ axis.span.last ≤ 12 := by
    revert inSlot
    cases axis <;> decide
  have place : index = 10 ∨ index = 11 := by
    unfold Span.Covers at covered
    omega
  rcases slotAxes_cases tag with same | same | same | same <;> rw [same] <;>
    rcases place with first | second <;> subst index <;> decide

end CodeFields

end TacticalSymbols

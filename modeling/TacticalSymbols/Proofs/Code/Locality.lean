import Mathlib.Data.List.Basic
import TacticalSymbols.Proofs.Code.Reading

/-!
What reading depends on. A code is read the same as any other that has the same characters wherever
its scheme has an axis; what stands at the other places has no influence, nor has the case of letters.
-/

namespace TacticalSymbols

/-- The same characters wherever the scheme has an axis. -/
def Scheme.Alike (scheme : Scheme) (left right : List Char) : Prop :=
  ∀ index, scheme.Covers index → left[index]? = right[index]?

theorem Axis.slice_eq_of_covered (axis : Axis) (left right : List Char)
    (same : ∀ index, axis.span.Covers index → left[index]? = right[index]?) :
    axis.span.slice left = axis.span.slice right := by
  apply List.ext_getElem?
  intro offset
  by_cases within : offset < axis.width
  · rw [axis.getElem?_slice left offset within, axis.getElem?_slice right offset within]
    exact same _ ((axis.covers_iff_offset _).mpr ⟨offset, within, rfl⟩)
  · have behind : ∀ characters : List Char, (axis.span.slice characters)[offset]? = none := by
      intro characters
      have short : (axis.span.slice characters).length ≤ axis.width := List.length_take_le _ _
      exact List.getElem?_eq_none (by omega)
    rw [behind left, behind right]

namespace CodeFields

/-! ### Which axes are read -/

private theorem slot_covered : ∀ scheme ∈ Scheme.all, scheme.axes.any Axis.inSlot = true →
    ∀ axis ∈ Axis.all, axis.inSlot = true → ∀ index < codeLength,
      axis.span.Covers index → scheme.Covers index := by
  decide

/-- A scheme that uses the slot at all has an axis at every place of it, so that the axes it lacks
are read from places that it covers. -/
private theorem covers_of_mem_axesRead (scheme : Scheme) (tag : Char) (axis : Axis)
    (read : axis ∈ axesRead scheme tag) (index : Nat) (covered : axis.span.Covers index) :
    scheme.Covers index := by
  rcases (mem_axesRead_iff scheme tag axis).mp read with ⟨used, _notScheme, _outside⟩ | ⟨hasSlot, member⟩
  · exact ⟨axis, List.contains_iff_mem.mp used, covered⟩
  · exact slot_covered scheme (Scheme.mem_all scheme) hasSlot axis (Axis.mem_all axis)
      (inSlot_of_mem_slotAxes tag axis member) index (axis.lt_codeLength_of_covers index covered)
      covered

section Alike

variable {scheme : Scheme} {left right : List Char} (alike : scheme.Alike left right)

include alike

private theorem axesRead_eq_of_alike :
    axesRead scheme (slotTag left) = axesRead scheme (slotTag right) := by
  unfold axesRead
  by_cases hasSlot : scheme.axes.any Axis.inSlot = true
  · have tagCovered : scheme.Covers (Axis.unitEquipment.start - 1) :=
      slot_covered scheme (Scheme.mem_all scheme) hasSlot .unitEquipment (Axis.mem_all _) rfl _
        (by decide) (by decide)
    have sameTag : slotTag left = slotTag right := by
      unfold slotTag
      rw [List.getD_eq_getElem?_getD, List.getD_eq_getElem?_getD, alike _ tagCovered]
    rw [sameTag]
  · rw [if_neg hasSlot, if_neg hasSlot]

private theorem readFields_eq_of_alike : readFields scheme left = readFields scheme right := by
  unfold readFields
  rw [axesRead_eq_of_alike alike]
  apply List.foldl_ext
  intro reading axis read
  have sameSlice := axis.slice_eq_of_covered left right
    (fun index covered => alike index (covers_of_mem_axesRead scheme _ axis read index covered))
  unfold Reading.next
  rw [sameSlice]

private theorem schemeSlice_eq_of_alike :
    Axis.scheme.span.slice left = Axis.scheme.span.slice right :=
  Axis.scheme.slice_eq_of_covered left right (fun index covered =>
    alike index ⟨.scheme, by cases scheme <;> decide, covered⟩)

theorem ofCapitals_eq_of_alike (leftFull : left.length = codeLength)
    (rightFull : right.length = codeLength)
    (named : Scheme.ofToken? (String.ofList (Axis.scheme.span.slice left)) = some scheme) :
    ofCapitals left = ofCapitals right := by
  have alsoNamed := named
  rw [schemeSlice_eq_of_alike alike] at alsoNamed
  unfold ofCapitals
  rw [if_neg (by simp [leftFull]), if_neg (by simp [rightFull])]
  simp only [named, alsoNamed, readFields_eq_of_alike alike]

end Alike

/-! ### Whole codes -/

/-- Of codes that differ in the case of letters and at places that their scheme leaves unused, one is
read as the other: with the same fields, or with the same failure and all that it reports. Where the
first character names no scheme nothing else is looked at. -/
theorem decode_eq_of_alike (left right : String) (leftFull : left.length = codeLength)
    (rightFull : right.length = codeLength)
    (sameFirst : (Text.upper left).toList[0]? = (Text.upper right).toList[0]?)
    (alike : ∀ scheme,
      Scheme.ofToken? (String.ofList (Axis.scheme.span.slice left.toList)) = some scheme →
        scheme.Alike (Text.upper left).toList (Text.upper right).toList) :
    decode left = decode right := by
  have sameSlice : Axis.scheme.span.slice (Text.upper left).toList =
      Axis.scheme.span.slice (Text.upper right).toList := by
    apply Axis.scheme.slice_eq_of_covered
    intro index covered
    have isFirst : index = 0 := Nat.le_zero.mp (Nat.le_of_succ_le_succ covered.2)
    rw [isFirst]
    exact sameFirst
  have leftCapitals : (Text.upper left).toList.length = codeLength := by
    rw [Text.upper_toList, List.length_map, String.length_toList, leftFull]
  have rightCapitals : (Text.upper right).toList.length = codeLength := by
    rw [Text.upper_toList, List.length_map, String.length_toList, rightFull]
  unfold decode
  rw [← Text.upper_toList, ← Text.upper_toList]
  cases named : Scheme.ofToken? (String.ofList (Axis.scheme.span.slice (Text.upper left).toList)) with
  | none =>
      have alsoNamed := named
      rw [sameSlice] at alsoNamed
      unfold ofCapitals
      rw [if_neg (by simp [leftCapitals]), if_neg (by simp [rightCapitals])]
      simp only [sameSlice, alsoNamed]
  | some scheme =>
      apply ofCapitals_eq_of_alike (alike scheme ?_) leftCapitals rightCapitals named
      rw [← Scheme.ofToken?_upper, Text.upper, String.toList_ofList, Span.map_slice,
        ← Text.upper_toList]
      exact named

/-- Both weather codes hold the same illegal status, and what they have around status and function id
is not looked at. -/
theorem decode_eq_of_alike_weather :
    decode "wxszpl----h----" = decode "Wé-ZPL----ßNS2ü" ∧
      ∃ valid, decode "Wé-ZPL----ßNS2ü" =
        .error (.invalidFields [⟨.status, "Z", 4, ["A", "S", "P", "K"]⟩] valid) := by
  refine ⟨decode_eq_of_alike _ _ rfl rfl (by decide) ?_, _, rfl⟩
  intro scheme named
  have isWeather : Scheme.ofToken? (String.ofList
      (Axis.scheme.span.slice "wxszpl----h----".toList)) = some .metoc := by decide
  rw [isWeather] at named
  cases named
  have same : ∀ index < codeLength, Scheme.metoc.Covers index →
      (Text.upper "wxszpl----h----").toList[index]? =
        (Text.upper "Wé-ZPL----ßNS2ü").toList[index]? := by
    decide
  intro index covered
  obtain ⟨axis, placed, covers⟩ := covered
  exact same index (axis.lt_codeLength_of_covers index covers) ⟨axis, placed, covers⟩

end CodeFields

end TacticalSymbols

import TacticalSymbols.Proofs.Graphic.Recoding
import TacticalSymbols.Proofs.Graphic.WriteRefusal

/-!
The codes of graphics whose type stores modifiers. Such a code has the modifier slot, and then its
scheme has an axis at every place. The code is in capitals besides, so it is exactly what its fields are
written as, although it may have come from outside.
-/

namespace TacticalSymbols

private theorem slot_covers_all : ∀ scheme ∈ Scheme.all, scheme.axes.any Axis.inSlot = true →
    ∀ index < codeLength, scheme.Covers index := by
  decide

private theorem Scheme.covers_of_uses_inSlot (scheme : Scheme) (axis : Axis)
    (used : scheme.uses axis = true) (inSlot : axis.inSlot = true) (index : Nat)
    (within : index < codeLength) : scheme.Covers index :=
  slot_covers_all scheme (Scheme.mem_all scheme)
    (List.any_eq_true.mpr ⟨axis, List.contains_iff_mem.mp used, inSlot⟩) index within

namespace CodeFields

/-- A code in capitals that has no unused place is what its fields are written as. -/
private theorem encode_of_reads (scheme : Scheme) (text : String) (fields : CodeFields)
    (capital : Text.upper text = text) (reads : Reads scheme text.toList fields)
    (covered : ∀ index < codeLength, scheme.Covers index) : fields.encode = .ok text := by
  have same : sheet fields.cells = text.toList := by
    apply List.ext_getElem?
    intro index
    by_cases within : index < codeLength
    · rw [getElem?_sheet_of_reads reads (by rw [← Text.upper_toList, capital]) index within,
        if_pos (covered index within)]
    · rw [List.getElem?_eq_none (by rw [length_sheet]; omega),
        List.getElem?_eq_none (by rw [reads.full]; omega)]
  refine (encode_eq_ok_iff fields text).mpr
    ⟨scheme, scheme?_of_reads reads, writable_of_reads reads, ?_⟩
  rw [same, String.ofList_toList]

end CodeFields

namespace Graphic

private theorem Effect.capital {before after : Graphic} (effect : Effect before after)
    (capital : Text.upper before.identifier = before.identifier) :
    Text.upper after.identifier = after.identifier := by
  cases effect with
  | recoded text fields _read _describes => exact Text.upper_upper text
  | edited identifier fields _edit written => exact fields.upper_of_written identifier written
  | _ => exact capital

theorem Reachable.capital {graphic : Graphic} (reachable : graphic.Reachable) :
    Text.upper graphic.identifier = graphic.identifier := by
  obtain ⟨text, descriptor, positions, made, operations, isNew, same⟩ := reachable
  obtain ⟨fields, _read, _describes, _counted, begun⟩ := (new_eq_ok_iff _ _ _ _).mp isNew
  rw [← same, ← begun]
  exact run_induction (fun _ _ holds effect => effect.capital holds) operations _
    (Text.upper_upper text)

theorem Reachable.encode_eq {graphic : Graphic} (reachable : graphic.Reachable) (axis : Axis)
    (used : graphic.descriptor.scheme.uses axis = true) (inSlot : axis.inSlot = true) :
    graphic.fields.encode = .ok graphic.identifier := by
  have capital := reachable.capital
  have coherent := reachable.coherent
  obtain ⟨scheme, reads⟩ := (CodeFields.decode_eq_ok_iff _ _).mp coherent.readBack
  have named := Option.some.inj
    ((CodeFields.scheme?_of_reads reads).symm.trans coherent.ready.named)
  rw [← Text.upper_toList, capital] at reads
  apply CodeFields.encode_of_reads scheme graphic.identifier graphic.fields capital reads
  rw [named]
  exact Scheme.covers_of_uses_inSlot _ axis used inSlot

end Graphic

end TacticalSymbols

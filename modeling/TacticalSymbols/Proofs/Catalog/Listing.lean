import TacticalSymbols.Proofs.Catalog.Lookup

/-!
What a catalog in use holds: descriptors without fault, one at most for each id and for each graphic
type, every one of them in the index under the name of its type and nothing else there, and all of
them listed once by increasing id.
-/

namespace TacticalSymbols

/-- What a graphic type is told by. An open dimension is not the dimension of any token. -/
def Descriptor.graphicType (descriptor : Descriptor) : Scheme × Option String × String :=
  (descriptor.scheme, descriptor.dimension?, descriptor.functionId)

private theorem Descriptor.ownTypeName_eq_of_graphicType (left right : Descriptor)
    (same : left.graphicType = right.graphicType) : left.ownTypeName = right.ownTypeName := by
  obtain ⟨sameScheme, sameRest⟩ := Prod.ext_iff.mp same
  obtain ⟨sameDimension, sameFunction⟩ := Prod.ext_iff.mp sameRest
  change left.scheme = right.scheme at sameScheme
  change left.dimension? = right.dimension? at sameDimension
  change left.functionId = right.functionId at sameFunction
  unfold ownTypeName
  rw [sameScheme, sameDimension, sameFunction]

namespace Catalog

theorem check_eq_ok_iff (descriptor : Descriptor) :
    check descriptor = .ok () ↔ descriptor.fault? = none := by
  unfold check
  cases descriptor.fault? <;> simp

/-! ### Faultless descriptors -/

def Sound (catalog : Catalog) : Prop :=
  ∀ (id : String) (descriptor : Descriptor),
    catalog.get? id = some descriptor → descriptor.fault? = none

theorem Sound.insert {catalog : Catalog} (sound : catalog.Sound) (indexed : catalog.Indexed)
    (descriptor : Descriptor) (faultless : descriptor.fault? = none) :
    (catalog.insert descriptor).Sound := by
  intro id held found
  unfold get? at found
  rw [indexed.byId_insert] at found
  split at found
  · cases found
    exact faultless
  · exact sound id held (Option.filter_eq_some_iff.mp found).1

theorem sound_of_reachable (catalog : Catalog) (reachable : catalog.Reachable) : catalog.Sound := by
  have start : empty.Indexed ∧ empty.Sound :=
    ⟨empty_indexed, by intro id held found; simp [get?, empty] at found⟩
  have both : catalog.Indexed ∧ catalog.Sound := by
    apply reachable.induction _ start
    intro before descriptor holds faultless
    exact ⟨holds.1.insert descriptor, holds.2.insert holds.1 descriptor faultless⟩
  exact both.2

/-! ### Lists -/

theorem length_toList (catalog : Catalog) : catalog.toList.length = catalog.size := by
  unfold toList size
  rw [List.length_map, Std.ExtTreeMap.length_toList]

/-- The ids are the keys of the map, so the order of the keys is that of the ids. -/
private theorem Indexed.pairwise_toList {catalog : Catalog} (indexed : catalog.Indexed) :
    catalog.toList.Pairwise (fun left right => left.id < right.id) := by
  unfold toList
  rw [List.pairwise_map]
  refine Std.ExtTreeMap.ordered_keys_toList.imp_of_mem ?_
  intro left right leftListed rightListed before
  rw [indexed.own left.1 left.2 (Std.ExtTreeMap.mem_toList_iff_getElem?_eq_some.mp leftListed),
    indexed.own right.1 right.2 (Std.ExtTreeMap.mem_toList_iff_getElem?_eq_some.mp rightListed)]
  exact compareOfLessAndEq_eq_lt.mp before

theorem Indexed.nodup_toList {catalog : Catalog} (indexed : catalog.Indexed) :
    catalog.toList.Nodup := by
  apply indexed.pairwise_toList.imp
  intro left right before same
  rw [same] at before
  exact String.lt_irrefl _ before

private theorem Indexed.count_toList {catalog : Catalog} (indexed : catalog.Indexed)
    (descriptor : Descriptor) :
    catalog.toList.count descriptor =
      if catalog.get? descriptor.id = some descriptor then 1 else 0 := by
  rw [indexed.nodup_toList.count]
  simp only [mem_toList_iff indexed]

private theorem Indexed.eq_of_id {catalog : Catalog} (indexed : catalog.Indexed)
    (left right : Descriptor) (leftListed : left ∈ catalog.toList)
    (rightListed : right ∈ catalog.toList) (same : left.id = right.id) :
    left = right := by
  rw [mem_toList_iff indexed] at leftListed rightListed
  rw [same, rightListed] at leftListed
  exact (Option.some.inj leftListed).symm

/-- In a catalog in use every descriptor is held under its own id, stands in the index under the name
of its type, and is faultless; the index has nothing else. So no two descriptors have the same id or
are for the same type, and the list has each of them once, by increasing id. -/
theorem index_inverse_of_reachable (catalog : Catalog) (reachable : catalog.Reachable) :
    (∀ id descriptor, catalog.get? id = some descriptor →
        descriptor.id = id ∧ catalog.index[descriptor.ownTypeName]? = some id ∧
          check descriptor = .ok ()) ∧
      (∀ name id : String, catalog.index[name]? = some id →
        ∃ descriptor, catalog.get? id = some descriptor ∧ descriptor.ownTypeName = name) ∧
      (∀ left ∈ catalog.toList, ∀ right ∈ catalog.toList,
        left.id = right.id ∨ left.graphicType = right.graphicType → left = right) ∧
      catalog.toList.Pairwise (fun left right => left.id < right.id) ∧
      (∀ descriptor, catalog.toList.count descriptor =
        if catalog.get? descriptor.id = some descriptor then 1 else 0) ∧
      catalog.toList.length = catalog.size := by
  have indexed := indexed_of_reachable catalog reachable
  have sound := sound_of_reachable catalog reachable
  refine ⟨?_, ?_, ?_, indexed.pairwise_toList, indexed.count_toList, catalog.length_toList⟩
  · intro id descriptor held
    exact ⟨indexed.own id descriptor held, (indexed.named _ id).mpr ⟨descriptor, held, rfl⟩,
      (check_eq_ok_iff descriptor).mpr (sound id descriptor held)⟩
  · intro name id entered
    exact (indexed.named name id).mp entered
  · intro left leftListed right rightListed same
    rcases same with sameId | sameType
    · exact indexed.eq_of_id left right leftListed rightListed sameId
    · exact eq_of_ownTypeName indexed left right leftListed rightListed
        (left.ownTypeName_eq_of_graphicType right sameType)

/-- A boundary under the id of the phase line takes the place of both, so the list is one shorter,
and it still is in order. -/
theorem index_inverse_of_reachable_twoDisplaced :
    let boundary : Descriptor :=
      { lineType .tacticalGraphics (some "G") "GLB---" "Border" [] with id := "G*G*GLP---" }
    let catalog := run standard [.add boundary]
    catalog.Reachable ∧ catalog.size + 1 = standard.size ∧
      catalog.toList.Pairwise (fun left right => left.id < right.id) ∧
      catalog.toList.length = catalog.size := by
  intro boundary catalog
  have reachable : catalog.Reachable := ⟨_, .inr rfl⟩
  obtain ⟨_held, _entered, _single, ordered, _counted, length⟩ :=
    index_inverse_of_reachable catalog reachable
  exact ⟨reachable, by decide +kernel, ordered, length⟩

end Catalog

end TacticalSymbols

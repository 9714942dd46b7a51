import TacticalSymbols.Proofs.Catalog.Loading

/-!
What a catalog holds after a file is loaded. Descriptors of one id or of one name of type collide:
a catalog has room for one of them, and the later takes the place of the earlier. So of the
descriptors of a file those stay that collide with none behind them, and of those that were there
before the ones that collide with none of the file, however many of them push each other out on the
way.
-/

namespace TacticalSymbols

namespace Descriptor

/-- A catalog has no room for both. An open dimension counts as the dimension star. -/
def Collides (left right : Descriptor) : Prop :=
  left.id = right.id ∨
    (left.scheme = right.scheme ∧ left.functionId = right.functionId ∧
      left.dimension?.getD "*" = right.dimension?.getD "*")

instance (left right : Descriptor) : Decidable (left.Collides right) :=
  inferInstanceAs (Decidable (_ ∨ _))

theorem Collides.symm {left right : Descriptor} (collides : left.Collides right) :
    right.Collides left := by
  rcases collides with sameId | ⟨sameScheme, sameFunction, sameDimension⟩
  · exact .inl sameId.symm
  · exact .inr ⟨sameScheme.symm, sameFunction.symm, sameDimension.symm⟩

private theorem collides_iff_ownTypeName (left right : Descriptor)
    (leftFaultless : left.fault? = none) (rightFaultless : right.fault? = none) :
    left.Collides right ↔ left.id = right.id ∨ left.ownTypeName = right.ownTypeName := by
  rw [left.ownTypeName_eq_iff right leftFaultless rightFaultless, Collides,
    and_comm (a := left.functionId = right.functionId)]

/-- The descriptor stands in the list, and none behind it collides with it. -/
def Lasts (descriptors : List Descriptor) (descriptor : Descriptor) : Prop :=
  ∃ before after, descriptors = before ++ descriptor :: after ∧
    ∀ later ∈ after, ¬ descriptor.Collides later

private theorem not_lasts_nil (descriptor : Descriptor) : ¬ Lasts [] descriptor := by
  intro lasts
  obtain ⟨before, after, listed, _⟩ := lasts
  simp at listed

private theorem lasts_cons_iff (first : Descriptor) (rest : List Descriptor)
    (descriptor : Descriptor) :
    Lasts (first :: rest) descriptor ↔
      Lasts rest descriptor ∨
        (descriptor = first ∧ ∀ later ∈ rest, ¬ descriptor.Collides later) := by
  constructor
  · intro lasts
    obtain ⟨before, after, listed, alone⟩ := lasts
    cases before with
    | nil =>
        cases listed
        exact .inr ⟨rfl, alone⟩
    | cons head tail =>
        cases listed
        exact .inl ⟨tail, after, rfl, alone⟩
  · intro lasts
    rcases lasts with ⟨before, after, listed, alone⟩ | ⟨isFirst, alone⟩
    · exact ⟨first :: before, after, by rw [listed]; rfl, alone⟩
    · exact ⟨[], rest, by rw [isFirst]; rfl, alone⟩

instance decidableLasts (descriptor : Descriptor) :
    (descriptors : List Descriptor) → Decidable (Lasts descriptors descriptor)
  | [] => .isFalse (not_lasts_nil descriptor)
  | first :: rest =>
      have := decidableLasts descriptor rest
      decidable_of_iff _ (lasts_cons_iff first rest descriptor).symm

theorem Lasts.mem {descriptors : List Descriptor} {descriptor : Descriptor}
    (lasts : Lasts descriptors descriptor) : descriptor ∈ descriptors := by
  obtain ⟨before, after, listed, _⟩ := lasts
  rw [listed]
  exact List.mem_append_right before List.mem_cons_self

end Descriptor

namespace Catalog

/-! ### Catalogs by what they hold -/

private theorem Indexed.byId_eq_some_iff {catalog : Catalog} (indexed : catalog.Indexed)
    (id : String) (descriptor : Descriptor) :
    catalog.byId[id]? = some descriptor ↔ descriptor ∈ catalog.toList ∧ descriptor.id = id := by
  rw [mem_toList_iff indexed]
  constructor
  · intro held
    have own := indexed.own id descriptor held
    exact ⟨by rw [own]; exact held, own⟩
  · intro listed
    rw [← listed.2]
    exact listed.1

/-- The index follows from the descriptors, so a catalog is no more than what it holds. -/
private theorem Indexed.eq_of_toList {left right : Catalog} (leftIndexed : left.Indexed)
    (rightIndexed : right.Indexed)
    (same : ∀ descriptor, descriptor ∈ left.toList ↔ descriptor ∈ right.toList) : left = right := by
  have sameHeld : ∀ (id : String) (descriptor : Descriptor),
      left.byId[id]? = some descriptor ↔ right.byId[id]? = some descriptor := by
    intro id descriptor
    rw [leftIndexed.byId_eq_some_iff, rightIndexed.byId_eq_some_iff, same]
  apply Catalog.ext
  · apply Std.ExtTreeMap.ext_getElem?
    intro id
    exact Option.ext (sameHeld id)
  · apply Std.ExtTreeMap.ext_getElem?
    intro name
    apply Option.ext
    intro id
    rw [leftIndexed.named, rightIndexed.named]
    simp only [sameHeld]

/-! ### What stays -/

/-- What an addition keeps of a catalog: the two maps agree, and no descriptor has a fault. -/
def InOrder (catalog : Catalog) : Prop :=
  catalog.Indexed ∧ catalog.Sound

theorem inOrder_of_reachable (catalog : Catalog) (reachable : catalog.Reachable) :
    catalog.InOrder :=
  ⟨indexed_of_reachable catalog reachable, sound_of_reachable catalog reachable⟩

theorem InOrder.insert (catalog : Catalog) (descriptor : Descriptor) (inOrder : catalog.InOrder)
    (faultless : descriptor.fault? = none) : (catalog.insert descriptor).InOrder :=
  ⟨inOrder.1.insert descriptor, inOrder.2.insert inOrder.1 descriptor faultless⟩

theorem InOrder.insertAll {catalog : Catalog} (inOrder : catalog.InOrder)
    (descriptors : List Descriptor)
    (faultless : ∀ descriptor ∈ descriptors, descriptor.fault? = none) :
    (catalog.insertAll descriptors).InOrder :=
  insertAll_induction InOrder.insert descriptors catalog faultless inOrder

theorem InOrder.mem_insert_iff {catalog : Catalog} (inOrder : catalog.InOrder)
    (added descriptor : Descriptor) (faultless : added.fault? = none) :
    descriptor ∈ (catalog.insert added).toList ↔
      descriptor = added ∨ (descriptor ∈ catalog.toList ∧ ¬ descriptor.Collides added) := by
  obtain ⟨indexed, sound⟩ := inOrder
  rw [mem_toList_iff (indexed.insert added)]
  by_cases listed : descriptor ∈ catalog.toList
  · have ownFaultless := sound descriptor.id descriptor ((mem_toList_iff indexed _).mp listed)
    rw [and_iff_right listed, descriptor.collides_iff_ownTypeName added ownFaultless faultless]
    by_cases sameId : descriptor.id = added.id
    · rw [sameId, get?_insert_self indexed added]
      simp [eq_comm]
    · have different : descriptor ≠ added := fun same => sameId (congrArg Descriptor.id same)
      rw [get?_insert_of_ne indexed added descriptor listed sameId]
      simp [sameId, different]
  · rw [← mem_toList_iff (indexed.insert added)]
    constructor
    · intro stays
      exact .inl ((mem_toList_of_mem_insert indexed added descriptor stays).resolve_right listed)
    · intro stays
      rcases stays with isAdded | ⟨wasListed, _⟩
      · rw [isAdded, mem_toList_iff (indexed.insert added)]
        exact get?_insert_self indexed added
      · exact absurd wasListed listed

theorem InOrder.mem_insertAll_iff {catalog : Catalog} (inOrder : catalog.InOrder)
    (descriptors : List Descriptor)
    (faultless : ∀ descriptor ∈ descriptors, descriptor.fault? = none) (descriptor : Descriptor) :
    descriptor ∈ (catalog.insertAll descriptors).toList ↔
      Descriptor.Lasts descriptors descriptor ∨
        (descriptor ∈ catalog.toList ∧ ∀ listed ∈ descriptors, ¬ descriptor.Collides listed) := by
  induction descriptors generalizing catalog with
  | nil =>
      change descriptor ∈ catalog.toList ↔ _
      simp [Descriptor.not_lasts_nil]
  | cons first rest ih =>
      obtain ⟨firstFaultless, restFaultless⟩ := List.forall_mem_cons.mp faultless
      change descriptor ∈ ((catalog.insert first).insertAll rest).toList ↔ _
      rw [ih (inOrder.insert catalog first firstFaultless) restFaultless,
        inOrder.mem_insert_iff first descriptor firstFaultless, Descriptor.lasts_cons_iff,
        List.forall_mem_cons, or_and_right, or_assoc, and_assoc]

/-! ### Loading more than once -/

theorem InOrder.insertAll_again {catalog : Catalog} (inOrder : catalog.InOrder)
    (descriptors : List Descriptor)
    (faultless : ∀ descriptor ∈ descriptors, descriptor.fault? = none) :
    (catalog.insertAll descriptors).insertAll descriptors = catalog.insertAll descriptors := by
  have once := inOrder.insertAll descriptors faultless
  apply (once.insertAll descriptors faultless).1.eq_of_toList once.1
  intro descriptor
  rw [once.mem_insertAll_iff descriptors faultless, inOrder.mem_insertAll_iff descriptors faultless]
  constructor
  · intro stays
    rcases stays with lasts | ⟨held, _⟩
    · exact .inl lasts
    · exact held
  · intro held
    rcases held with lasts | ⟨was, apart⟩
    · exact .inl lasts
    · exact .inr ⟨.inr ⟨was, apart⟩, apart⟩

theorem InOrder.insertAll_comm {catalog : Catalog} (inOrder : catalog.InOrder)
    (lefts rights : List Descriptor) (leftFaultless : ∀ left ∈ lefts, left.fault? = none)
    (rightFaultless : ∀ right ∈ rights, right.fault? = none)
    (apart : ∀ left ∈ lefts, ∀ right ∈ rights, ¬ left.Collides right) :
    (catalog.insertAll lefts).insertAll rights = (catalog.insertAll rights).insertAll lefts := by
  have withLefts := inOrder.insertAll lefts leftFaultless
  have withRights := inOrder.insertAll rights rightFaultless
  apply (withLefts.insertAll rights rightFaultless).1.eq_of_toList
    (withRights.insertAll lefts leftFaultless).1
  intro descriptor
  have leftApart : Descriptor.Lasts lefts descriptor →
      ∀ right ∈ rights, ¬ descriptor.Collides right :=
    fun lasts => apart descriptor lasts.mem
  have rightApart : Descriptor.Lasts rights descriptor →
      ∀ left ∈ lefts, ¬ descriptor.Collides left :=
    fun lasts left listed collides => apart left listed descriptor lasts.mem collides.symm
  rw [withLefts.mem_insertAll_iff rights rightFaultless,
    withRights.mem_insertAll_iff lefts leftFaultless,
    inOrder.mem_insertAll_iff lefts leftFaultless, inOrder.mem_insertAll_iff rights rightFaultless]
  constructor
  · intro stays
    rcases stays with lasts | ⟨lasts | ⟨was, fromLefts⟩, fromRights⟩
    · exact .inr ⟨.inl lasts, rightApart lasts⟩
    · exact .inl lasts
    · exact .inr ⟨.inr ⟨was, fromRights⟩, fromLefts⟩
  · intro stays
    rcases stays with lasts | ⟨lasts | ⟨was, fromRights⟩, fromLefts⟩
    · exact .inr ⟨.inl lasts, leftApart lasts⟩
    · exact .inl lasts
    · exact .inr ⟨.inr ⟨was, fromLefts⟩, fromRights⟩

/-- Of the descriptors of a loaded file those stay that collide with none behind them, beside those
that were there and collide with none of the file. So loading the file once more changes nothing,
and of two files without a collision between them it does not matter which comes first. -/
theorem mem_toList_of_load (catalog : Catalog) (reachable : catalog.Reachable)
    (name content : String) (file : CatalogDocument) (count : Nat) (left : Catalog)
    (read : CatalogDocument.parse? content = some file)
    (loaded : Update.run (load name content) catalog = (.ok count, left)) :
    (∀ descriptor, descriptor ∈ left.toList ↔
        Descriptor.Lasts file.descriptors descriptor ∨
          (descriptor ∈ catalog.toList ∧
            ∀ listed ∈ file.descriptors, ¬ descriptor.Collides listed)) ∧
      (∀ again, Update.run (load again content) left = (.ok count, left)) ∧
      ∀ otherName otherContent otherFile otherCount otherLeft,
        CatalogDocument.parse? otherContent = some otherFile →
          Update.run (load otherName otherContent) catalog = (.ok otherCount, otherLeft) →
            (∀ listed ∈ file.descriptors, ∀ other ∈ otherFile.descriptors,
              ¬ listed.Collides other) →
              ∃ both, Update.run (load otherName otherContent) left = (.ok otherCount, both) ∧
                Update.run (load name content) otherLeft = (.ok count, both) := by
  have inOrder := inOrder_of_reachable catalog reachable
  obtain ⟨loadable, isCount, isLeft⟩ :=
    run_load_of_read name content catalog left file count read loaded
  subst isLeft
  refine ⟨inOrder.mem_insertAll_iff file.descriptors loadable.faultless, ?_, ?_⟩
  · intro again
    rw [run_load_eq_ok_iff]
    exact ⟨file, loadable, isCount,
      (inOrder.insertAll_again file.descriptors loadable.faultless).symm⟩
  · intro otherName otherContent otherFile otherCount otherLeft otherRead otherLoaded apart
    obtain ⟨otherLoadable, isOtherCount, isOtherLeft⟩ :=
      run_load_of_read otherName otherContent catalog otherLeft otherFile otherCount otherRead
        otherLoaded
    subst isOtherLeft
    refine ⟨_, (run_load_eq_ok_iff _ _ _ _ _).mpr ⟨otherFile, otherLoadable, isOtherCount, rfl⟩, ?_⟩
    rw [run_load_eq_ok_iff]
    exact ⟨file, loadable, isCount, inOrder.insertAll_comm file.descriptors otherFile.descriptors
      loadable.faultless otherLoadable.faultless apart⟩

/-- Of three descriptors in a file the second pushes out the first, which has its id, and the
standard low pressure centre, which is open where it has a star; the third then pushes out the
second. -/
theorem mem_toList_of_load_chain :
    let content := "[\"\",\"1.0.0\",[" ++
      "[\"x\",\"\",\"metoc\",null,\"CE----\",\"point\",[\"exactly\",1]]," ++
      "[\"x\",\"\",\"metoc\",\"*\",\"PL----\",\"point\",[\"exactly\",1]]," ++
      "[\"y\",\"\",\"metoc\",null,\"PL----\",\"point\",[\"exactly\",1]]]]"
    let other := "[\"\",\"1.0.0\",[[\"z\",\"\",\"metoc\",null,\"CF----\",\"point\",[\"exactly\",1]]]]"
    let first : Descriptor := { pointType .metoc none "CE----" "" [] with id := "x" }
    let second : Descriptor := { pointType .metoc (some "*") "PL----" "" [] with id := "x" }
    let third : Descriptor := { pointType .metoc none "PL----" "" [] with id := "y" }
    let fourth : Descriptor := { pointType .metoc none "CF----" "" [] with id := "z" }
    ∃ left otherLeft both, standard.Reachable ∧
      CatalogDocument.parse? content = some ⟨"", "1.0.0", [first, second, third]⟩ ∧
      CatalogDocument.parse? other = some ⟨"", "1.0.0", [fourth]⟩ ∧
      Update.run (load "chain" content) standard = (.ok 3, left) ∧
      Update.run (load "other" other) standard = (.ok 1, otherLeft) ∧
      first ∉ left.toList ∧ second ∉ left.toList ∧ third ∈ left.toList ∧
      pointType .metoc none "PL----" "Low Pressure Center" [.text] ∉ left.toList ∧
      lineType .tacticalGraphics (some "G") "GLP---" "Phase Line" lineModifiers ∈ left.toList ∧
      Update.run (load "again" content) left = (.ok 3, left) ∧
      Update.run (load "other" other) left = (.ok 1, both) ∧
      Update.run (load "chain" content) otherLeft = (.ok 3, both) := by
  intro content other first second third fourth
  have read : CatalogDocument.parse? content = some ⟨"", "1.0.0", [first, second, third]⟩ := by
    decide +kernel
  have otherRead : CatalogDocument.parse? other = some ⟨"", "1.0.0", [fourth]⟩ := by
    decide +kernel
  have serves : Serves "1.0.0" := ⟨engine, parse?_engineVersion, by decide⟩
  have loaded := run_load_of_loadable "chain" ⟨read, serves, by decide +kernel⟩ standard
  have otherLoaded := run_load_of_loadable "other" ⟨otherRead, serves, by decide +kernel⟩ standard
  obtain ⟨held, again, swapped⟩ :=
    mem_toList_of_load standard reachable_standard "chain" content _ 3 _ read loaded
  obtain ⟨both, afterwards, before⟩ :=
    swapped "other" other _ 1 _ otherRead otherLoaded (by decide)
  refine ⟨_, _, both, reachable_standard, read, otherRead, loaded, otherLoaded, ?_, ?_, ?_, ?_, ?_,
    again "again", afterwards, before⟩
  · rw [held]
    decide +kernel
  · rw [held]
    decide +kernel
  · rw [held]
    decide +kernel
  · rw [held]
    decide +kernel
  · rw [held]
    decide +kernel

end Catalog

end TacticalSymbols

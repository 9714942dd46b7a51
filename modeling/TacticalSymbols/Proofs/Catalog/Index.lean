import TacticalSymbols.Proofs.Catalog.Use

/-!
The index of a catalog. In every catalog that operations can make, the index names exactly the types
of the descriptors that the catalog holds, each under its own id.
-/

namespace TacticalSymbols.Catalog

/-! ### The two maps -/

/-- Each descriptor is held under its own id, and the index has the ids by the names of the types. -/
structure Indexed (catalog : Catalog) : Prop where
  own : ∀ (id : String) (descriptor : Descriptor),
    catalog.byId[id]? = some descriptor → descriptor.id = id
  named : ∀ name id : String, catalog.index[name]? = some id ↔
    ∃ descriptor, catalog.byId[id]? = some descriptor ∧ descriptor.ownTypeName = name

theorem empty_indexed : Indexed empty := by
  constructor
  · intro id descriptor held
    simp [empty] at held
  · intro name id
    simp [empty]

theorem Indexed.id_eq_of_ownTypeName {catalog : Catalog} (indexed : catalog.Indexed)
    {leftId rightId : String} {left right : Descriptor}
    (leftHeld : catalog.byId[leftId]? = some left) (rightHeld : catalog.byId[rightId]? = some right)
    (same : left.ownTypeName = right.ownTypeName) : leftId = rightId := by
  have leftNamed := (indexed.named right.ownTypeName leftId).mpr ⟨left, leftHeld, same⟩
  have rightNamed := (indexed.named right.ownTypeName rightId).mpr ⟨right, rightHeld, rfl⟩
  rw [leftNamed] at rightNamed
  exact Option.some.inj rightNamed

private theorem getElem?_erase_string {β : Type} (map : Std.ExtTreeMap String β)
    (erased key : String) :
    (map.erase erased)[key]? = if key = erased then none else map[key]? := by
  rw [Std.ExtTreeMap.getElem?_erase]
  simp only [Std.compare_eq_iff_eq, eq_comm (a := erased)]

private theorem getElem?_insert_string {β : Type} (map : Std.ExtTreeMap String β)
    (put key : String) (value : β) :
    (map.insert put value)[key]? = if key = put then some value else map[key]? := by
  rw [Std.ExtTreeMap.getElem?_insert]
  simp only [Std.compare_eq_iff_eq, eq_comm (a := put)]

/-! ### Taking a descriptor out -/

private theorem byId_withdraw (catalog : Catalog) (id other : String) :
    (catalog.withdraw id).byId[other]? = if other = id then none else catalog.byId[other]? := by
  unfold withdraw
  cases held : catalog.byId[id]? with
  | none =>
      by_cases same : other = id
      · rw [if_pos same, same]
        exact held
      · rw [if_neg same]
  | some previous => exact getElem?_erase_string catalog.byId id other

private theorem Indexed.index_withdraw {catalog : Catalog} (indexed : catalog.Indexed)
    (id name other : String) :
    (catalog.withdraw id).index[name]? = some other ↔
      other ≠ id ∧ catalog.index[name]? = some other := by
  unfold Catalog.withdraw
  cases held : catalog.byId[id]? with
  | none =>
      refine ⟨fun found => ⟨?_, found⟩, fun found => found.2⟩
      intro same
      subst same
      obtain ⟨descriptor, there, _⟩ := (indexed.named name other).mp found
      rw [held] at there
      cases there
  | some previous =>
      dsimp only
      rw [getElem?_erase_string]
      have own := (indexed.named previous.ownTypeName id).mpr ⟨previous, held, rfl⟩
      by_cases same : name = previous.ownTypeName
      · rw [if_pos same, same, own]
        simp [eq_comm]
      · rw [if_neg same]
        refine ⟨fun found => ⟨?_, found⟩, fun found => found.2⟩
        intro same
        subst same
        obtain ⟨descriptor, there, isNamed⟩ := (indexed.named name other).mp found
        rw [held] at there
        cases there
        exact same isNamed.symm

private theorem Indexed.withdraw {catalog : Catalog} (indexed : catalog.Indexed) (id : String) :
    (catalog.withdraw id).Indexed := by
  constructor
  · intro other descriptor held
    rw [byId_withdraw] at held
    split at held
    · cases held
    · exact indexed.own other descriptor held
  · intro name other
    rw [indexed.index_withdraw, indexed.named, byId_withdraw]
    by_cases same : other = id
    · simp [same]
    · simp [same]

/-! ### Putting a descriptor in -/

private theorem Indexed.byId_displace {catalog : Catalog} (indexed : catalog.Indexed)
    (descriptor : Descriptor) (id : String) :
    (catalog.displace descriptor).byId[id]? =
      catalog.byId[id]?.filter (fun other => other.ownTypeName ≠ descriptor.ownTypeName) := by
  unfold displace
  dsimp only
  cases held : catalog.byId[id]? with
  | none =>
      cases catalog.index[descriptor.ownTypeName]? with
      | none => exact held
      | some displaced =>
          dsimp only
          rw [getElem?_erase_string, held]
          simp
  | some other =>
      by_cases sameType : other.ownTypeName = descriptor.ownTypeName
      · have entered := (indexed.named descriptor.ownTypeName id).mpr ⟨other, held, sameType⟩
        rw [entered]
        dsimp only
        rw [getElem?_erase_string, if_pos rfl, Option.filter_some_neg (by simpa using sameType)]
      · rw [Option.filter_some_pos (by simpa using sameType)]
        cases displaced : catalog.index[descriptor.ownTypeName]? with
        | none => exact held
        | some displacedId =>
            have different : id ≠ displacedId := by
              intro same
              subst same
              obtain ⟨again, againHeld, isNamed⟩ := (indexed.named _ id).mp displaced
              rw [held] at againHeld
              cases againHeld
              exact sameType isNamed
            dsimp only
            rw [getElem?_erase_string, if_neg different, held]

/-- A descriptor takes the place of the one with its id and of the one for its type, and of no
other. -/
theorem Indexed.byId_insert {catalog : Catalog} (indexed : catalog.Indexed)
    (descriptor : Descriptor) (id : String) :
    (catalog.insert descriptor).byId[id]? =
      if id = descriptor.id then some descriptor
      else catalog.byId[id]?.filter (fun other => other.ownTypeName ≠ descriptor.ownTypeName) := by
  unfold insert
  dsimp only
  rw [getElem?_insert_string]
  by_cases isOwn : id = descriptor.id
  · rw [if_pos isOwn, if_pos isOwn]
  · rw [if_neg isOwn, if_neg isOwn, (indexed.withdraw descriptor.id).byId_displace, byId_withdraw,
      if_neg isOwn]

private theorem Indexed.index_insert {catalog : Catalog} (indexed : catalog.Indexed)
    (descriptor : Descriptor) (name id : String) :
    (catalog.insert descriptor).index[name]? = some id ↔
      if name = descriptor.ownTypeName then id = descriptor.id
      else id ≠ descriptor.id ∧ catalog.index[name]? = some id := by
  unfold insert displace
  dsimp only
  rw [getElem?_insert_string]
  by_cases isOwn : name = descriptor.ownTypeName
  · rw [if_pos isOwn, if_pos isOwn, Option.some.injEq, eq_comm]
  · rw [if_neg isOwn, if_neg isOwn]
    exact indexed.index_withdraw descriptor.id name id

theorem Indexed.insert {catalog : Catalog} (indexed : catalog.Indexed)
    (descriptor : Descriptor) : (catalog.insert descriptor).Indexed := by
  constructor
  · intro id held found
    rw [indexed.byId_insert] at found
    split at found
    next isOwn =>
      cases found
      exact isOwn.symm
    next => exact indexed.own id held (Option.filter_eq_some_iff.mp found).1
  · intro name id
    rw [indexed.index_insert, indexed.byId_insert]
    by_cases isOwn : id = descriptor.id
    · by_cases sameType : name = descriptor.ownTypeName
      · simp [isOwn, sameType]
      · simp [isOwn, sameType, eq_comm]
    · by_cases sameType : name = descriptor.ownTypeName
      · simp [isOwn, sameType]
      · simp only [isOwn, sameType, if_false, ne_eq, not_false_eq_true, true_and]
        rw [indexed.named]
        constructor
        · intro entered
          obtain ⟨held, found, same⟩ := entered
          exact ⟨held, by rw [found, Option.filter_some_pos (by simp [same, sameType])], same⟩
        · intro entered
          obtain ⟨held, found, same⟩ := entered
          exact ⟨held, (Option.filter_eq_some_iff.mp found).1, same⟩

theorem indexed_of_reachable (catalog : Catalog) (reachable : catalog.Reachable) :
    catalog.Indexed :=
  reachable.induction (fun _ descriptor indexed _sound => indexed.insert descriptor) empty_indexed

end TacticalSymbols.Catalog

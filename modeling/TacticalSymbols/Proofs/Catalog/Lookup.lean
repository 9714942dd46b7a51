import TacticalSymbols.Proofs.Catalog.Index

/-!
Finding the type of a code. Looking into the index gives the same answer as searching all
descriptors: one for the very dimension first, then one that leaves the dimension open.
-/

namespace TacticalSymbols

theorem Descriptor.describes_iff (descriptor : Descriptor) (fields : CodeFields) :
    descriptor.describes fields = true ↔
      fields.scheme? = some descriptor.scheme ∧
        fields.token? .functionId = some descriptor.functionId ∧
        ∀ dimension, descriptor.dimension? = some dimension →
          fields.dimension? = some dimension := by
  unfold describes
  cases descriptor.dimension? <;> simp [and_assoc]

namespace Catalog

/-- What a search of all descriptors settles on: a descriptor for the fields that has a dimension of
its own, or one that leaves it open where no descriptor for the fields has one. -/
def Prefers (catalog : Catalog) (fields : CodeFields) (descriptor : Descriptor) : Prop :=
  descriptor ∈ catalog.toList ∧ descriptor.describes fields = true ∧
    (descriptor.dimension?.isSome = true ∨
      ∀ other ∈ catalog.toList, other.dimension?.isSome = true → other.describes fields = false)

private theorem find?_eq (catalog : Catalog) (fields : CodeFields) (scheme : Scheme)
    (functionId : String) (named : fields.scheme? = some scheme)
    (function : fields.token? .functionId = some functionId) :
    catalog.find? fields =
      (catalog.describing? fields (Descriptor.typeName scheme fields.dimension? functionId)).or
        (catalog.describing? fields (Descriptor.typeName scheme none functionId)) := by
  unfold find?
  rw [named, function]
  exact Option.orElse_eq_or

theorem named_of_find? (catalog : Catalog) (fields : CodeFields) (descriptor : Descriptor)
    (found : catalog.find? fields = some descriptor) :
    ∃ scheme functionId, fields.scheme? = some scheme ∧
      fields.token? .functionId = some functionId := by
  obtain ⟨scheme, named, rest⟩ := Option.bind_eq_some_iff.mp found
  obtain ⟨functionId, function, _⟩ := Option.bind_eq_some_iff.mp rest
  exact ⟨scheme, functionId, named, function⟩

private theorem describes_of_describing? (catalog : Catalog) (fields : CodeFields) (name : String)
    (descriptor : Descriptor) (found : catalog.describing? fields name = some descriptor) :
    descriptor.describes fields = true :=
  (Option.filter_eq_some_iff.mp found).2

theorem describes_of_find? (catalog : Catalog) (fields : CodeFields) (descriptor : Descriptor)
    (found : catalog.find? fields = some descriptor) : descriptor.describes fields = true := by
  obtain ⟨scheme, functionId, named, function⟩ := named_of_find? catalog fields descriptor found
  rw [find?_eq catalog fields scheme functionId named function, Option.or_eq_some_iff] at found
  rcases found with own | ⟨_noOwn, starred⟩
  · exact describes_of_describing? catalog fields _ descriptor own
  · exact describes_of_describing? catalog fields _ descriptor starred

section Indexed

variable {catalog : Catalog} (indexed : catalog.Indexed) (fields : CodeFields)

include indexed

theorem mem_toList_iff (descriptor : Descriptor) :
    descriptor ∈ catalog.toList ↔ catalog.get? descriptor.id = some descriptor := by
  unfold toList get?
  rw [List.mem_map]
  constructor
  · intro member
    obtain ⟨⟨id, held⟩, listed, rfl⟩ := member
    have found := Std.ExtTreeMap.mem_toList_iff_getElem?_eq_some.mp listed
    rw [indexed.own id held found]
    exact found
  · intro found
    exact ⟨(descriptor.id, descriptor), Std.ExtTreeMap.mem_toList_iff_getElem?_eq_some.mpr found, rfl⟩

theorem eq_of_ownTypeName (left right : Descriptor) (leftListed : left ∈ catalog.toList)
    (rightListed : right ∈ catalog.toList) (same : left.ownTypeName = right.ownTypeName) :
    left = right := by
  rw [mem_toList_iff indexed] at leftListed rightListed
  have sameId := indexed.id_eq_of_ownTypeName leftListed rightListed same
  rw [sameId, rightListed] at leftListed
  exact (Option.some.inj leftListed).symm

theorem describing?_eq_some_iff (name : String) (descriptor : Descriptor) :
    catalog.describing? fields name = some descriptor ↔
      descriptor ∈ catalog.toList ∧ descriptor.ownTypeName = name ∧
        descriptor.describes fields = true := by
  unfold describing?
  rw [Option.filter_eq_some_iff, Option.bind_eq_some_iff, mem_toList_iff indexed]
  constructor
  · intro found
    obtain ⟨⟨id, entered, held⟩, describes⟩ := found
    obtain ⟨other, otherHeld, isNamed⟩ := (indexed.named name id).mp entered
    have same : other = descriptor := Option.some.inj (otherHeld.symm.trans held)
    subst same
    rw [indexed.own id other otherHeld]
    exact ⟨held, isNamed, describes⟩
  · intro fitting
    obtain ⟨held, isNamed, describes⟩ := fitting
    exact ⟨⟨descriptor.id, (indexed.named name descriptor.id).mpr ⟨descriptor, held, isNamed⟩, held⟩,
      describes⟩

private theorem eq_of_describes (left right : Descriptor) (leftListed : left ∈ catalog.toList)
    (rightListed : right ∈ catalog.toList) (leftDescribes : left.describes fields = true)
    (rightDescribes : right.describes fields = true)
    (alike : left.dimension?.isSome = right.dimension?.isSome) : left = right := by
  obtain ⟨leftScheme, leftFunction, leftDimension⟩ := (left.describes_iff fields).mp leftDescribes
  obtain ⟨rightScheme, rightFunction, rightDimension⟩ :=
    (right.describes_iff fields).mp rightDescribes
  apply eq_of_ownTypeName indexed left right leftListed rightListed
  unfold Descriptor.ownTypeName
  rw [leftScheme] at rightScheme
  rw [leftFunction] at rightFunction
  cases leftOwn : left.dimension? with
  | none =>
      have rightOwn : right.dimension? = none := by
        rw [leftOwn] at alike
        simpa using alike.symm
      rw [Option.some.inj rightScheme, Option.some.inj rightFunction, rightOwn]
  | some dimension =>
      obtain ⟨other, rightOwn⟩ : ∃ other, right.dimension? = some other := by
        rw [leftOwn] at alike
        exact Option.isSome_iff_exists.mp alike.symm
      have sameDimension := (leftDimension dimension leftOwn).symm.trans (rightDimension other rightOwn)
      rw [Option.some.inj rightScheme, Option.some.inj rightFunction, rightOwn,
        Option.some.inj sameDimension]

theorem prefers_unique (left right : Descriptor) (leftPreferred : catalog.Prefers fields left)
    (rightPreferred : catalog.Prefers fields right) : left = right := by
  obtain ⟨leftListed, leftDescribes, leftFirst⟩ := leftPreferred
  obtain ⟨rightListed, rightDescribes, rightFirst⟩ := rightPreferred
  apply eq_of_describes indexed fields left right leftListed rightListed leftDescribes rightDescribes
  cases leftOwn : left.dimension?.isSome <;> cases rightOwn : right.dimension?.isSome
  · rfl
  · have noOther := leftFirst.resolve_left (by simp [leftOwn]) right rightListed rightOwn
    rw [rightDescribes] at noOther
    cases noOther
  · have noOther := rightFirst.resolve_left (by simp [rightOwn]) left leftListed leftOwn
    rw [leftDescribes] at noOther
    cases noOther
  · rfl

private theorem describing?_ownDimension (scheme : Scheme) (functionId : String)
    (named : fields.scheme? = some scheme) (function : fields.token? .functionId = some functionId)
    (descriptor : Descriptor) (listed : descriptor ∈ catalog.toList)
    (describes : descriptor.describes fields = true)
    (hasDimension : descriptor.dimension?.isSome = true) :
    catalog.describing? fields (Descriptor.typeName scheme fields.dimension? functionId) =
      some descriptor := by
  rw [describing?_eq_some_iff indexed]
  refine ⟨listed, ?_, describes⟩
  obtain ⟨ownScheme, ownFunction, ownDimension⟩ := (descriptor.describes_iff fields).mp describes
  obtain ⟨dimension, isOwn⟩ := Option.isSome_iff_exists.mp hasDimension
  rw [named] at ownScheme
  rw [function] at ownFunction
  unfold Descriptor.ownTypeName
  rw [ownDimension dimension isOwn, isOwn, Option.some.inj ownScheme, Option.some.inj ownFunction]

private theorem describing?_star (scheme : Scheme) (functionId : String)
    (named : fields.scheme? = some scheme) (function : fields.token? .functionId = some functionId)
    (descriptor : Descriptor) (listed : descriptor ∈ catalog.toList)
    (describes : descriptor.describes fields = true) (isOpen : descriptor.dimension? = none) :
    catalog.describing? fields (Descriptor.typeName scheme none functionId) = some descriptor := by
  rw [describing?_eq_some_iff indexed]
  refine ⟨listed, ?_, describes⟩
  obtain ⟨ownScheme, ownFunction, _⟩ := (descriptor.describes_iff fields).mp describes
  rw [named] at ownScheme
  rw [function] at ownFunction
  unfold Descriptor.ownTypeName
  rw [isOpen, Option.some.inj ownScheme, Option.some.inj ownFunction]

/-- What is found is preferred. The name with a star may be that of a dimension, too, so a
descriptor found under the fields' own dimension may still leave it open. -/
theorem prefers_of_find? (descriptor : Descriptor)
    (found : catalog.find? fields = some descriptor) : catalog.Prefers fields descriptor := by
  obtain ⟨scheme, functionId, named, function⟩ := named_of_find? catalog fields descriptor found
  rw [find?_eq catalog fields scheme functionId named function, Option.or_eq_some_iff] at found
  rcases found with own | ⟨noOwn, starred⟩
  · obtain ⟨listed, _isNamed, describes⟩ := (describing?_eq_some_iff indexed fields _ _).mp own
    refine ⟨listed, describes, ?_⟩
    cases hasDimension : descriptor.dimension?.isSome with
    | true => exact .inl rfl
    | false =>
        refine .inr (fun other otherListed otherDimension => ?_)
        cases otherDescribes : other.describes fields with
        | false => rfl
        | true =>
            rw [describing?_ownDimension indexed fields scheme functionId named function other
              otherListed otherDescribes otherDimension] at own
            rw [Option.some.inj own, hasDimension] at otherDimension
            cases otherDimension
  · obtain ⟨listed, _isNamed, describes⟩ := (describing?_eq_some_iff indexed fields _ _).mp starred
    refine ⟨listed, describes, .inr (fun other otherListed otherDimension => ?_)⟩
    cases otherDescribes : other.describes fields with
    | false => rfl
    | true =>
        rw [describing?_ownDimension indexed fields scheme functionId named function other
          otherListed otherDescribes otherDimension] at noOwn
        cases noOwn

theorem find?_isSome_of_describes (descriptor : Descriptor) (listed : descriptor ∈ catalog.toList)
    (describes : descriptor.describes fields = true) :
    (catalog.find? fields).isSome = true := by
  obtain ⟨named, function, _dimension⟩ := (descriptor.describes_iff fields).mp describes
  rw [find?_eq catalog fields _ _ named function, Option.isSome_or, Bool.or_eq_true]
  cases hasDimension : descriptor.dimension?.isSome with
  | true =>
      left
      rw [describing?_ownDimension indexed fields _ _ named function descriptor listed describes
        hasDimension]
      rfl
  | false =>
      right
      rw [describing?_star indexed fields _ _ named function descriptor listed describes
        (by simpa using hasDimension)]
      rfl

theorem find?_eq_some_iff_prefers (descriptor : Descriptor) :
    catalog.find? fields = some descriptor ↔ catalog.Prefers fields descriptor := by
  constructor
  · exact prefers_of_find? indexed fields descriptor
  · intro preferred
    obtain ⟨found, isFound⟩ := Option.isSome_iff_exists.mp
      (find?_isSome_of_describes indexed fields descriptor preferred.1 preferred.2.1)
    rw [isFound, prefers_unique indexed fields found descriptor
      (prefers_of_find? indexed fields found isFound) preferred]

theorem find?_eq_none_iff_describes :
    catalog.find? fields = none ↔
      ∀ descriptor ∈ catalog.toList, descriptor.describes fields = false := by
  constructor
  · intro missing descriptor listed
    cases describes : descriptor.describes fields with
    | false => rfl
    | true =>
        have found := find?_isSome_of_describes indexed fields descriptor listed describes
        rw [missing] at found
        cases found
  · intro noneDescribes
    cases found : catalog.find? fields with
    | none => rfl
    | some descriptor =>
        obtain ⟨listed, describes, _first⟩ := prefers_of_find? indexed fields descriptor found
        rw [noneDescribes descriptor listed] at describes
        cases describes

end Indexed

/-- In a catalog in use a type is found as by a search of all descriptors, and the search leaves no
choice. -/
theorem find?_refines_search (catalog : Catalog) (fields : CodeFields)
    (reachable : catalog.Reachable) :
    (∀ descriptor,
        catalog.find? fields = some descriptor ↔ catalog.Prefers fields descriptor) ∧
      (catalog.find? fields = none ↔
        ∀ descriptor ∈ catalog.toList, descriptor.describes fields = false) ∧
      ∀ left right, catalog.Prefers fields left → catalog.Prefers fields right → left = right := by
  have indexed := indexed_of_reachable catalog reachable
  exact ⟨find?_eq_some_iff_prefers indexed fields, find?_eq_none_iff_describes indexed fields,
    prefers_unique indexed fields⟩

/-- A phase line of any category comes after the standard one, so it is found for a category that
the standard set does not have. -/
theorem find?_refines_search_openDimension :
    (run standard [.add (lineType .tacticalGraphics none "GLP---" "Any Phase Line" [])]).Reachable ∧
      (run standard [.add (lineType .tacticalGraphics none "GLP---" "Any Phase Line" [])]).Prefers
        (((CodeFields.ofScheme .tacticalGraphics).set .category "M").set .functionId "GLP---")
        (lineType .tacticalGraphics none "GLP---" "Any Phase Line" []) :=
  ⟨⟨_, .inr rfl⟩, ((find?_refines_search _ _ ⟨_, .inr rfl⟩).1 _).mp (by decide +kernel)⟩

end Catalog

end TacticalSymbols

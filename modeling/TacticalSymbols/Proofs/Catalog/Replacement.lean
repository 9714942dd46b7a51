import TacticalSymbols.Proofs.Catalog.Listing
import TacticalSymbols.Proofs.Code.Tokens

/-!
What goes when a descriptor is added to a catalog: the one with its id and the one whose type has the
same name. Names tell types apart by everything but one thing: a star is written for an open
dimension, so a type of the dimension star has the name of a type whose dimension is open.
-/

namespace TacticalSymbols

namespace Descriptor

/-! ### Names of types -/

private theorem length_token (scheme : Scheme) : scheme.token.toList.length = 1 := by
  cases scheme <;> decide

private theorem length_functionId (descriptor : Descriptor) (faultless : descriptor.fault? = none) :
    descriptor.functionId.toList.length = Axis.functionId.width := by
  unfold fault? at faultless
  split at faultless
  · cases faultless
  next legal =>
    exact (Axis.functionId.fits_of_isLegal _ descriptor.scheme (by simpa using legal)).width

/-- The scheme and the function id have fixed widths, so what stands between them is the dimension,
colons or not. -/
theorem ownTypeName_eq_iff (left right : Descriptor) (leftFaultless : left.fault? = none)
    (rightFaultless : right.fault? = none) :
    left.ownTypeName = right.ownTypeName ↔
      left.scheme = right.scheme ∧ left.dimension?.getD "*" = right.dimension?.getD "*" ∧
        left.functionId = right.functionId := by
  constructor
  · intro same
    have functionWidth : left.functionId.toList.length = right.functionId.toList.length := by
      rw [left.length_functionId leftFaultless, right.length_functionId rightFaultless]
    have tokenWidth : (left.scheme.token.toList ++ ":".toList).length =
        (right.scheme.token.toList ++ ":".toList).length := by
      rw [List.length_append, List.length_append, length_token, length_token]
    unfold ownTypeName typeName at same
    simp only [← String.toList_inj, String.toList_append] at same
    obtain ⟨front, sameFunction⟩ := List.append_inj' same functionWidth
    obtain ⟨front, _colon⟩ := List.append_inj' front rfl
    obtain ⟨front, sameDimension⟩ := List.append_inj front tokenWidth
    obtain ⟨sameToken, _colon⟩ := List.append_inj' front rfl
    rw [String.toList_inj] at sameToken sameDimension sameFunction
    refine ⟨?_, sameDimension, sameFunction⟩
    have named := left.scheme.ofToken?_token
    rw [sameToken, right.scheme.ofToken?_token] at named
    exact (Option.some.inj named).symm
  · intro same
    obtain ⟨sameScheme, sameDimension, sameFunction⟩ := same
    unfold ownTypeName typeName
    rw [sameScheme, sameDimension, sameFunction]

/-- Two types that differ only in that one has the dimension star and the other an open one. -/
def StarClash (left right : Descriptor) : Prop :=
  left.scheme = right.scheme ∧ left.functionId = right.functionId ∧
    ((left.dimension? = none ∧ right.dimension? = some "*") ∨
      (left.dimension? = some "*" ∧ right.dimension? = none))

/-- Different types have different names unless they clash on the star. -/
private theorem ownTypeName_eq_iff_starClash (left right : Descriptor)
    (leftFaultless : left.fault? = none) (rightFaultless : right.fault? = none)
    (different : left.graphicType ≠ right.graphicType) :
    left.ownTypeName = right.ownTypeName ↔ left.StarClash right := by
  rw [ownTypeName_eq_iff left right leftFaultless rightFaultless]
  constructor
  · intro same
    obtain ⟨sameScheme, sameDimension, sameFunction⟩ := same
    refine ⟨sameScheme, sameFunction, ?_⟩
    cases leftOwn : left.dimension? with
    | none =>
        cases rightOwn : right.dimension? with
        | none =>
            exact absurd (by simp [graphicType, sameScheme, leftOwn, rightOwn, sameFunction]) different
        | some dimension =>
            rw [leftOwn, rightOwn] at sameDimension
            exact .inl ⟨rfl, congrArg some sameDimension.symm⟩
    | some dimension =>
        cases rightOwn : right.dimension? with
        | none =>
            rw [leftOwn, rightOwn] at sameDimension
            exact .inr ⟨congrArg some sameDimension, rfl⟩
        | some other =>
            rw [leftOwn, rightOwn] at sameDimension
            have sameToken : dimension = other := sameDimension
            exact absurd (by simp [graphicType, sameScheme, leftOwn, rightOwn, sameToken, sameFunction])
              different
  · intro clash
    obtain ⟨sameScheme, sameFunction, ⟨leftOpen, rightStar⟩ | ⟨leftStar, rightOpen⟩⟩ := clash
    · exact ⟨sameScheme, by rw [leftOpen, rightStar]; rfl, sameFunction⟩
    · exact ⟨sameScheme, by rw [leftStar, rightOpen]; rfl, sameFunction⟩

end Descriptor

namespace Catalog

theorem run_add_of_faultless (descriptor : Descriptor) (catalog : Catalog)
    (faultless : descriptor.fault? = none) :
    Update.run (add descriptor) catalog = (.ok (), catalog.insert descriptor) := by
  rw [run_add, faultless]

theorem insert_of_add (descriptor : Descriptor) (catalog left : Catalog)
    (added : Update.run (add descriptor) catalog = (.ok (), left)) :
    descriptor.fault? = none ∧ left = catalog.insert descriptor := by
  rw [run_add] at added
  cases fault : descriptor.fault? with
  | some held =>
      rw [fault] at added
      cases congrArg Prod.fst added
  | none =>
      rw [fault] at added
      exact ⟨rfl, (congrArg Prod.snd added).symm⟩

section Insert

variable {catalog : Catalog} (indexed : catalog.Indexed) (descriptor : Descriptor)

include indexed

theorem get?_insert_self : (catalog.insert descriptor).get? descriptor.id = some descriptor := by
  unfold get?
  rw [indexed.byId_insert, if_pos rfl]

theorem get?_insert_of_ne (other : Descriptor) (listed : other ∈ catalog.toList)
    (different : other.id ≠ descriptor.id) :
    (catalog.insert descriptor).get? other.id =
      if other.ownTypeName = descriptor.ownTypeName then none else some other := by
  have held := (mem_toList_iff indexed other).mp listed
  unfold get? at held ⊢
  rw [indexed.byId_insert, if_neg different, held]
  by_cases sameName : other.ownTypeName = descriptor.ownTypeName
  · rw [if_pos sameName, Option.filter_some_neg (by simpa using sameName)]
  · rw [if_neg sameName, Option.filter_some_pos (by simpa using sameName)]

theorem mem_toList_of_mem_insert (other : Descriptor)
    (listed : other ∈ (catalog.insert descriptor).toList) :
    other = descriptor ∨ other ∈ catalog.toList := by
  have held := (mem_toList_iff (indexed.insert descriptor) other).mp listed
  unfold get? at held
  rw [indexed.byId_insert] at held
  split at held
  · exact .inl (Option.some.inj held).symm
  · exact .inr ((mem_toList_iff indexed other).mpr (Option.filter_eq_some_iff.mp held).1)

private theorem find?_insert_of_not_describes (other : Descriptor) (fields : CodeFields)
    (kept : other ∈ (catalog.insert descriptor).toList) (found : catalog.find? fields = some other)
    (foreign : descriptor.describes fields = false) :
    (catalog.insert descriptor).find? fields = some other := by
  obtain ⟨_listed, describes, first⟩ := (find?_eq_some_iff_prefers indexed fields other).mp found
  rw [find?_eq_some_iff_prefers (indexed.insert descriptor)]
  refine ⟨kept, describes, first.imp id ?_⟩
  intro noOther candidate listed hasDimension
  rcases mem_toList_of_mem_insert indexed descriptor candidate listed with isNew | wasListed
  · rw [isNew]
    exact foreign
  · exact noOther candidate wasListed hasDimension

end Insert

/-- Adding a descriptor to a catalog in use takes nothing else out: a descriptor of another id and for
another type stays, and is found as before for all that the new one is not for. The exception is a
clash on the star, where the one that was there goes. -/
theorem others_kept_of_add (catalog : Catalog) (reachable : catalog.Reachable)
    (descriptor : Descriptor) (left : Catalog)
    (added : Update.run (add descriptor) catalog = (.ok (), left)) :
    left.get? descriptor.id = some descriptor ∧
      ∀ other ∈ catalog.toList, other.id ≠ descriptor.id →
        other.graphicType ≠ descriptor.graphicType →
          (other.StarClash descriptor → left.get? other.id = none) ∧
            (¬ other.StarClash descriptor →
              left.get? other.id = some other ∧
                ∀ fields, catalog.find? fields = some other →
                  descriptor.describes fields = false → left.find? fields = some other) := by
  have indexed := indexed_of_reachable catalog reachable
  obtain ⟨faultless, isInserted⟩ := insert_of_add descriptor catalog left added
  subst isInserted
  refine ⟨get?_insert_self indexed descriptor, ?_⟩
  intro other listed differentId differentType
  have otherFaultless := sound_of_reachable catalog reachable other.id other
    ((mem_toList_iff indexed other).mp listed)
  have sameName :=
    other.ownTypeName_eq_iff_starClash descriptor otherFaultless faultless differentType
  have remains := get?_insert_of_ne indexed descriptor other listed differentId
  constructor
  · intro clash
    rw [remains, if_pos (sameName.mpr clash)]
  · intro noClash
    have kept : (catalog.insert descriptor).get? other.id = some other := by
      rw [remains, if_neg (fun same => noClash (sameName.mp same))]
    refine ⟨kept, fun fields found foreign => ?_⟩
    exact find?_insert_of_not_describes indexed descriptor other fields
      ((mem_toList_iff (indexed.insert descriptor) other).mpr kept) found foreign

/-- A phase line for mines leaves the standard one, which is found for its codes as before. -/
theorem others_kept_of_add_otherCategory :
    let added := lineType .tacticalGraphics (some "M") "GLP---" "Mined Phase Line" []
    let phaseLine := lineType .tacticalGraphics (some "G") "GLP---" "Phase Line" lineModifiers
    ∃ left fields, standard.Reachable ∧ Update.run (add added) standard = (.ok (), left) ∧
      CodeFields.decode "GHGPGLP----AUSX" = .ok fields ∧
      standard.find? fields = some phaseLine ∧ left.find? fields = some phaseLine := by
  intro added phaseLine
  have ran := run_add_of_faultless added standard (by decide +kernel)
  have read : CodeFields.decode "GHGPGLP----AUSX" = .ok _ := rfl
  have noClash : ¬ phaseLine.StarClash added := by
    intro clash
    rcases clash.2.2 with ⟨isOpen, _⟩ | ⟨isStar, _⟩
    · cases isOpen
    · exact absurd isStar (by decide)
  obtain ⟨_held, others⟩ := others_kept_of_add standard reachable_standard added _ ran
  have kept := (others phaseLine (by decide +kernel) (by decide) (by decide)).2 noClash
  refine ⟨_, _, reachable_standard, ran, read, ?_, kept.2 _ ?_ ?_⟩
  · decide +kernel
  · decide +kernel
  · decide +kernel

/-- A type of the dimension star, which no code has, puts out the standard low pressure centre, whose
dimension is open: the codes of that are of no type any more. -/
theorem get?_add_of_starClash :
    let lowPressure := pointType .metoc none "PL----" "Low Pressure Center" [.text]
    let starred : Descriptor :=
      { pointType .metoc (some "*") "PL----" "Star Center" [] with id := "starred" }
    ∃ left fields, standard.Reachable ∧ Update.run (add starred) standard = (.ok (), left) ∧
      lowPressure ∈ standard.toList ∧ lowPressure.id ≠ starred.id ∧
      lowPressure.graphicType ≠ starred.graphicType ∧ left.get? lowPressure.id = none ∧
      CodeFields.decode "WAS-PL----P----" = .ok fields ∧
      standard.find? fields = some lowPressure ∧ starred.describes fields = false ∧
      left.find? fields = none := by
  intro lowPressure starred
  have ran := run_add_of_faultless starred standard (by decide +kernel)
  have read : CodeFields.decode "WAS-PL----P----" = .ok _ := rfl
  refine ⟨_, _, reachable_standard, ran, ?_, ?_, ?_, ?_, read, ?_, ?_, ?_⟩
  · decide +kernel
  · decide
  · decide
  · decide +kernel
  · decide +kernel
  · decide +kernel
  · decide +kernel

end Catalog

end TacticalSymbols

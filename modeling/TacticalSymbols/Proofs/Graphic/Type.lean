import TacticalSymbols.Proofs.Graphic.Coherence

/-!
The type of a graphic and the catalog that it was found in. A graphic keeps the descriptor that it
was made with, and takes every code that this describes. The catalog may by then have a narrower
descriptor for the code, if the one that is kept leaves the dimension open; otherwise the catalog
still finds the one that is kept.
-/

namespace TacticalSymbols

namespace Catalog

/-- Some descriptor of the catalog has a dimension of its own and is for the fields. It comes before
every one that leaves the dimension open. -/
def IsNarrow (catalog : Catalog) (fields : CodeFields) : Prop :=
  ∃ descriptor ∈ catalog.toList, descriptor.dimension?.isSome = true ∧
    descriptor.describes fields = true

section Indexed

variable {catalog : Catalog} (indexed : catalog.Indexed) (fields : CodeFields) (held : Descriptor)
  (listed : held ∈ catalog.toList) (describes : held.describes fields = true)

include indexed listed describes

/-- Of the descriptors for some fields only one without a dimension can fail to be found. -/
private theorem find?_eq_some_iff_of_describes :
    catalog.find? fields = some held ↔ ¬ (held.dimension? = none ∧ catalog.IsNarrow fields) := by
  rw [find?_eq_some_iff_prefers indexed]
  constructor
  · intro preferred narrow
    obtain ⟨isOpen, other, otherListed, otherDimension, otherDescribes⟩ := narrow
    obtain ⟨_listed, _describes, first⟩ := preferred
    rw [isOpen] at first
    have noOther := first.resolve_left (by decide) other otherListed otherDimension
    rw [otherDescribes] at noOther
    cases noOther
  · intro notNarrow
    refine ⟨listed, describes, ?_⟩
    cases hasDimension : held.dimension? with
    | some dimension => exact .inl rfl
    | none =>
        refine .inr (fun other otherListed otherDimension => ?_)
        cases otherDescribes : other.describes fields with
        | false => rfl
        | true =>
            exact absurd ⟨hasDimension, other, otherListed, otherDimension, otherDescribes⟩ notNarrow

private theorem dimension?_eq_none_of_find?_ne (other : Descriptor)
    (found : catalog.find? fields = some other) (different : other ≠ held) :
    held.dimension? = none := by
  by_cases narrow : held.dimension? = none ∧ catalog.IsNarrow fields
  · exact narrow.1
  · rw [(find?_eq_some_iff_of_describes indexed fields held listed describes).mpr narrow] at found
    exact absurd (Option.some.inj found).symm different

end Indexed

end Catalog

namespace Graphic

private theorem run_recode_of_find?_ne {catalog : Catalog} (indexed : catalog.Indexed)
    (graphic : Graphic) (listed : graphic.descriptor ∈ catalog.toList) (code : String)
    (fields : CodeFields) (other : Descriptor) (read : CodeFields.decode code = .ok fields)
    (found : catalog.find? fields = some other) (different : other ≠ graphic.descriptor) :
    Update.run (recode code) graphic =
      if graphic.descriptor.dimension? = none ∧ graphic.descriptor.describes fields = true then
        (.ok (), graphic.withCode (Text.upper code) fields)
      else (.error (.typeChanged graphic.descriptor.id code), graphic) := by
  rw [run_recode, read]
  dsimp only
  by_cases describes : graphic.descriptor.describes fields = true
  · have isOpen := Catalog.dimension?_eq_none_of_find?_ne indexed fields graphic.descriptor listed
      describes other found different
    rw [if_pos describes, if_pos ⟨isOpen, describes⟩]
  · rw [if_neg describes, if_neg (fun both => describes both.2)]

/-- Whatever is done to a graphic that a catalog in use made, it keeps the descriptor that was found
for its first code. For its present code the catalog finds the same one, unless that leaves the
dimension open and a descriptor with a dimension is for the code; and a code for which the catalog
finds another one is refused, unless the one that is kept leaves the dimension open and is for the
code, too. -/
theorem find?_run_of_create (catalog : Catalog) (reachable : catalog.Reachable) (text : String)
    (positions : List Position) (parameters? : Option Parameters) (made : Graphic)
    (operations : List Operation)
    (created : create catalog text positions parameters? = .ok made) :
    ∃ first present, CodeFields.decode text = .ok first ∧
      catalog.find? first = some (made.run operations).descriptor ∧
      CodeFields.decode (made.run operations).identifier = .ok present ∧
      (catalog.find? present = some (made.run operations).descriptor ↔
        ¬ ((made.run operations).descriptor.dimension? = none ∧ catalog.IsNarrow present)) ∧
      ∀ code fields other, CodeFields.decode code = .ok fields →
        catalog.find? fields = some other → other ≠ (made.run operations).descriptor →
          Update.run (recode code) (made.run operations) =
            if (made.run operations).descriptor.dimension? = none ∧
                (made.run operations).descriptor.describes fields = true then
              (.ok (), (made.run operations).withCode (Text.upper code) fields)
            else (.error (.typeChanged (made.run operations).descriptor.id code),
              made.run operations) := by
  have indexed := Catalog.indexed_of_reachable catalog reachable
  obtain ⟨first, descriptor, read, found, isKept, coherent⟩ :=
    coherentOf_run catalog text positions parameters? made operations created
  rw [← isKept] at found
  have listed := (Catalog.prefers_of_find? indexed first _ found).1
  refine ⟨first, _, read, found, coherent.readBack, ?_, ?_⟩
  · exact Catalog.find?_eq_some_iff_of_describes indexed _ _ listed coherent.described
  · intro code fields other readCode foundOther different
    exact run_recode_of_find?_ne indexed _ listed code fields other readCode foundOther different

/-- A phase line of any category, made where the catalog has no narrower one, takes a code for which
the catalog finds the standard phase line. -/
theorem find?_run_of_create_openDimension :
    let anyPhaseLine := Catalog.lineType .tacticalGraphics none "GLP---" "Any Phase Line" []
    let catalog := Catalog.run Catalog.standard [.add anyPhaseLine]
    ∃ made left, catalog.Reachable ∧
      create catalog "GHMPGLP--------" [⟨0, 0, 0⟩, ⟨1, 0, 0⟩] none = .ok made ∧
      Update.run (recode "GHGPGLP--------") made = (.ok (), left) := by
  intro anyPhaseLine catalog
  have created := create_of_find? catalog "GHMPGLP--------" [⟨0, 0, 0⟩, ⟨1, 0, 0⟩] _ anyPhaseLine rfl
    (by decide +kernel) rfl
  obtain ⟨_first, _present, _read, _found, _presentRead, _same, others⟩ :=
    find?_run_of_create catalog ⟨_, .inr rfl⟩ _ _ _ _ [] created
  have taken := others "GHGPGLP--------" _
    (Catalog.lineType .tacticalGraphics (some "G") "GLP---" "Phase Line" Catalog.lineModifiers)
    rfl (by decide +kernel) (by decide)
  exact ⟨_, _, ⟨_, .inr rfl⟩, created, taken⟩

/-- It keeps its own type all the same, so the catalog finds another one for its code. -/
theorem find?_recode_ne_descriptor :
    let anyPhaseLine := Catalog.lineType .tacticalGraphics none "GLP---" "Any Phase Line" []
    let catalog := Catalog.run Catalog.standard [.add anyPhaseLine]
    ∃ made fields other, catalog.Reachable ∧
      create catalog "GHMPGLP--------" [⟨0, 0, 0⟩, ⟨1, 0, 0⟩] none = .ok made ∧
      Update.outcome (recode "GHGPGLP--------") made = .ok () ∧
      CodeFields.decode (made.run [.recode "GHGPGLP--------"]).identifier = .ok fields ∧
      catalog.find? fields = some other ∧
      other ≠ (made.run [.recode "GHGPGLP--------"]).descriptor := by
  intro anyPhaseLine catalog
  have created := create_of_find? catalog "GHMPGLP--------" [⟨0, 0, 0⟩, ⟨1, 0, 0⟩] _ anyPhaseLine rfl
    (by decide +kernel) rfl
  have read : CodeFields.decode "GHGPGLP--------" = .ok _ := rfl
  refine ⟨_, _, Catalog.lineType .tacticalGraphics (some "G") "GLP---" "Phase Line"
    Catalog.lineModifiers, ⟨_, .inr rfl⟩, created, rfl, (CodeFields.decode_upper _).trans read, ?_, ?_⟩
  · decide +kernel
  · decide +kernel

end Graphic

end TacticalSymbols

import TacticalSymbols.Proofs.Catalog.Replacement
import TacticalSymbols.Proofs.Graphic.Coherence

/-!
Types that codes can name. A descriptor is checked for its function id and its control points, but not
for its dimension. There are graphics of a type exactly if some code holds its dimension, that is, if
the type leaves the dimension open or an axis at position 3 takes it under the scheme.
-/

namespace TacticalSymbols

def Axis.dimensions : List Axis :=
  [.category, .battleDimension]

private theorem PointRule.accepts_minimum (rule : PointRule) :
    rule.accepts rule.minimum = true := by
  cases rule with
  | exactly count => exact beq_iff_eq.mpr rfl
  | atLeast count => exact decide_eq_true (Nat.le_refl count)

namespace CodeFields

private theorem isLegal_of_decode (text : String) (fields : CodeFields) (scheme : Scheme)
    (axis : Axis) (token : String) (read : decode text = .ok fields)
    (named : fields.scheme? = some scheme) (present : fields.token? axis = some token) :
    scheme.uses axis = true ∧ isLegal axis token scheme = true := by
  obtain ⟨other, reads⟩ := (decode_eq_ok_iff text fields).mp read
  rw [scheme?_of_reads reads] at named
  cases named
  have writable := writable_of_reads reads
  exact ⟨(writable.legal axis token present).1,
    writable.isLegal_of_capitals (capitals_of_reads reads) axis token present⟩

private theorem exists_dimensions_of_dimension? (fields : CodeFields) (dimension : String)
    (held : fields.dimension? = some dimension) :
    ∃ axis ∈ Axis.dimensions, fields.token? axis = some dimension := by
  have either : (fields.token? .category).or (fields.token? .battleDimension) = some dimension :=
    Option.orElse_eq_or.symm.trans held
  rcases Option.or_eq_some_iff.mp either with category | ⟨_noCategory, battleDimension⟩
  · exact ⟨.category, by decide, category⟩
  · exact ⟨.battleDimension, by decide, battleDimension⟩

end CodeFields

namespace Descriptor

/-- Whether codes of the scheme can hold the dimension of the type, if it has one of its own. -/
def Nameable (descriptor : Descriptor) : Prop :=
  ∀ dimension, descriptor.dimension? = some dimension →
    ∃ axis ∈ Axis.dimensions, descriptor.scheme.uses axis = true ∧
      isLegal axis dimension descriptor.scheme = true

def typeFields (descriptor : Descriptor) : CodeFields :=
  { token? := fun axis =>
      match axis with
      | .scheme => some descriptor.scheme.token
      | .functionId => some descriptor.functionId
      | .category | .battleDimension =>
          if descriptor.scheme.uses axis then descriptor.dimension? else none
      | _ => none }

private theorem isLegal_functionId (descriptor : Descriptor)
    (faultless : descriptor.fault? = none) :
    isLegal .functionId descriptor.functionId descriptor.scheme = true := by
  unfold fault? at faultless
  split at faultless
  · cases faultless
  next legal => simpa using legal

section TypeFields

variable (descriptor : Descriptor) (faultless : descriptor.fault? = none)
  (nameable : descriptor.Nameable)

private theorem scheme?_typeFields : descriptor.typeFields.scheme? = some descriptor.scheme :=
  descriptor.scheme.ofToken?_token

private theorem inSlot_typeFields (axis : Axis)
    (holds : descriptor.typeFields.contains axis = true) : axis.inSlot = false := by
  cases axis <;> first | rfl | cases holds

/-- A dimension that the scheme has an axis for is legal there: there is no other such axis. -/
private theorem isLegal_dimension (axis : Axis) (isDimension : axis ∈ Axis.dimensions)
    (dimension : String) (used : descriptor.scheme.uses axis = true)
    (own : descriptor.dimension? = some dimension) (nameable : descriptor.Nameable) :
    isLegal axis dimension descriptor.scheme = true := by
  have single : ∀ scheme ∈ Scheme.all, ∀ left ∈ Axis.dimensions, ∀ right ∈ Axis.dimensions,
      scheme.uses left = true → scheme.uses right = true → left = right := by
    decide
  obtain ⟨other, otherDimension, otherUsed, legal⟩ := nameable dimension own
  rw [single descriptor.scheme (Scheme.mem_all _) axis isDimension other otherDimension used
    otherUsed]
  exact legal

include faultless nameable

private theorem legal_typeFields (axis : Axis) (token : String)
    (present : descriptor.typeFields.token? axis = some token) :
    descriptor.scheme.uses axis = true ∧ isLegal axis token descriptor.scheme = true := by
  have everyScheme : ∀ scheme ∈ Scheme.all, scheme.uses .scheme = true ∧
      scheme.uses .functionId = true ∧ isLegal .scheme scheme.token scheme = true := by
    decide
  obtain ⟨usesScheme, usesFunction, legalScheme⟩ :=
    everyScheme descriptor.scheme (Scheme.mem_all _)
  have dimensional : axis ∈ Axis.dimensions →
      (if descriptor.scheme.uses axis then descriptor.dimension? else none) = some token →
        descriptor.scheme.uses axis = true ∧ isLegal axis token descriptor.scheme = true := by
    intro isDimension held
    by_cases used : descriptor.scheme.uses axis = true
    · rw [if_pos used] at held
      exact ⟨used, descriptor.isLegal_dimension axis isDimension token used held nameable⟩
    · rw [if_neg used] at held
      cases held
  cases axis with
  | scheme =>
      cases present
      exact ⟨usesScheme, legalScheme⟩
  | functionId =>
      cases present
      exact ⟨usesFunction, descriptor.isLegal_functionId faultless⟩
  | category => exact dimensional (by decide) present
  | battleDimension => exact dimensional (by decide) present
  | _ => cases present

private theorem capitals_typeFields : descriptor.typeFields.capitals = descriptor.typeFields := by
  rw [CodeFields.capitals_eq_self_iff]
  intro axis token present
  exact (axis.fits_of_isLegal token descriptor.scheme
    (descriptor.legal_typeFields faultless nameable axis token present).2).capitals

private theorem writable_typeFields :
    CodeFields.Writable descriptor.scheme descriptor.typeFields := by
  constructor
  · intro axis token present
    rw [(CodeFields.capitals_eq_self_iff _).mp
      (descriptor.capitals_typeFields faultless nameable) axis token present]
    exact descriptor.legal_typeFields faultless nameable axis token present
  · intro left right holdsLeft _holdsRight leftInSlot
    have outside := descriptor.inSlot_typeFields left holdsLeft
    rw [leftInSlot] at outside
    cases outside

private theorem exists_decode_typeFields :
    ∃ text, CodeFields.decode text = .ok descriptor.typeFields := by
  refine ⟨String.ofList (CodeFields.sheet descriptor.typeFields.cells), ?_⟩
  rw [CodeFields.decode_sheet (descriptor.writable_typeFields faultless nameable)
    descriptor.scheme?_typeFields, descriptor.capitals_typeFields faultless nameable]

omit faultless in
private theorem dimension?_typeFields :
    descriptor.typeFields.dimension? = descriptor.dimension? := by
  cases own : descriptor.dimension? with
  | none => simp [CodeFields.dimension?, typeFields, own]
  | some dimension =>
      obtain ⟨axis, isDimension, used, _legal⟩ := nameable dimension own
      by_cases usesCategory : descriptor.scheme.uses .category = true
      · simp [CodeFields.dimension?, typeFields, own, usesCategory]
      · have isBattleDimension : axis = .battleDimension := by
          rcases List.mem_cons.mp isDimension with isCategory | isOther
          · rw [isCategory] at used
            exact absurd used usesCategory
          · exact List.mem_singleton.mp isOther
        rw [isBattleDimension] at used
        simp [CodeFields.dimension?, typeFields, own, usesCategory, used]

omit faultless in
private theorem describes_typeFields : descriptor.describes descriptor.typeFields = true := by
  rw [descriptor.describes_iff]
  refine ⟨descriptor.scheme?_typeFields, rfl, fun dimension own => ?_⟩
  rw [descriptor.dimension?_typeFields nameable, own]

end TypeFields

private theorem nameable_of_describes (descriptor : Descriptor) (text : String)
    (fields : CodeFields) (read : CodeFields.decode text = .ok fields)
    (describes : descriptor.describes fields = true) :
    descriptor.Nameable := by
  intro dimension own
  obtain ⟨named, _function, sameDimension⟩ := (descriptor.describes_iff fields).mp describes
  obtain ⟨axis, isDimension, present⟩ :=
    fields.exists_dimensions_of_dimension? dimension (sameDimension dimension own)
  exact ⟨axis, isDimension,
    CodeFields.isLegal_of_decode text fields descriptor.scheme axis dimension read named present⟩

end Descriptor

namespace Catalog

/-- A descriptor that was added is found for the fields that hold its type and nothing else: if its
dimension is open, they have none for another descriptor to be preferred for. -/
private theorem find?_insert_typeFields {catalog : Catalog} (indexed : catalog.Indexed)
    (descriptor : Descriptor) (nameable : descriptor.Nameable) :
    (catalog.insert descriptor).find? descriptor.typeFields = some descriptor := by
  have inserted := indexed.insert descriptor
  rw [find?_eq_some_iff_prefers inserted]
  refine ⟨(mem_toList_iff inserted descriptor).mpr (get?_insert_self indexed descriptor),
    descriptor.describes_typeFields nameable, ?_⟩
  cases own : descriptor.dimension? with
  | some dimension => exact .inl rfl
  | none =>
      refine .inr (fun other _listed otherDimension => ?_)
      obtain ⟨dimension, isOther⟩ := Option.isSome_iff_exists.mp otherDimension
      rw [← Bool.not_eq_true, other.describes_iff]
      intro otherDescribes
      have held := otherDescribes.2.2 dimension isOther
      rw [descriptor.dimension?_typeFields nameable, own] at held
      cases held

end Catalog

namespace Graphic

private theorem nameable_of_create (catalog : Catalog) (text : String) (positions : List Position)
    (graphic : Graphic) (created : create catalog text positions none = .ok graphic) :
    graphic.descriptor.Nameable := by
  obtain ⟨fields, descriptor, read, found, _counted, begun⟩ :=
    (create_eq_ok_iff catalog text positions none graphic).mp created
  cases begun
  exact descriptor.nameable_of_describes text fields read
    (catalog.describes_of_find? fields descriptor found)

/-- Of a descriptor that was added to a catalog in use graphics can be made exactly if codes can hold
its dimension. That is not among the things that a descriptor is checked for. -/
theorem exists_create_iff_nameable (catalog : Catalog) (reachable : catalog.Reachable)
    (descriptor : Descriptor) (left : Catalog)
    (added : Update.run (Catalog.add descriptor) catalog = (.ok (), left)) :
    (∃ text positions graphic, create left text positions none = .ok graphic ∧
      graphic.descriptor = descriptor) ↔ descriptor.Nameable := by
  constructor
  · intro possible
    obtain ⟨text, positions, graphic, created, same⟩ := possible
    rw [← same]
    exact nameable_of_create left text positions graphic created
  · intro nameable
    obtain ⟨faultless, isInserted⟩ := Catalog.insert_of_add descriptor catalog left added
    obtain ⟨text, read⟩ := descriptor.exists_decode_typeFields faultless nameable
    have found := Catalog.find?_insert_typeFields
      (Catalog.indexed_of_reachable catalog reachable) descriptor nameable
    have counted : descriptor.points.accepts
        (List.replicate descriptor.points.minimum (⟨0, 0, 0⟩ : Position)).length = true := by
      rw [List.length_replicate]
      exact descriptor.points.accepts_minimum
    rw [← isInserted] at found
    exact ⟨text, _, _, create_of_find? left text _ _ descriptor read found counted, rfl⟩

/-- There are graphics of a phase line of any category, although the standard set has one of its own
for the category of manoeuvre. -/
theorem exists_create_iff_nameable_openDimension :
    let added := Catalog.lineType .tacticalGraphics none "GLP---" "Any Phase Line" []
    ∃ left, Catalog.standard.Reachable ∧
      Update.run (Catalog.add added) Catalog.standard = (.ok (), left) ∧ added.Nameable ∧
      ∃ text positions graphic, create left text positions none = .ok graphic ∧
        graphic.descriptor = added := by
  intro added
  have ran := Catalog.run_add_of_faultless added Catalog.standard (by decide +kernel)
  have nameable : added.Nameable := by
    intro dimension own
    cases own
  exact ⟨_, Catalog.reachable_standard, ran, nameable,
    (exists_create_iff_nameable _ Catalog.reachable_standard added _ ran).mpr nameable⟩

/-- Weather codes have no dimension. A low pressure centre of the dimension of the surface is taken
into the catalog, and no code and no control points make a graphic of it. -/
theorem not_exists_create_of_weatherDimension :
    let surface := Catalog.pointType .metoc (some "S") "PL----" "Surface Low" []
    ∃ left, Catalog.standard.Reachable ∧
      Update.run (Catalog.add surface) Catalog.standard = (.ok (), left) ∧
      left.get? surface.id = some surface ∧
      ¬ ∃ text positions graphic, create left text positions none = .ok graphic ∧
        graphic.descriptor = surface := by
  intro surface
  have ran := Catalog.run_add_of_faultless surface Catalog.standard (by decide +kernel)
  refine ⟨_, Catalog.reachable_standard, ran, by decide +kernel, ?_⟩
  intro possible
  obtain ⟨text, positions, graphic, created, same⟩ := possible
  have nameable := nameable_of_create _ text positions graphic created
  rw [same] at nameable
  obtain ⟨axis, isDimension, used, _legal⟩ := nameable "S" rfl
  have unused : ∀ axis ∈ Axis.dimensions, Scheme.uses .metoc axis = false := by decide
  exact absurd used (Bool.eq_false_iff.mp (unused axis isDimension))

end Graphic

end TacticalSymbols

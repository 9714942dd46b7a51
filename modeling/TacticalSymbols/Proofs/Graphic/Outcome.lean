import TacticalSymbols.Proofs.Graphic.LastWord
import TacticalSymbols.Proofs.Text

/-!
What making a graphic comes to. The questions are asked in a fixed order: the code must be readable,
the catalog must have a type for it, and the control points must be as many as the type takes. Then
there is a graphic, and of the parameters only what it would have to write into its code can be
refused.
-/

namespace TacticalSymbols

/-! ### Parameters in order -/

/-- The items are the parameters, in the order of the bytes of their spellings. -/
structure Parameters.Lists (parameters : Parameters) (items : List (String × Modifier.Value)) :
    Prop where
  ordered : items.Pairwise (fun left right => Text.bytes left.1 < Text.bytes right.1)
  listed : ∀ spelling value, (spelling, value) ∈ items ↔
    (parameters.bySpelling[spelling]?).map ParameterValue.toModifier = some value

private theorem Parameters.lists_modifiers (parameters : Parameters) :
    parameters.Lists parameters.modifiers := by
  constructor
  · unfold modifiers
    rw [List.pairwise_map]
    apply Std.ExtTreeMap.ordered_keys_toList.imp
    intro left right before
    exact (Text.bytes_lt_iff left.1 right.1).mpr (compareOfLessAndEq_eq_lt.mp before)
  · intro spelling value
    unfold modifiers
    rw [List.mem_map, Option.map_eq_some_iff]
    constructor
    · intro member
      obtain ⟨⟨again, held⟩, listed, same⟩ := member
      cases same
      exact ⟨held, Std.ExtTreeMap.mem_toList_iff_getElem?_eq_some.mp listed, rfl⟩
    · intro present
      obtain ⟨held, found, same⟩ := present
      exact ⟨(spelling, held), Std.ExtTreeMap.mem_toList_iff_getElem?_eq_some.mpr found,
        by rw [same]⟩

namespace Graphic

/-! ### Refused writes -/

private theorem exists_unwritable_of_writeModifier (graphic : Graphic) (spelling : String)
    (value : Modifier.Value) (reason : Graphic.Refusal)
    (refused : Update.outcome (writeModifier spelling value) graphic = .error reason) :
    ∃ because, reason = .unwritable because := by
  unfold Update.outcome at refused
  cases named : Modifier.ofSpelling? spelling with
  | none =>
      rw [run_writeModifier_of_unnamed spelling value graphic named] at refused
      cases refused
  | some modifier =>
      cases stored : graphic.descriptor.stores ⟨modifier, value⟩ with
      | false =>
          rw [graphic.run_writeModifier_of_unstored spelling ⟨modifier, value⟩ named stored]
            at refused
          cases refused
      | true =>
          rw [graphic.run_writeModifier_of_stored spelling ⟨modifier, value⟩ named stored,
            run_takeOver] at refused
          cases written : (graphic.fields.enter ⟨modifier, value⟩).encode with
          | error because =>
              rw [written] at refused
              exact ⟨because, (Except.error.inj refused).symm⟩
          | ok identifier =>
              rw [written] at refused
              cases refused

private theorem Stopped.exists_unwritable {reason : Graphic.Refusal} {graphic : Graphic}
    {items : List (String × Modifier.Value)} (stopped : Stopped reason graphic items) :
    ∃ because, reason = .unwritable because := by
  induction stopped with
  | here refused => exact exists_unwritable_of_writeModifier _ _ _ reason refused
  | later granted rest ih => exact ih

private theorem exists_unwritable_of_parameterized (parameters? : Option Parameters)
    (graphic : Graphic) (reason : Graphic.Refusal)
    (refused : parameterized parameters? graphic = .error reason) :
    ∃ because, reason = .unwritable because := by
  cases parameters? with
  | none => cases refused
  | some parameters =>
      exact ((applied_writeModifiers_eq_error_iff parameters.modifiers graphic reason).mp
        refused).exists_unwritable

/-! ### Outcomes -/

/-- Why no graphic is made. -/
inductive Unmade (catalog : Catalog) (text : String) (positions : List Position) :
    Graphic.Refusal → Prop where
  | unreadable (reason : ReadError) (unread : CodeFields.decode text = .error reason) :
      Unmade catalog text positions (.unreadable reason)
  | unknown (fields : CodeFields) (read : CodeFields.decode text = .ok fields)
      (missing : catalog.find? fields = none) :
      Unmade catalog text positions (.unknownType (fields.scheme?.getD .warfighting)
        fields.dimension? ((fields.token? .functionId).getD noFunctionId))
  | miscounted (fields : CodeFields) (descriptor : Descriptor)
      (read : CodeFields.decode text = .ok fields) (found : catalog.find? fields = some descriptor)
      (rejected : descriptor.points.accepts positions.length = false) :
      Unmade catalog text positions
        (.wrongPointCount descriptor.id descriptor.points positions.length)
  | unwritable (fields : CodeFields) (descriptor : Descriptor)
      (read : CodeFields.decode text = .ok fields) (found : catalog.find? fields = some descriptor)
      (counted : descriptor.points.accepts positions.length = true) (reason : WriteError) :
      Unmade catalog text positions (.unwritable reason)

private theorem unmade_of_create (catalog : Catalog) (text : String) (positions : List Position)
    (parameters? : Option Parameters) (reason : Graphic.Refusal)
    (refused : create catalog text positions parameters? = .error reason) :
    Unmade catalog text positions reason := by
  cases read : CodeFields.decode text with
  | error because =>
      rw [create_of_unreadable catalog text positions parameters? because read] at refused
      cases refused
      exact .unreadable because read
  | ok fields =>
      cases found : catalog.find? fields with
      | none =>
          rw [create_of_unknown catalog text positions parameters? fields read found] at refused
          cases refused
          exact .unknown fields read found
      | some descriptor =>
          cases counted : descriptor.points.accepts positions.length with
          | false =>
              rw [create_of_miscounted catalog text positions parameters? fields read descriptor
                found counted] at refused
              cases refused
              exact .miscounted fields descriptor read found counted
          | true =>
              rw [create_of_counted catalog text positions parameters? fields read descriptor found
                counted] at refused
              obtain ⟨because, same⟩ := exists_unwritable_of_parameterized _ _ _ refused
              rw [same]
              exact .unwritable fields descriptor read found counted because

section Outcomes

variable (catalog : Catalog) (text : String) (positions : List Position)
  (parameters? : Option Parameters)

theorem create_eq_unreadable_iff (reason : ReadError) :
    create catalog text positions parameters? = .error (.unreadable reason) ↔
      CodeFields.decode text = .error reason := by
  constructor
  · intro refused
    cases unmade_of_create _ _ _ _ _ refused with
    | unreadable _ unread => exact unread
  · exact create_of_unreadable catalog text positions parameters? reason

variable (fields : CodeFields) (read : CodeFields.decode text = .ok fields)

include read

theorem create_eq_unknownType_iff (reachable : catalog.Reachable) (scheme : Scheme)
    (dimension? : Option String) (functionId : String) :
    create catalog text positions parameters? =
        .error (.unknownType scheme dimension? functionId) ↔
      (∀ descriptor ∈ catalog.toList, descriptor.describes fields = false) ∧
        fields.scheme? = some scheme ∧ fields.dimension? = dimension? ∧
        (fields.token? .functionId).getD noFunctionId = functionId := by
  obtain ⟨named, reads⟩ := (CodeFields.decode_eq_ok_iff text fields).mp read
  have isNamed := CodeFields.scheme?_of_reads reads
  rw [← Catalog.find?_eq_none_iff_describes (Catalog.indexed_of_reachable catalog reachable)]
  constructor
  · intro refused
    cases unmade_of_create _ _ _ _ _ refused with
    | unknown again readAgain missing =>
        cases readAgain.symm.trans read
        exact ⟨missing, by rw [isNamed]; rfl, rfl, rfl⟩
  · intro missing
    obtain ⟨missing, isScheme, isDimension, isFunction⟩ := missing
    rw [create_of_unknown catalog text positions parameters? fields read missing, isScheme,
      isDimension, isFunction]
    rfl

theorem create_eq_wrongPointCount_iff (descriptor : Descriptor)
    (found : catalog.find? fields = some descriptor) (id : String) (rule : PointRule)
    (count : Nat) :
    create catalog text positions parameters? = .error (.wrongPointCount id rule count) ↔
      descriptor.points.accepts positions.length = false ∧ descriptor.id = id ∧
        descriptor.points = rule ∧ positions.length = count := by
  constructor
  · intro refused
    cases unmade_of_create _ _ _ _ _ refused with
    | miscounted again other readAgain foundAgain rejected =>
        cases readAgain.symm.trans read
        cases foundAgain.symm.trans found
        exact ⟨rejected, rfl, rfl, rfl⟩
  · intro miscounted
    obtain ⟨rejected, rfl, rfl, rfl⟩ := miscounted
    exact create_of_miscounted catalog text positions parameters? fields read descriptor found
      rejected

end Outcomes

/-- A graphic of which nothing is said but its code, its type and its control points. -/
structure Plain (graphic : Graphic) (text : String) (descriptor : Descriptor)
    (positions : List Position) : Prop where
  identifier : graphic.identifier = Text.upper text
  descriptor : graphic.descriptor = descriptor
  positions : graphic.positions = positions
  visible : graphic.visible = true
  shown : ∀ spelling, (graphic.carried? spelling).isSome = true →
    graphic.showsModifier spelling = true

private theorem plain_start (text : String) (fields : CodeFields) (descriptor : Descriptor)
    (positions : List Position) :
    (start text fields descriptor positions).Plain text descriptor positions := by
  refine ⟨rfl, rfl, rfl, rfl, ?_⟩
  intro spelling recognized
  obtain ⟨modifier, carried⟩ := Option.isSome_iff_exists.mp recognized
  rw [showsModifier, carried, Option.any_some]
  exact Markings.isVisible_align Markings.empty descriptor fields modifier
    (Option.filter_eq_some_iff.mp carried).2

/-- The outcomes of making a graphic over a catalog in use, in the order in which they are asked for.
A code that cannot be read is refused with the reason for that; then a code for which the catalog has
no type, then a number of control points that the type does not take. Otherwise there is a plain
graphic, and parameters are written to it in the order of the bytes of their spellings, until one is
refused. A graphic is never found to be of another type, and its flags never lack a token. -/
theorem create_outcomes (catalog : Catalog) (reachable : catalog.Reachable) (text : String)
    (positions : List Position) (parameters? : Option Parameters) :
    (∀ reason, create catalog text positions parameters? = .error (.unreadable reason) ↔
        CodeFields.decode text = .error reason) ∧
      (∀ fields, CodeFields.decode text = .ok fields →
        (∀ scheme dimension? functionId,
          create catalog text positions parameters? =
              .error (.unknownType scheme dimension? functionId) ↔
            (∀ descriptor ∈ catalog.toList, descriptor.describes fields = false) ∧
              fields.scheme? = some scheme ∧ fields.dimension? = dimension? ∧
              (fields.token? .functionId).getD noFunctionId = functionId) ∧
          ∀ descriptor, catalog.find? fields = some descriptor →
            (∀ id rule count,
              create catalog text positions parameters? =
                  .error (.wrongPointCount id rule count) ↔
                descriptor.points.accepts positions.length = false ∧ descriptor.id = id ∧
                  descriptor.points = rule ∧ positions.length = count) ∧
              (descriptor.points.accepts positions.length = true →
                ∃ plain, create catalog text positions none = .ok plain ∧
                  plain.Plain text descriptor positions ∧
                  ∀ parameters, parameters? = some parameters →
                    ∃ items, parameters.Lists items ∧
                      (∀ made, create catalog text positions parameters? = .ok made ↔
                        Written plain items made) ∧
                      ∀ reason, create catalog text positions parameters? = .error reason ↔
                        Stopped reason plain items)) ∧
      (∀ descriptor code,
        create catalog text positions parameters? ≠ .error (.typeChanged descriptor code)) ∧
      ∀ flags, create catalog text positions parameters? ≠ .error (.noToken flags) := by
  refine ⟨create_eq_unreadable_iff catalog text positions parameters?, ?_, ?_, ?_⟩
  · intro fields read
    refine ⟨create_eq_unknownType_iff catalog text positions parameters? fields read reachable, ?_⟩
    intro descriptor found
    refine ⟨create_eq_wrongPointCount_iff catalog text positions parameters? fields read descriptor
      found, ?_⟩
    intro counted
    have plain : create catalog text positions none = _ :=
      create_of_counted catalog text positions none fields read descriptor found counted
    refine ⟨_, plain, plain_start text fields descriptor positions, ?_⟩
    intro parameters given
    have whole := create_of_counted catalog text positions parameters? fields read descriptor found
      counted
    rw [given, parameterized] at whole
    rw [given, whole]
    exact ⟨_, parameters.lists_modifiers, applied_writeModifiers_eq_ok_iff parameters.modifiers _,
      applied_writeModifiers_eq_error_iff parameters.modifiers _⟩
  · intro descriptor code refused
    cases unmade_of_create _ _ _ _ _ refused
  · intro flags refused
    cases unmade_of_create _ _ _ _ _ refused

/-- The echelon is written before the installation, which has no room beside it. -/
theorem create_outcomes_secondRefused :
    let parameters := Parameters.ofPairs [("Installation", .text "H-"), ("B", .text "d")]
    ∃ plain items, Catalog.standard.Reachable ∧
      create Catalog.standard "sfgpuci--------" [⟨0, 0, 0⟩] none = .ok plain ∧
      plain.identifier = "SFGPUCI--------" ∧ parameters.Lists items ∧
      create Catalog.standard "sfgpuci--------" [⟨0, 0, 0⟩] (some parameters) =
        .error (.unwritable (.slotConflict .echelon .installation)) ∧
      Stopped (.unwritable (.slotConflict .echelon .installation)) plain items := by
  intro parameters
  have stopped : create Catalog.standard "sfgpuci--------" [⟨0, 0, 0⟩] (some parameters) =
      .error (.unwritable (.slotConflict .echelon .installation)) :=
    (create_of_counted Catalog.standard "sfgpuci--------" [⟨0, 0, 0⟩] (some parameters) _ rfl
      (Catalog.pointType .warfighting (some "G") "UCI---" "Infantry" Catalog.unitModifiers)
      (by decide +kernel) rfl).trans rfl
  obtain ⟨_unreadable, readable, _typed, _flags⟩ := create_outcomes Catalog.standard
    Catalog.reachable_standard "sfgpuci--------" [⟨0, 0, 0⟩] (some parameters)
  obtain ⟨_miscounted, counted⟩ := (readable _ rfl).2
    (Catalog.pointType .warfighting (some "G") "UCI---" "Infantry" Catalog.unitModifiers)
    (by decide +kernel)
  obtain ⟨plain, created, isPlain, written⟩ := counted rfl
  obtain ⟨items, lists, _granted, refused⟩ := written parameters rfl
  exact ⟨plain, items, Catalog.reachable_standard, created, isPlain.identifier, lists, stopped,
    (refused _).mp stopped⟩

end Graphic

end TacticalSymbols

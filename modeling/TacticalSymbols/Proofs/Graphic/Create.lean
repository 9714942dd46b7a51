import TacticalSymbols.Proofs.Catalog.Lookup
import TacticalSymbols.Proofs.Graphic.Effect
import TacticalSymbols.Proofs.Update

/-!
Making a graphic taken apart: the code is read, its type is found, the control points are counted,
and the parameters are written to the graphic that starts from these. The first question without an
answer ends it.
-/

namespace TacticalSymbols.Graphic

def start (text : String) (fields : CodeFields) (descriptor : Descriptor)
    (positions : List Position) : Graphic :=
  { identifier := Text.upper text
    fields := fields
    descriptor := descriptor
    positions := positions
    markings := Markings.empty.align descriptor fields
    display := Display.full
    style? := none
    visible := true }

theorem readCode_eq_ok_iff (text : String) (fields : CodeFields) :
    readCode text = .ok fields ↔ CodeFields.decode text = .ok fields := by
  rw [readCode_eq]
  cases CodeFields.decode text <;> simp

theorem checkType_eq_ok_iff (descriptor : Descriptor) (text : String) (fields : CodeFields) :
    descriptor.checkType text fields = .ok () ↔ descriptor.describes fields = true := by
  unfold Descriptor.checkType
  cases descriptor.describes fields <;> simp

theorem checkCount_eq_ok_iff (descriptor : Descriptor) (count : Nat) :
    descriptor.checkCount count = .ok () ↔ descriptor.points.accepts count = true := by
  unfold Descriptor.checkCount
  cases descriptor.points.accepts count <;> simp

theorem findType_eq_ok_iff (catalog : Catalog) (fields : CodeFields) (descriptor : Descriptor) :
    findType catalog fields = .ok descriptor ↔ catalog.find? fields = some descriptor := by
  unfold findType
  cases catalog.find? fields <;> simp

theorem new_eq_ok_iff (text : String) (descriptor : Descriptor) (positions : List Position)
    (graphic : Graphic) :
    new text descriptor positions = .ok graphic ↔
      ∃ fields, CodeFields.decode text = .ok fields ∧ descriptor.describes fields = true ∧
        descriptor.points.accepts positions.length = true ∧
        start text fields descriptor positions = graphic := by
  unfold new
  rw [Except.bind_eq_ok_iff]
  constructor
  · intro made
    obtain ⟨fields, read, checked⟩ := made
    obtain ⟨_, typed, checked⟩ := (Except.bind_eq_ok_iff _ _ _).mp checked
    obtain ⟨_, counted, made⟩ := (Except.bind_eq_ok_iff _ _ _).mp checked
    cases made
    exact ⟨fields, (readCode_eq_ok_iff text fields).mp read,
      (checkType_eq_ok_iff descriptor text fields).mp typed,
      (checkCount_eq_ok_iff descriptor positions.length).mp counted, rfl⟩
  · intro possible
    obtain ⟨fields, read, describes, counted, made⟩ := possible
    refine ⟨fields, (readCode_eq_ok_iff text fields).mpr read, ?_⟩
    rw [(checkType_eq_ok_iff descriptor text fields).mpr describes,
      (checkCount_eq_ok_iff descriptor positions.length).mpr counted, ← made]
    rfl

def parameterized (parameters? : Option Parameters) (graphic : Graphic) :
    Except Graphic.Refusal Graphic :=
  match parameters? with
  | some parameters => Update.applied (writeModifiers parameters.modifiers) graphic
  | none => .ok graphic

theorem parameterized_induction {motive : Graphic → Prop}
    (kept : ∀ before after, motive before → Effect before after → motive after)
    (parameters? : Option Parameters) (graphic made : Graphic)
    (written : parameterized parameters? graphic = .ok made) (holds : motive graphic) :
    motive made := by
  cases parameters? with
  | none =>
      cases written
      exact holds
  | some parameters =>
      have left := Update.after_of_applied _ graphic made written
      rw [← left]
      exact writeModifiers_induction kept parameters.modifiers graphic holds

section Questions

variable (catalog : Catalog) (text : String) (positions : List Position)
  (parameters? : Option Parameters)

theorem create_of_unreadable (reason : ReadError) (unread : CodeFields.decode text = .error reason) :
    create catalog text positions parameters? = .error (.unreadable reason) := by
  have refused : readCode text = .error (.unreadable reason) := by rw [readCode_eq, unread]
  exact Except.bind_of_error refused _

variable (fields : CodeFields) (read : CodeFields.decode text = .ok fields)

include read

theorem create_of_unknown (unknown : catalog.find? fields = none) :
    create catalog text positions parameters? =
      .error (.unknownType (fields.scheme?.getD .warfighting) fields.dimension?
        ((fields.token? .functionId).getD noFunctionId)) := by
  unfold create
  rw [Except.bind_of_ok ((readCode_eq_ok_iff text fields).mpr read)]
  apply Except.bind_of_error
  rw [findType, unknown]

variable (descriptor : Descriptor) (found : catalog.find? fields = some descriptor)

include found

theorem create_of_miscounted (rejected : descriptor.points.accepts positions.length = false) :
    create catalog text positions parameters? =
      .error (.wrongPointCount descriptor.id descriptor.points positions.length) := by
  have describes := catalog.describes_of_find? fields descriptor found
  unfold create new
  rw [Except.bind_of_ok ((readCode_eq_ok_iff text fields).mpr read),
    Except.bind_of_ok ((findType_eq_ok_iff catalog fields descriptor).mpr found),
    Except.bind_of_ok ((readCode_eq_ok_iff text fields).mpr read),
    Except.bind_of_ok ((checkType_eq_ok_iff descriptor text fields).mpr describes)]
  apply Except.bind_of_error
  apply Except.bind_of_error
  rw [Descriptor.checkCount, rejected]
  rfl

/-- What the catalog finds need not be asked for its type again. -/
theorem create_of_counted (counted : descriptor.points.accepts positions.length = true) :
    create catalog text positions parameters? =
      parameterized parameters? (start text fields descriptor positions) := by
  have describes := catalog.describes_of_find? fields descriptor found
  unfold create
  rw [Except.bind_of_ok ((readCode_eq_ok_iff text fields).mpr read),
    Except.bind_of_ok ((findType_eq_ok_iff catalog fields descriptor).mpr found),
    Except.bind_of_ok ((new_eq_ok_iff text descriptor positions _).mpr
      ⟨fields, read, describes, counted, rfl⟩)]
  cases parameters? <;> rfl

end Questions

theorem create_eq_ok_iff (catalog : Catalog) (text : String) (positions : List Position)
    (parameters? : Option Parameters) (graphic : Graphic) :
    create catalog text positions parameters? = .ok graphic ↔
      ∃ fields descriptor, CodeFields.decode text = .ok fields ∧
        catalog.find? fields = some descriptor ∧
        descriptor.points.accepts positions.length = true ∧
        parameterized parameters? (start text fields descriptor positions) = .ok graphic := by
  constructor
  · intro created
    cases read : CodeFields.decode text with
    | error reason =>
        rw [create_of_unreadable catalog text positions parameters? reason read] at created
        cases created
    | ok fields =>
        cases found : catalog.find? fields with
        | none =>
            rw [create_of_unknown catalog text positions parameters? fields read found] at created
            cases created
        | some descriptor =>
            cases counted : descriptor.points.accepts positions.length with
            | false =>
                rw [create_of_miscounted catalog text positions parameters? fields read descriptor
                  found counted] at created
                cases created
            | true =>
                rw [create_of_counted catalog text positions parameters? fields read descriptor
                  found counted] at created
                exact ⟨fields, descriptor, rfl, found, counted, created⟩
  · intro possible
    obtain ⟨fields, descriptor, read, found, counted, written⟩ := possible
    rw [create_of_counted catalog text positions parameters? fields read descriptor found counted]
    exact written

theorem create_of_find? (catalog : Catalog) (text : String) (positions : List Position)
    (fields : CodeFields) (descriptor : Descriptor) (read : CodeFields.decode text = .ok fields)
    (found : catalog.find? fields = some descriptor)
    (counted : descriptor.points.accepts positions.length = true) :
    create catalog text positions none = .ok (start text fields descriptor positions) :=
  create_of_counted catalog text positions none fields read descriptor found counted

end TacticalSymbols.Graphic

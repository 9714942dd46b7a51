import TacticalSymbols.Proofs.Graphic.Refusal

/-!
Modifiers written one after the other, as the parameters of a new graphic are: all of them are
granted, or the first that is refused ends the writing.
-/

namespace TacticalSymbols.Graphic

/-- All items are written in their order. -/
inductive Written : Graphic → List (String × Modifier.Value) → Graphic → Prop where
  | nothing (graphic : Graphic) : Written graphic [] graphic
  | next {before middle after : Graphic} {item : String × Modifier.Value}
      {items : List (String × Modifier.Value)}
      (granted : Update.run (writeModifier item.1 item.2) before = (.ok (), middle))
      (rest : Written middle items after) : Written before (item :: items) after

/-- Some item is refused when all those before it have been written. -/
inductive Stopped (reason : Graphic.Refusal) :
    Graphic → List (String × Modifier.Value) → Prop where
  | here {graphic : Graphic} {item : String × Modifier.Value}
      {items : List (String × Modifier.Value)}
      (refused : Update.outcome (writeModifier item.1 item.2) graphic = .error reason) :
      Stopped reason graphic (item :: items)
  | later {before middle : Graphic} {item : String × Modifier.Value}
      {items : List (String × Modifier.Value)}
      (granted : Update.run (writeModifier item.1 item.2) before = (.ok (), middle))
      (rest : Stopped reason middle items) : Stopped reason before (item :: items)

private theorem run_writeModifiers_cons (item : String × Modifier.Value)
    (items : List (String × Modifier.Value)) (graphic : Graphic) :
    Update.run (writeModifiers (item :: items)) graphic =
      match Update.run (writeModifier item.1 item.2) graphic with
      | (.ok _, middle) => Update.run (writeModifiers items) middle
      | (.error reason, left) => (.error reason, left) := by
  change Update.run (writeModifier item.1 item.2 >>= fun _ => writeModifiers items) graphic = _
  rw [Update.run_bind]
  rcases Update.run (writeModifier item.1 item.2) graphic with ⟨answer, left⟩
  cases answer <;> rfl

theorem run_writeModifiers_eq_ok_iff (items : List (String × Modifier.Value))
    (graphic left : Graphic) :
    Update.run (writeModifiers items) graphic = (.ok (), left) ↔ Written graphic items left := by
  induction items generalizing graphic with
  | nil =>
      constructor
      · intro ran
        cases ran
        exact .nothing _
      · intro written
        cases written
        rfl
  | cons item rest ih =>
      rw [run_writeModifiers_cons]
      rcases ran : Update.run (writeModifier item.1 item.2) graphic with ⟨answer, middle⟩
      cases answer with
      | error reason =>
          constructor
          · intro impossible
            cases impossible
          · intro written
            cases written with
            | next granted _ => exact absurd (ran.symm.trans granted) (by simp)
      | ok _ =>
          refine (ih middle).trans ⟨.next ran, ?_⟩
          intro written
          cases written with
          | next granted remaining =>
              cases ran.symm.trans granted
              exact remaining

theorem outcome_writeModifiers_eq_error_iff (items : List (String × Modifier.Value))
    (graphic : Graphic) (reason : Graphic.Refusal) :
    Update.outcome (writeModifiers items) graphic = .error reason ↔
      Stopped reason graphic items := by
  induction items generalizing graphic with
  | nil =>
      constructor
      · intro impossible
        cases impossible
      · intro impossible
        cases impossible
  | cons item rest ih =>
      rw [Update.outcome, run_writeModifiers_cons]
      rcases ran : Update.run (writeModifier item.1 item.2) graphic with ⟨answer, middle⟩
      cases answer with
      | error other =>
          constructor
          · intro refused
            exact .here ((congrArg Prod.fst ran).trans refused)
          · intro stopped
            cases stopped with
            | here refused => exact (congrArg Prod.fst ran).symm.trans refused
            | later granted _ => exact absurd (ran.symm.trans granted) (by simp)
      | ok _ =>
          refine (ih middle).trans ⟨.later ran, ?_⟩
          intro stopped
          cases stopped with
          | here refused =>
              have impossible := (congrArg Prod.fst ran).symm.trans refused
              cases impossible
          | later granted remaining =>
              cases ran.symm.trans granted
              exact remaining

theorem applied_writeModifiers_eq_ok_iff (items : List (String × Modifier.Value))
    (graphic left : Graphic) :
    Update.applied (writeModifiers items) graphic = .ok left ↔ Written graphic items left := by
  rw [Update.applied_eq_ok_iff, ← run_writeModifiers_eq_ok_iff]
  constructor
  · intro granted
    obtain ⟨_, ran⟩ := granted
    exact ran
  · intro ran
    exact ⟨(), ran⟩

theorem applied_writeModifiers_eq_error_iff (items : List (String × Modifier.Value))
    (graphic : Graphic) (reason : Graphic.Refusal) :
    Update.applied (writeModifiers items) graphic = .error reason ↔
      Stopped reason graphic items := by
  rw [Update.applied_eq_error_iff, outcome_writeModifiers_eq_error_iff]

theorem Written.run_eq {graphic left : Graphic} {items : List (String × Modifier.Value)}
    (written : Written graphic items left) :
    graphic.run (items.map (fun item => .writeModifier item.1 item.2)) = left := by
  induction written with
  | nothing graphic => rfl
  | next granted rest ih =>
      rw [List.map_cons, run, List.foldl_cons, ← ih]
      exact congrArg (fun middle => run middle _) (congrArg Prod.snd granted)

end TacticalSymbols.Graphic

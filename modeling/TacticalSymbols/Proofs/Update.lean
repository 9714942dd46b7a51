import TacticalSymbols.Update

/-!
Steps that can be refused, read backwards: what an answer says of the steps that led to it, and what
a refusal says of the state that is left. An update that asks before it writes anything is refused
with the state as it was.
-/

namespace TacticalSymbols

variable {ε σ α β : Type}

theorem Except.bind_eq_ok_iff (step : Except ε α) (next : α → Except ε β)
    (answer : β) :
    step >>= next = .ok answer ↔ ∃ value, step = .ok value ∧ next value = .ok answer := by
  cases step with
  | error reason =>
      constructor
      · intro impossible
        cases impossible
      · intro continued
        obtain ⟨value, impossible, _⟩ := continued
        cases impossible
  | ok value =>
      constructor
      · intro result
        exact ⟨value, rfl, result⟩
      · intro continued
        obtain ⟨other, same, result⟩ := continued
        cases same
        exact result

theorem Except.bind_eq_error_iff (step : Except ε α) (next : α → Except ε β) (reason : ε) :
    step >>= next = .error reason ↔
      step = .error reason ∨ ∃ value, step = .ok value ∧ next value = .error reason := by
  cases step with
  | error other => simp [bind, Except.bind]
  | ok value => simp [bind, Except.bind]

theorem Except.bind_of_ok {step : Except ε α} {value : α} (answered : step = .ok value)
    (next : α → Except ε β) : step >>= next = next value := by
  rw [answered]
  rfl

theorem Except.bind_of_error {step : Except ε α} {reason : ε} (refused : step = .error reason)
    (next : α → Except ε β) : step >>= next = .error reason := by
  rw [refused]
  rfl

/-- A chain of steps is refused where one of them is, after all those before it are taken. -/
theorem Except.foldlM_eq_error_iff (step : σ → α → Except ε σ) (items : List α) (start : σ)
    (reason : ε) :
    items.foldlM step start = .error reason ↔
      ∃ before item after middle, items = before ++ item :: after ∧
        before.foldlM step start = .ok middle ∧ step middle item = .error reason := by
  induction items generalizing start with
  | nil =>
      constructor
      · intro impossible
        cases impossible
      · intro stopped
        obtain ⟨before, item, after, middle, listed, _⟩ := stopped
        simp at listed
  | cons first rest ih =>
      rw [List.foldlM_cons, bind_eq_error_iff]
      constructor
      · intro refused
        rcases refused with atOnce | ⟨next, granted, later⟩
        · exact ⟨[], first, rest, start, rfl, rfl, atOnce⟩
        · obtain ⟨before, item, after, middle, listed, taken, refused⟩ := (ih next).mp later
          refine ⟨first :: before, item, after, middle, by rw [listed]; rfl, ?_, refused⟩
          rw [List.foldlM_cons, bind_of_ok granted]
          exact taken
      · intro stopped
        obtain ⟨before, item, after, middle, listed, taken, refused⟩ := stopped
        cases before with
        | nil =>
            cases listed
            cases taken
            exact .inl refused
        | cons head tail =>
            cases listed
            rw [List.foldlM_cons, bind_eq_ok_iff] at taken
            obtain ⟨next, granted, taken⟩ := taken
            exact .inr ⟨next, granted,
              (ih next).mpr ⟨tail, item, after, middle, rfl, taken, refused⟩⟩

theorem Update.after_of_applied (update : Update ε σ α) (state left : σ)
    (isLeft : applied update state = .ok left) : after update state = left := by
  unfold applied at isLeft
  cases answer : outcome update state with
  | error reason =>
      rw [answer] at isLeft
      cases isLeft
  | ok value =>
      rw [answer] at isLeft
      exact Except.ok.inj isLeft

namespace Update

/-! ### Answers -/

theorem run_bind_eq_ok_iff (update : Update ε σ α) (next : α → Update ε σ β) (state left : σ)
    (answer : β) :
    run (update >>= next) state = (.ok answer, left) ↔
      ∃ value middle, run update state = (.ok value, middle) ∧
        run (next value) middle = (.ok answer, left) := by
  rw [run_bind]
  rcases run update state with ⟨answered, middle⟩
  cases answered with
  | error reason => simp
  | ok value =>
      constructor
      · intro continued
        exact ⟨value, middle, rfl, continued⟩
      · intro taken
        obtain ⟨other, left, same, continued⟩ := taken
        cases same
        exact continued

theorem applied_eq_ok_iff (update : Update ε σ α) (state left : σ) :
    applied update state = .ok left ↔ ∃ answer, run update state = (.ok answer, left) := by
  unfold applied outcome after
  rcases run update state with ⟨answer, after⟩
  cases answer <;> simp [Except.map]

/-! ### Refusals -/

theorem applied_eq_error_iff (update : Update ε σ α) (state : σ) (reason : ε) :
    applied update state = .error reason ↔ outcome update state = .error reason := by
  unfold applied
  cases outcome update state <;> simp [Except.map]

/-- Whenever the update is refused, the state stays as it is. -/
def AllOrNothing (update : Update ε σ α) : Prop :=
  ∀ (state left : σ) (reason : ε), run update state = (.error reason, left) → left = state

def NeverRefused (update : Update ε σ α) : Prop :=
  ∀ (state left : σ) (reason : ε), run update state ≠ (.error reason, left)

theorem NeverRefused.allOrNothing {update : Update ε σ α} (granted : NeverRefused update) :
    AllOrNothing update := by
  intro state left reason refused
  exact absurd refused (granted state left reason)

theorem neverRefused_pure (value : α) : NeverRefused (pure value : Update ε σ α) := by
  intro state left reason refused
  rw [run_pure] at refused
  cases refused

theorem neverRefused_change (step : σ → σ) :
    NeverRefused (change step : Update ε σ Unit) := by
  intro state left reason refused
  rw [run_change] at refused
  cases refused

theorem NeverRefused.bind {update : Update ε σ α} {next : α → Update ε σ β}
    (granted : NeverRefused update) (continues : ∀ value, NeverRefused (next value)) :
    NeverRefused (update >>= next) := by
  intro state left reason refused
  rw [run_bind] at refused
  rcases ran : run update state with ⟨answer, after⟩
  rw [ran] at refused
  cases answer with
  | error other => exact granted state after other ran
  | ok value => exact continues value after left reason refused

theorem allOrNothing_get_bind {next : σ → Update ε σ α}
    (continues : ∀ state, AllOrNothing (next state)) : AllOrNothing (get >>= next) := by
  intro state left reason refused
  rw [run_bind, run_get] at refused
  exact continues state state left reason refused

theorem allOrNothing_require_bind {result : Except ε α} {next : α → Update ε σ β}
    (continues : ∀ value, AllOrNothing (next value)) :
    AllOrNothing (require result >>= next) := by
  intro state left reason refused
  rw [run_bind, run_require] at refused
  cases result with
  | error other => exact (congrArg Prod.snd refused).symm
  | ok value => exact continues value state left reason refused

end Update

end TacticalSymbols

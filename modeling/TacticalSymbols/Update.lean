/-!
Updates of a state that may be refused. A refusal does not undo anything by itself: the state that
an update leaves is part of its result, refused or not.
-/

namespace TacticalSymbols

variable {ε σ α β : Type}

/-- An update of a state `σ` that answers with a value `α` or is refused for a reason `ε`. -/
abbrev Update (ε σ α : Type) : Type :=
  ExceptT ε (StateM σ) α

namespace Update

def run (update : Update ε σ α) (state : σ) : Except ε α × σ :=
  StateT.run (ExceptT.run update) state

def outcome (update : Update ε σ α) (state : σ) : Except ε α :=
  (run update state).1

def after (update : Update ε σ α) (state : σ) : σ :=
  (run update state).2

def applied (update : Update ε σ α) (state : σ) : Except ε σ :=
  (outcome update state).map (fun _ => after update state)

/-- Goes on with a result, or is refused for the reason it gives. -/
def require (result : Except ε α) : Update ε σ α :=
  ExceptT.mk (pure result)

def change (step : σ → σ) : Update ε σ Unit :=
  modify step

@[simp] theorem run_pure (value : α) (state : σ) :
    run (pure value : Update ε σ α) state = (.ok value, state) :=
  rfl

@[simp] theorem run_get (state : σ) : run (get : Update ε σ σ) state = (.ok state, state) :=
  rfl

@[simp] theorem run_require (result : Except ε α) (state : σ) :
    run (require result) state = (result, state) :=
  rfl

@[simp] theorem run_change (step : σ → σ) (state : σ) :
    run (change step : Update ε σ Unit) state = (.ok (), step state) :=
  rfl

/-- A refusal ends an update; after an answer the next step goes on from the state that is left. -/
@[simp] theorem run_bind (update : Update ε σ α) (next : α → Update ε σ β) (state : σ) :
    run (update >>= next) state =
      match run update state with
      | (.ok value, left) => run (next value) left
      | (.error reason, left) => (.error reason, left) := by
  unfold run
  rw [ExceptT.run_bind, StateT.run_bind]
  rcases StateT.run (ExceptT.run update) state with ⟨answer, left⟩
  cases answer <;> rfl

end Update

end TacticalSymbols

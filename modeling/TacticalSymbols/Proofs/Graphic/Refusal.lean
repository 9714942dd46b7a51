import TacticalSymbols.Catalog.Standard
import TacticalSymbols.Graphic.Change
import TacticalSymbols.Proofs.Graphic.Create

/-!
Changes that do not happen. A change that is refused leaves the whole graphic as it is, and so does
one that is ignored because the graphic has no use for its modifier or the modifier none for its
value.
-/

namespace TacticalSymbols

def Modifier.Kind.takes : Modifier.Kind → Modifier.Value → Bool
  | .flag, .flag _ => true
  | .token, .token _ => true
  | .token, .text _ => true
  | .text, .text _ => true
  | _, _ => false

namespace Graphic

/-! ### Refused changes -/

theorem allOrNothing_operation (operation : Operation) :
    Update.AllOrNothing operation.change := by
  cases operation with
  | recode text => exact allOrNothing_recode text
  | reposition positions => exact allOrNothing_reposition positions
  | setVisible visible => exact (Update.neverRefused_change _).allOrNothing
  | setDisplay display => exact (Update.neverRefused_change _).allOrNothing
  | setStyle style? => exact (Update.neverRefused_change _).allOrNothing
  | showModifier spelling visible => exact allOrNothing_showModifier spelling visible
  | writeModifier spelling value => exact allOrNothing_writeModifier spelling value
  | designate held => exact allOrNothing_writeModifier _ _
  | shift delta => exact allOrNothing_shift delta
  | shiftTo target => exact allOrNothing_shiftTo target

/-! ### Ignored changes -/

theorem run_writeModifier_of_foreign (spelling : String) (value : Modifier.Value)
    (graphic : Graphic) (foreign : graphic.carried? spelling = none) :
    Update.run (writeModifier spelling value) graphic = (.ok (), graphic) := by
  rw [run_writeModifier, foreign]

theorem run_writeModifier_of_unnamed (spelling : String) (value : Modifier.Value)
    (graphic : Graphic) (unnamed : Modifier.ofSpelling? spelling = none) :
    Update.run (writeModifier spelling value) graphic = (.ok (), graphic) :=
  run_writeModifier_of_foreign spelling value graphic (by rw [carried?, unnamed]; rfl)

private theorem run_showModifier_of_foreign (spelling : String) (visible : Bool) (graphic : Graphic)
    (foreign : graphic.carried? spelling = none) :
    Update.run (showModifier spelling visible) graphic = (.ok (), graphic) := by
  rw [run_showModifier, foreign]

theorem run_writeModifier_of_notTaken (spelling : String) (modifier : Modifier)
    (value : Modifier.Value) (graphic : Graphic) (carried : graphic.carried? spelling = some modifier)
    (notTaken : modifier.kind.takes value = false) :
    Update.run (writeModifier spelling value) graphic = (.ok (), graphic) := by
  rw [run_writeModifier, carried]
  dsimp only
  revert notTaken
  cases modifier.kind <;> cases value <;> intro notTaken <;> first | rfl | cases notTaken

/-- In whatever state a graphic is, an operation on it that is refused leaves it as it is; and a
modifier that it does not carry, as well as a value that the modifier does not take, leaves it as it
is without being refused. -/
theorem unchanged_of_refused_or_ignored (graphic : Graphic) :
    (∀ (operation : Operation) (reason : Graphic.Refusal),
        Update.outcome operation.change graphic = .error reason →
          Update.after operation.change graphic = graphic) ∧
      (∀ spelling, graphic.carried? spelling = none →
        (∀ value, Update.run (writeModifier spelling value) graphic = (.ok (), graphic)) ∧
          ∀ visible, Update.run (showModifier spelling visible) graphic = (.ok (), graphic)) ∧
      ∀ spelling modifier value, graphic.carried? spelling = some modifier →
        modifier.kind.takes value = false →
          Update.run (writeModifier spelling value) graphic = (.ok (), graphic) := by
  refine ⟨?_, ?_, ?_⟩
  · intro operation reason refused
    exact allOrNothing_operation operation graphic _ reason (Prod.ext refused rfl)
  · intro spelling foreign
    exact ⟨fun value => run_writeModifier_of_foreign spelling value graphic foreign,
      fun visible => run_showModifier_of_foreign spelling visible graphic foreign⟩
  · intro spelling modifier value carried notTaken
    exact run_writeModifier_of_notTaken spelling modifier value graphic carried notTaken

/-- A mobility has no room beside a unit token, and a flag is no text. -/
theorem unchanged_of_refused_or_ignored_slotConflict :
    ∃ graphic, create Catalog.standard "SFGPUCI---AD---" [⟨0, 0, 0⟩] none = .ok graphic ∧
      Update.outcome (Operation.writeModifier "Mobility" (.token "MO")).change graphic =
        .error (.unwritable (.slotConflict .unitEquipment .mobility)) ∧
      Update.after (Operation.writeModifier "Mobility" (.token "MO")).change graphic = graphic ∧
      Update.run (writeModifier "headquarters" (.text "yes")) graphic = (.ok (), graphic) := by
  have created := create_of_find? Catalog.standard "SFGPUCI---AD---" [⟨0, 0, 0⟩] _
    (Catalog.pointType .warfighting (some "G") "UCI---" "Infantry" Catalog.unitModifiers) rfl
    (by decide +kernel) rfl
  obtain ⟨refused, _foreign, ignored⟩ := unchanged_of_refused_or_ignored _
  exact ⟨_, created, rfl, refused _ _ rfl, ignored "headquarters" .headquarters (.text "yes") rfl rfl⟩

end Graphic

end TacticalSymbols

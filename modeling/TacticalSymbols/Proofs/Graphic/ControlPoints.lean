import TacticalSymbols.Proofs.Catalog.Listing
import TacticalSymbols.Proofs.Graphic.Create

/-!
Control points. A graphic always has as many of them as its type takes: they are counted when the
graphic is made and whenever they are replaced. A catalog in use only holds types that take one point
for a point graphic and at least two for a line or an area, so a graphic has a point to be moved by,
and no move is refused.
-/

namespace TacticalSymbols

private theorem PointRule.minimum_le_of_accepts (rule : PointRule) (count : Nat)
    (accepted : rule.accepts count = true) : rule.minimum ≤ count := by
  cases rule with
  | exactly wanted => exact Nat.le_of_eq (beq_iff_eq.mp accepted).symm
  | atLeast wanted => exact of_decide_eq_true accepted

namespace Descriptor

private theorem points_of_pointGraphic (descriptor : Descriptor)
    (faultless : descriptor.fault? = none) (isPoint : descriptor.geometry = .point) :
    descriptor.points = .exactly 1 := by
  unfold fault? at faultless
  rw [isPoint] at faultless
  by_cases single : descriptor.points = .exactly 1
  · exact single
  · split at faultless
    · cases faultless
    · cases faultless

private theorem two_le_minimum_of_lineOrArea (descriptor : Descriptor)
    (faultless : descriptor.fault? = none) (notPoint : descriptor.geometry ≠ .point) :
    2 ≤ descriptor.points.minimum := by
  unfold fault? at faultless
  by_cases few : descriptor.points.minimum < 2
  · rw [if_pos few] at faultless
    split at faultless
    · cases faultless
    · cases shape : descriptor.geometry with
      | point => exact absurd shape notPoint
      | line =>
          rw [shape] at faultless
          cases faultless
      | area =>
          rw [shape] at faultless
          cases faultless
  · exact Nat.le_of_not_lt few

end Descriptor

namespace Graphic

/-- As many control points as the rule of the type says: one for a point graphic, and two or more
for a line or an area. -/
structure Placed (graphic : Graphic) : Prop where
  counted : graphic.descriptor.points.accepts graphic.positions.length = true
  single : graphic.geometry = .point → graphic.positions.length = 1
  several : graphic.geometry ≠ .point → 2 ≤ graphic.positions.length

private theorem placed_of_counted (graphic : Graphic) (faultless : graphic.descriptor.fault? = none)
    (counted : graphic.descriptor.points.accepts graphic.positions.length = true) :
    graphic.Placed := by
  refine ⟨counted, ?_, ?_⟩
  · intro isPoint
    rw [graphic.descriptor.points_of_pointGraphic faultless isPoint] at counted
    exact beq_iff_eq.mp counted
  · intro notPoint
    exact Nat.le_trans (graphic.descriptor.two_le_minimum_of_lineOrArea faultless notPoint)
      (PointRule.minimum_le_of_accepts _ _ counted)

theorem Placed.positions_ne_nil {graphic : Graphic} (placed : graphic.Placed) :
    graphic.positions ≠ [] := by
  intro empty
  by_cases isPoint : graphic.geometry = .point
  · have single := placed.single isPoint
    rw [empty] at single
    cases single
  · have several := placed.several isPoint
    rw [empty] at several
    exact absurd several (by decide)

/-! ### Moves -/

def moved (graphic : Graphic) (difference : Position) : Graphic :=
  { graphic with positions := graphic.positions.map (fun position => position + difference) }

/-- A move keeps the number of control points, so a count that was right is right afterwards. -/
private theorem run_shift_of_counted (graphic : Graphic) (difference : Position)
    (counted : graphic.descriptor.points.accepts graphic.positions.length = true) :
    Update.run (shift difference) graphic = (.ok (), graphic.moved difference) := by
  unfold shift
  rw [Update.run_bind, Update.run_get]
  dsimp only
  rw [run_reposition, List.length_map, if_pos counted]
  rfl

private theorem run_shiftTo_of_counted (graphic : Graphic) (target anchor : Position)
    (counted : graphic.descriptor.points.accepts graphic.positions.length = true)
    (anchored : graphic.anchor? = some anchor) :
    Update.run (shiftTo target) graphic = (.ok (), graphic.moved (target - anchor)) := by
  unfold shiftTo
  rw [Update.run_bind, Update.run_get]
  dsimp only
  rw [anchored]
  exact run_shift_of_counted graphic (target - anchor) counted

/-! ### Runs -/

def CountedOf (descriptor : Descriptor) (graphic : Graphic) : Prop :=
  graphic.descriptor = descriptor ∧
    graphic.descriptor.points.accepts graphic.positions.length = true

private theorem CountedOf.of_effect (descriptor : Descriptor) (before after : Graphic)
    (holds : CountedOf descriptor before) (effect : Effect before after) :
    CountedOf descriptor after := by
  obtain ⟨isOf, counted⟩ := holds
  cases effect with
  | placed positions newlyCounted => exact ⟨isOf, newlyCounted⟩
  | unchanged => exact ⟨isOf, counted⟩
  | drawn visible display style? => exact ⟨isOf, counted⟩
  | shown modifier visible carried => exact ⟨isOf, counted⟩
  | noted modifier held carried isText => exact ⟨isOf, counted⟩
  | recoded text fields read describes => exact ⟨isOf, counted⟩
  | edited identifier fields edit written => exact ⟨isOf, counted⟩

theorem placed_run (catalog : Catalog) (reachable : catalog.Reachable) (text : String)
    (positions : List Position) (parameters? : Option Parameters) (made : Graphic)
    (operations : List Operation)
    (created : create catalog text positions parameters? = .ok made) :
    (made.run operations).Placed := by
  obtain ⟨fields, descriptor, _read, found, counted, written⟩ :=
    (create_eq_ok_iff catalog text positions parameters? made).mp created
  have begun : CountedOf descriptor (start text fields descriptor positions) := ⟨rfl, counted⟩
  have ended : CountedOf descriptor (made.run operations) :=
    run_induction (CountedOf.of_effect descriptor) operations made
      (parameterized_induction (CountedOf.of_effect descriptor) parameters? _ made written begun)
  have listed := (Catalog.prefers_of_find?
    (Catalog.indexed_of_reachable catalog reachable) fields descriptor found).1
  rw [Catalog.mem_toList_iff (Catalog.indexed_of_reachable catalog reachable)] at listed
  have faultless := Catalog.sound_of_reachable catalog reachable descriptor.id descriptor listed
  apply placed_of_counted
  · rw [ended.1]
    exact faultless
  · exact ended.2

/-- Whatever is done to a graphic that a catalog in use made, it has as many control points as its
type takes: exactly one for a point graphic, at least two for a line or an area. So there is a point
that it is moved by, and every move is granted: it takes each control point on by the same difference,
in their order, and changes nothing else. -/
theorem points_run_of_create (catalog : Catalog) (reachable : catalog.Reachable) (text : String)
    (positions : List Position) (parameters? : Option Parameters) (made : Graphic)
    (operations : List Operation)
    (created : create catalog text positions parameters? = .ok made) :
    (made.run operations).Placed ∧
      (∀ difference, Update.run (shift difference) (made.run operations) =
        (.ok (), (made.run operations).moved difference)) ∧
      ∃ anchor, (made.run operations).anchor? = some anchor ∧
        ∀ target, Update.run (shiftTo target) (made.run operations) =
          (.ok (), (made.run operations).moved (target - anchor)) := by
  have placed := placed_run catalog reachable text positions parameters? made operations created
  refine ⟨placed, ?_, ?_⟩
  · intro difference
    exact run_shift_of_counted _ difference placed.counted
  · have anchored : (made.run operations).anchor? = some _ :=
      List.head?_eq_some_head placed.positions_ne_nil
    exact ⟨_, anchored, fun target => run_shiftTo_of_counted _ target _ placed.counted anchored⟩

/-- An ambush takes exactly three points. It refuses to have two, and moves with all three. -/
theorem points_run_of_create_refusedReposition :
    let operations : List Operation := [.reposition [⟨0, 0, 0⟩, ⟨1, 0, 0⟩], .shift ⟨0, 1, 0⟩]
    ∃ made, Catalog.standard.Reachable ∧
      create Catalog.standard "GHGPSLA--------" [⟨0, 0, 0⟩, ⟨1, 0, 0⟩, ⟨1, 1, 0⟩] none = .ok made ∧
      Update.outcome (reposition [⟨0, 0, 0⟩, ⟨1, 0, 0⟩]) made =
        .error (.wrongPointCount "G*G*SLA---" (.exactly 3) 2) ∧
      (made.run operations).Placed ∧
      Update.run (shiftTo ⟨5, 5, 0⟩) (made.run operations) =
        (.ok (), (made.run operations).moved (⟨5, 5, 0⟩ - (⟨0, 0, 0⟩ + ⟨0, 1, 0⟩))) := by
  intro operations
  have created := create_of_find? Catalog.standard "GHGPSLA--------"
    [⟨0, 0, 0⟩, ⟨1, 0, 0⟩, ⟨1, 1, 0⟩] _
    (Catalog.graphicType .tacticalGraphics (some "G") "SLA---" "Ambush" .line (.exactly 3) []) rfl
    (by decide +kernel) rfl
  obtain ⟨placed, _shifted, anchor, anchored, shiftedTo⟩ :=
    points_run_of_create _ Catalog.reachable_standard _ _ _ _ operations created
  have isAnchor : some (⟨0, 0, 0⟩ + ⟨0, 1, 0⟩) = some anchor := anchored
  cases isAnchor
  exact ⟨_, Catalog.reachable_standard, created, rfl, placed, shiftedTo ⟨5, 5, 0⟩⟩

end Graphic

end TacticalSymbols

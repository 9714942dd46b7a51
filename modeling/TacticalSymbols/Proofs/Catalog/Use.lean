import TacticalSymbols.Catalog.Load
import TacticalSymbols.Proofs.Update

/-!
Catalogs in use. All that operations do to a catalog is to put in descriptors without fault, so what
that keeps holds of every catalog in use.
-/

namespace TacticalSymbols.Catalog

theorem checkAll_eq_ok_iff (descriptors : List Descriptor) :
    checkAll descriptors = .ok () ↔ ∀ descriptor ∈ descriptors, descriptor.fault? = none := by
  induction descriptors with
  | nil => simp [checkAll, pure, Except.pure]
  | cons first rest ih =>
      change (check first >>= fun _ => checkAll rest) = .ok () ↔ _
      rw [List.forall_mem_cons]
      cases fault : first.fault? with
      | some held => simp [check, fault, bind, Except.bind]
      | none => simpa [check, fault, bind, Except.bind] using ih

/-! ### What operations do -/

theorem run_add (descriptor : Descriptor) (catalog : Catalog) :
    Update.run (add descriptor) catalog =
      match descriptor.fault? with
      | some fault => (.error (.invalidDescriptor descriptor.id fault), catalog)
      | none => (.ok (), catalog.insert descriptor) := by
  unfold add check
  simp only [Update.run_bind, Update.run_require, Update.run_change]
  cases descriptor.fault? <;> rfl

/-- The checked file of a text. No catalog has a say in it. -/
def fileOf (name content : String) : Except Catalog.Refusal CatalogDocument := do
  let file ← readFile name content
  checkEngine name file.engineMinVersion
  checkAll file.descriptors
  return file

private theorem faultless_of_fileOf (name content : String) (file : CatalogDocument)
    (checked : fileOf name content = .ok file) :
    ∀ descriptor ∈ file.descriptors, descriptor.fault? = none := by
  unfold fileOf at checked
  simp only [Except.bind_eq_ok_iff] at checked
  obtain ⟨_, _, _, _, _, faultless, same⟩ := checked
  cases same
  exact (checkAll_eq_ok_iff _).mp faultless

theorem run_load (name content : String) (catalog : Catalog) :
    Update.run (load name content) catalog =
      match fileOf name content with
      | .ok file => (.ok file.descriptors.length, catalog.insertAll file.descriptors)
      | .error reason => (.error reason, catalog) := by
  unfold load fileOf
  simp only [Update.run_bind, Update.run_require]
  cases readFile name content with
  | error reason => rfl
  | ok file =>
      rw [Except.bind_of_ok rfl]
      dsimp only
      cases checkEngine name file.engineMinVersion with
      | error reason => rfl
      | ok _ =>
          rw [Except.bind_of_ok rfl]
          dsimp only
          cases checkAll file.descriptors <;> rfl

private theorem after_change (operation : Operation) (catalog : Catalog) :
    Update.after operation.change catalog = catalog ∨
      ∃ descriptors, (∀ descriptor ∈ descriptors, descriptor.fault? = none) ∧
        Update.after operation.change catalog = catalog.insertAll descriptors := by
  unfold Update.after
  cases operation with
  | add descriptor =>
      rw [Operation.change, Update.run_bind, run_add]
      cases faultless : descriptor.fault? with
      | some fault => exact .inl rfl
      | none => exact .inr ⟨[descriptor], List.forall_mem_singleton.mpr faultless, rfl⟩
  | load name content =>
      rw [Operation.change, run_load]
      cases checked : fileOf name content with
      | error reason => exact .inl rfl
      | ok file =>
          exact .inr ⟨file.descriptors, faultless_of_fileOf name content file checked, rfl⟩

theorem reachable_standard : standard.Reachable := by
  refine ⟨[], .inr ?_⟩
  rw [run, List.foldl_nil]

private theorem standardTypes_sound :
    ∀ descriptor ∈ standardTypes, descriptor.fault? = none := by
  decide +kernel

section Induction

variable {motive : Catalog → Prop}
  (inserted : ∀ catalog descriptor, motive catalog → descriptor.fault? = none →
    motive (catalog.insert descriptor))

include inserted

theorem insertAll_induction (descriptors : List Descriptor) (catalog : Catalog)
    (sound : ∀ descriptor ∈ descriptors, descriptor.fault? = none) (holds : motive catalog) :
    motive (catalog.insertAll descriptors) := by
  induction descriptors generalizing catalog with
  | nil => exact holds
  | cons first rest ih =>
      exact ih (catalog.insert first)
        (fun descriptor member => sound descriptor (List.mem_cons_of_mem first member))
        (inserted catalog first holds (sound first List.mem_cons_self))

theorem run_induction (operations : List Operation) (catalog : Catalog) (holds : motive catalog) :
    motive (run catalog operations) := by
  induction operations generalizing catalog with
  | nil => exact holds
  | cons operation rest ih =>
      apply ih
      change motive (Update.after operation.change catalog)
      rcases after_change operation catalog with unchanged | ⟨descriptors, sound, changed⟩
      · rw [unchanged]
        exact holds
      · rw [changed]
        exact insertAll_induction inserted descriptors catalog sound holds

/-- What holds of the empty catalog, and is kept whenever a descriptor without fault is put in,
holds of every catalog in use. -/
theorem Reachable.induction (start : motive empty) (catalog : Catalog)
    (reachable : catalog.Reachable) : motive catalog := by
  obtain ⟨operations, fromEmpty | fromStandard⟩ := reachable
  · rw [fromEmpty]
    exact run_induction inserted operations empty start
  · rw [fromStandard]
    exact run_induction inserted operations standard
      (insertAll_induction inserted standardTypes empty standardTypes_sound start)

end Induction

end TacticalSymbols.Catalog

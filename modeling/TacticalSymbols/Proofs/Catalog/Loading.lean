import TacticalSymbols.Proofs.Catalog.Replacement

/-!
What comes of loading a catalog file. A file that can be loaded adds its descriptors one after the
other, as adding each of them by itself would; any other file changes nothing, and the first thing
wrong with it is named: its text, then the engine that it requires, then the first descriptor with a
fault.
-/

namespace TacticalSymbols

deriving instance DecidableEq for CatalogDocument

namespace Catalog

/-! ### Files -/

/-- The version that the requirement of a file is held against. -/
def engine : Version :=
  { major := 1, minor := 0, patch := 0, preRelease := [], build := [] }

theorem parse?_engineVersion : Version.parse? engineVersion = some engine := by
  decide +kernel

/-- The requirement of a file is a version that does not come after that of the engine. -/
def Serves (required : String) : Prop :=
  ∃ minimum, Version.parse? required = some minimum ∧ engine.order minimum ≠ .lt

structure Loadable (content : String) (file : CatalogDocument) : Prop where
  read : CatalogDocument.parse? content = some file
  serves : Serves file.engineMinVersion
  faultless : ∀ descriptor ∈ file.descriptors, descriptor.fault? = none

/-- Why a file is not loaded. Each reason counts only where there is none of those before it, and of
descriptors with a fault the first is named. -/
inductive Unloadable (name content : String) : Catalog.Refusal → Prop where
  | malformed (unread : CatalogDocument.parse? content = none) :
      Unloadable name content (.malformed name)
  | invalidVersion {file : CatalogDocument} (read : CatalogDocument.parse? content = some file)
      (invalid : Version.parse? file.engineMinVersion = none) :
      Unloadable name content (.invalidVersion file.engineMinVersion)
  | engineTooOld {file : CatalogDocument} {minimum : Version}
      (read : CatalogDocument.parse? content = some file)
      (valid : Version.parse? file.engineMinVersion = some minimum)
      (newer : engine.order minimum = .lt) :
      Unloadable name content (.engineTooOld name file.engineMinVersion engineVersion)
  | invalidDescriptor {file : CatalogDocument} {before after : List Descriptor}
      {faulty : Descriptor} {fault : Descriptor.Fault}
      (read : CatalogDocument.parse? content = some file) (serves : Serves file.engineMinVersion)
      (listed : file.descriptors = before ++ faulty :: after)
      (faultless : ∀ descriptor ∈ before, descriptor.fault? = none)
      (isFaulty : faulty.fault? = some fault) :
      Unloadable name content (.invalidDescriptor faulty.id fault)

/-! ### The checks -/

private theorem checkEngine_eq (name required : String) :
    checkEngine name required =
      match Version.parse? required with
      | none => .error (.invalidVersion required)
      | some minimum =>
          if engine.order minimum = .lt then .error (.engineTooOld name required engineVersion)
          else .ok () := by
  unfold checkEngine parseVersion
  rw [parse?_engineVersion]
  cases Version.parse? required <;> rfl

private theorem checkEngine_eq_ok_iff (name required : String) :
    checkEngine name required = .ok () ↔ Serves required := by
  rw [checkEngine_eq]
  unfold Serves
  cases Version.parse? required with
  | none => simp
  | some minimum =>
      by_cases newer : engine.order minimum = .lt
      · simp [newer]
      · simp [newer]

private theorem checkEngine_eq_error_iff (name required : String) (reason : Catalog.Refusal) :
    checkEngine name required = .error reason ↔
      (Version.parse? required = none ∧ reason = .invalidVersion required) ∨
        ∃ minimum, Version.parse? required = some minimum ∧ engine.order minimum = .lt ∧
          reason = .engineTooOld name required engineVersion := by
  rw [checkEngine_eq]
  cases Version.parse? required with
  | none => simp [eq_comm]
  | some minimum =>
      by_cases newer : engine.order minimum = .lt
      · simp [newer, eq_comm]
      · simp [newer]

theorem check_eq_error_iff (descriptor : Descriptor) (reason : Catalog.Refusal) :
    check descriptor = .error reason ↔
      ∃ fault, descriptor.fault? = some fault ∧
        reason = .invalidDescriptor descriptor.id fault := by
  unfold check
  cases descriptor.fault? <;> simp [eq_comm]

private theorem checkAll_eq_foldlM (descriptors : List Descriptor) :
    checkAll descriptors = descriptors.foldlM (fun _ descriptor => check descriptor) () := by
  induction descriptors with
  | nil => rfl
  | cons first rest ih =>
      change (check first >>= fun _ => checkAll rest) = _
      rw [List.foldlM_cons, ih]

theorem checkAll_eq_error_iff (descriptors : List Descriptor) (reason : Catalog.Refusal) :
    checkAll descriptors = .error reason ↔
      ∃ before faulty after fault, descriptors = before ++ faulty :: after ∧
        (∀ descriptor ∈ before, descriptor.fault? = none) ∧ faulty.fault? = some fault ∧
          reason = .invalidDescriptor faulty.id fault := by
  rw [checkAll_eq_foldlM, Except.foldlM_eq_error_iff]
  simp only [← checkAll_eq_foldlM, check_eq_error_iff]
  constructor
  · intro stopped
    obtain ⟨before, faulty, after, _, listed, checked, fault, isFaulty, named⟩ := stopped
    exact ⟨before, faulty, after, fault, listed, (checkAll_eq_ok_iff before).mp checked, isFaulty,
      named⟩
  · intro found
    obtain ⟨before, faulty, after, fault, listed, faultless, isFaulty, named⟩ := found
    exact ⟨before, faulty, after, (), listed, (checkAll_eq_ok_iff before).mpr faultless, fault,
      isFaulty, named⟩

/-! ### The file of a text -/

theorem fileOf_eq_ok_iff (name content : String) (file : CatalogDocument) :
    fileOf name content = .ok file ↔ Loadable content file := by
  unfold fileOf readFile
  cases read : CatalogDocument.parse? content with
  | none =>
      constructor
      · intro impossible
        cases impossible
      · intro loadable
        exact absurd (read.symm.trans loadable.read) (by simp)
  | some found =>
      rw [Except.bind_of_ok rfl]
      simp only [Except.bind_eq_ok_iff]
      constructor
      · intro checked
        obtain ⟨_, serves, _, faultless, same⟩ := checked
        cases same
        exact ⟨read, (checkEngine_eq_ok_iff _ _).mp serves, (checkAll_eq_ok_iff _).mp faultless⟩
      · intro loadable
        cases read.symm.trans loadable.read
        exact ⟨(), (checkEngine_eq_ok_iff _ _).mpr loadable.serves, (),
          (checkAll_eq_ok_iff _).mpr loadable.faultless, rfl⟩

theorem fileOf_eq_error_iff (name content : String) (reason : Catalog.Refusal) :
    fileOf name content = .error reason ↔ Unloadable name content reason := by
  unfold fileOf readFile
  cases read : CatalogDocument.parse? content with
  | none =>
      rw [Except.bind_of_error rfl]
      constructor
      · intro same
        cases same
        exact .malformed read
      · intro unloadable
        cases unloadable with
        | malformed _ => rfl
        | invalidVersion other _ => exact absurd (read.symm.trans other) (by simp)
        | engineTooOld other _ _ => exact absurd (read.symm.trans other) (by simp)
        | invalidDescriptor other _ _ _ _ => exact absurd (read.symm.trans other) (by simp)
  | some file =>
      rw [Except.bind_of_ok rfl]
      simp only [Except.bind_eq_error_iff, checkEngine_eq_error_iff, checkAll_eq_error_iff]
      constructor
      · intro refused
        rcases refused with (⟨invalid, same⟩ | ⟨minimum, valid, newer, same⟩) |
          ⟨_, serves, ⟨before, faulty, after, fault, listed, faultless, isFaulty, same⟩ |
            ⟨_, _, impossible⟩⟩
        · rw [same]
          exact .invalidVersion read invalid
        · rw [same]
          exact .engineTooOld read valid newer
        · rw [same]
          exact .invalidDescriptor read ((checkEngine_eq_ok_iff _ _).mp serves) listed faultless
            isFaulty
        · cases impossible
      · intro unloadable
        cases unloadable with
        | malformed unread => exact absurd (read.symm.trans unread) (by simp)
        | invalidVersion other invalid =>
            cases read.symm.trans other
            exact .inl (.inl ⟨invalid, rfl⟩)
        | engineTooOld other valid newer =>
            cases read.symm.trans other
            exact .inl (.inr ⟨_, valid, newer, rfl⟩)
        | invalidDescriptor other serves listed faultless isFaulty =>
            cases read.symm.trans other
            exact .inr ⟨(), (checkEngine_eq_ok_iff _ _).mpr serves,
              .inl ⟨_, _, _, _, listed, faultless, isFaulty, rfl⟩⟩

/-! ### Loading -/

theorem run_load_eq_error_iff (name content : String) (catalog left : Catalog)
    (reason : Catalog.Refusal) :
    Update.run (load name content) catalog = (.error reason, left) ↔
      Unloadable name content reason ∧ left = catalog := by
  rw [run_load, ← fileOf_eq_error_iff]
  cases fileOf name content <;> simp [eq_comm]

theorem run_load_eq_ok_iff (name content : String) (catalog left : Catalog) (count : Nat) :
    Update.run (load name content) catalog = (.ok count, left) ↔
      ∃ file, Loadable content file ∧ count = file.descriptors.length ∧
        left = catalog.insertAll file.descriptors := by
  simp only [run_load, ← fileOf_eq_ok_iff name content]
  cases fileOf name content <;> simp [eq_comm]

theorem run_load_of_loadable (name : String) {content : String} {file : CatalogDocument}
    (loadable : Loadable content file) (catalog : Catalog) :
    Update.run (load name content) catalog =
      (.ok file.descriptors.length, catalog.insertAll file.descriptors) :=
  (run_load_eq_ok_iff _ _ _ _ _).mpr ⟨file, loadable, rfl, rfl⟩

theorem run_load_of_read (name content : String) (catalog left : Catalog) (file : CatalogDocument)
    (count : Nat) (read : CatalogDocument.parse? content = some file)
    (loaded : Update.run (load name content) catalog = (.ok count, left)) :
    Loadable content file ∧ count = file.descriptors.length ∧
      left = catalog.insertAll file.descriptors := by
  obtain ⟨found, loadable, isCount, isLeft⟩ := (run_load_eq_ok_iff _ _ _ _ _).mp loaded
  cases loadable.read.symm.trans read
  exact ⟨loadable, isCount, isLeft⟩

private theorem run_forM_add (descriptors : List Descriptor) (catalog left : Catalog) :
    Update.run (descriptors.forM add) catalog = (.ok (), left) ↔
      (∀ descriptor ∈ descriptors, descriptor.fault? = none) ∧
        left = catalog.insertAll descriptors := by
  induction descriptors generalizing catalog with
  | nil =>
      change Update.run (pure ()) catalog = (.ok (), left) ↔ _
      rw [Update.run_pure]
      simp [insertAll, eq_comm]
  | cons first rest ih =>
      change Update.run (add first >>= fun _ => rest.forM add) catalog = (.ok (), left) ↔ _
      rw [Update.run_bind, run_add, List.forall_mem_cons]
      cases isFaulty : first.fault? with
      | some fault => simp
      | none =>
          dsimp only
          rw [ih, and_assoc, and_iff_right rfl]
          rfl

/-- Loading is all or nothing. Either the file cannot be loaded, and the catalog stays as it is, or
all its descriptors are added in their order, none of them refused, and the answer is how many there
are. -/
theorem load_allOrNothing (name content : String) (catalog left : Catalog) :
    (∀ reason, Update.run (load name content) catalog = (.error reason, left) ↔
        Unloadable name content reason ∧ left = catalog) ∧
      (∀ count, Update.run (load name content) catalog = (.ok count, left) ↔
        ∃ file, Loadable content file ∧ count = file.descriptors.length ∧
          Update.run (file.descriptors.forM add) catalog = (.ok (), left)) := by
  refine ⟨run_load_eq_error_iff name content catalog left, ?_⟩
  intro count
  rw [run_load_eq_ok_iff]
  refine exists_congr (fun file => and_congr_right (fun loadable => and_congr_right (fun _ => ?_)))
  rw [run_forM_add, and_iff_right loadable.faultless]

end Catalog

end TacticalSymbols

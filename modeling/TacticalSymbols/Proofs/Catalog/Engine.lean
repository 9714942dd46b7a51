import TacticalSymbols.Proofs.Catalog.Loading
import TacticalSymbols.Proofs.Version.Precedence

/-!
The engine that a catalog file requires. A file is refused for it exactly where its requirement
comes after the engine in the full order of versions: by precedence, or by build metadata alone.
-/

namespace TacticalSymbols.Catalog

open Version

private theorem valid_engine : engine.Valid :=
  ⟨List.forall_mem_nil _, List.forall_mem_nil _⟩

theorem engine_order_eq_lt_iff {version : Version} (valid : version.Valid) :
    engine.order version = .lt ↔
      engine.Precedes version ∨ engine.SamePrecedence version ∧ version.build ≠ [] := by
  rw [order_eq_lt_iff valid_engine valid]
  have withMetadata :
      compareLists compareBuildIdentifiers engine.build version.build = .lt ↔
        version.build ≠ [] := by
    cases version.build <;> simp [engine, compareLists]
  rw [withMetadata]

/-- A file is refused for its engine exactly where its requirement fits into 64 bits and either has
higher precedence than the engine or has the same precedence and build metadata. A requirement that
does not fit is no version. -/
theorem load_eq_engineTooOld_iff (name content : String) (catalog : Catalog)
    (file : CatalogDocument) (version : Version)
    (read : CatalogDocument.parse? content = some file) (valid : version.Valid)
    (written : file.engineMinVersion = version.text) :
    (∀ named required current left,
      Update.run (load name content) catalog =
          (.error (.engineTooOld named required current), left) ↔
        (version.Bounded ∧
          (engine.Precedes version ∨ engine.SamePrecedence version ∧ version.build ≠ [])) ∧
        named = name ∧ required = version.text ∧ current = engineVersion ∧ left = catalog) ∧
      (¬version.Bounded →
        Update.run (load name content) catalog =
          (.error (.invalidVersion version.text), catalog)) := by
  constructor
  · intro named required current left
    rw [run_load_eq_error_iff, ← engine_order_eq_lt_iff valid]
    constructor
    · intro refused
      obtain ⟨unloadable, unchanged⟩ := refused
      cases unloadable with
      | engineTooOld otherRead parsed newer =>
          cases read.symm.trans otherRead
          obtain ⟨minimumValid, bounded, same⟩ := (parse?_eq_some_iff ..).mp parsed
          cases valid.eq_of_text_eq minimumValid (written.symm.trans same)
          exact ⟨⟨bounded, newer⟩, rfl, written, rfl, unchanged⟩
    · intro newer
      obtain ⟨⟨bounded, newer⟩, rfl, rfl, rfl, unchanged⟩ := newer
      rw [← written]
      refine ⟨.engineTooOld read ?_ newer, unchanged⟩
      rw [written]
      exact valid.parse?_text_eq_some bounded
  · intro unbounded
    rw [run_load_eq_error_iff, ← written]
    refine ⟨.invalidVersion read ?_, rfl⟩
    rw [written]
    exact valid.parse?_text_eq_none unbounded

theorem load_eq_engineTooOld_iff_preRelease :
    let content := "[\"\",\"1.0.1-rc.2+x\",[]]"
    let version : Version := ⟨1, 0, 1, ["rc", "2"], ["x"]⟩
    CatalogDocument.parse? content = some ⟨"", "1.0.1-rc.2+x", []⟩ ∧ version.Valid ∧
      "1.0.1-rc.2+x" = version.text ∧ engine.Precedes version ∧
      Update.run (load "soon" content) standard =
        (.error (.engineTooOld "soon" "1.0.1-rc.2+x" engineVersion), standard) := by
  intro content version
  have read : CatalogDocument.parse? content = some ⟨"", "1.0.1-rc.2+x", []⟩ := by
    decide +kernel
  have valid : version.Valid := by
    decide +kernel
  have written : "1.0.1-rc.2+x" = version.text := by
    decide +kernel
  have newer : engine.Precedes version := .patch rfl rfl (by decide)
  have bounded : version.Bounded := ⟨by decide, by decide, by decide⟩
  refine ⟨read, valid, written, newer, ?_⟩
  exact ((load_eq_engineTooOld_iff "soon" content standard _ version read valid written).1
    _ _ _ _).mpr ⟨⟨bounded, .inl newer⟩, rfl, written, rfl, rfl⟩

/-- Build metadata has no part in precedence, but a requirement that has some is refused by the
engine of the same precedence. -/
theorem load_eq_engineTooOld_of_buildMetadata :
    let content :=
      "\x7b\"catalogVersion\":\"1.0.0\",\"engineMinVersion\":\"1.0.0+0\",\"descriptors\":[]\x7d"
    let version : Version := ⟨1, 0, 0, [], ["0"]⟩
    CatalogDocument.parse? content = some ⟨"1.0.0", "1.0.0+0", []⟩ ∧ version.Valid ∧
      version.Bounded ∧ "1.0.0+0" = version.text ∧ ¬engine.Precedes version ∧
      Update.run (load "build" content) standard =
        (.error (.engineTooOld "build" "1.0.0+0" engineVersion), standard) := by
  intro content version
  have read : CatalogDocument.parse? content = some ⟨"1.0.0", "1.0.0+0", []⟩ := by
    decide +kernel
  have valid : version.Valid := by
    decide +kernel
  have parsed : parse? "1.0.0+0" = some version := by
    decide +kernel
  have newer : engine.order version = .lt := by
    decide
  have same : engine.SamePrecedence version := ⟨rfl, rfl, rfl, rfl⟩
  refine ⟨read, valid, ⟨by decide, by decide, by decide⟩, by decide +kernel,
    same.not_precedes valid_engine valid, ?_⟩
  rw [run_load_eq_error_iff]
  exact ⟨.engineTooOld read parsed newer, rfl⟩

end TacticalSymbols.Catalog

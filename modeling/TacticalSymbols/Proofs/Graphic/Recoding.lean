import TacticalSymbols.Proofs.Graphic.Coherence
import TacticalSymbols.Proofs.Graphic.Refusal

/-!
Two ways to a code. A modifier that the code stores can be written as a modifier, or by giving the
graphic the code that this makes; both leave the same graphic.
-/

namespace TacticalSymbols

theorem CodeFields.upper_of_written (fields : CodeFields) (text : String)
    (written : fields.encode = .ok text) : Text.upper text = text := by
  obtain ⟨_scheme, _named, _writable, same⟩ := (encode_eq_ok_iff fields text).mp written
  rw [same, Text.upper, String.toList_ofList, map_toUpper_sheet]

namespace Graphic

/-! ### Writing a modifier -/

private theorem editedTo_of_writeModifier (graphic left : Graphic) (spelling : String)
    (modifier : Modifier) (value : Modifier.Value)
    (carried : graphic.carried? spelling = some modifier) (inCode : modifier.kind ≠ .text)
    (taken : modifier.kind.takes value = true)
    (written : Update.run (writeModifier spelling value) graphic = (.ok (), left)) :
    graphic.EditedTo left := by
  rw [run_writeModifier, carried] at written
  cases kind : modifier.kind with
  | text => exact absurd kind inCode
  | flag =>
      cases value with
      | flag set =>
          simp only [kind] at written
          exact editedTo_of_writeFlag graphic left modifier set written
      | token held =>
          rw [kind] at taken
          cases taken
      | text held =>
          rw [kind] at taken
          cases taken
  | token =>
      cases value with
      | flag set =>
          rw [kind] at taken
          cases taken
      | token held =>
          simp only [kind] at written
          exact editedTo_of_writeToken graphic left modifier held inCode written
      | text held =>
          simp only [kind] at written
          exact editedTo_of_writeToken graphic left modifier held inCode written

/-! ### Giving the code instead -/

private theorem run_recode_of_editedTo (graphic left : Graphic) (coherent : graphic.Coherent)
    (edited : graphic.EditedTo left) :
    Update.run (recode left.identifier) graphic = (.ok (), left) := by
  obtain ⟨fields, identifier, edit, written, same⟩ := edited
  have capitals : fields.capitals = fields :=
    edit.capitals_eq_self (CodeFields.capitals_of_decode _ graphic.fields coherent.readBack)
  have readBack : CodeFields.decode identifier = .ok fields := by
    rw [CodeFields.decode_of_written fields identifier written, capitals]
  have described : graphic.descriptor.describes fields = true := by
    rw [edit.describes_eq]
    exact coherent.described
  have identified : left.identifier = identifier := by
    rw [same]
    rfl
  rw [identified, run_recode, readBack, same]
  dsimp only
  rw [if_pos described, CodeFields.upper_of_written fields identifier written]

/-- Whatever has been done to a graphic that a catalog made: if a modifier that the code stores is
written, then giving the graphic the resulting code instead has the very same result. -/
theorem run_recode_of_writeModifier (catalog : Catalog) (text : String) (positions : List Position)
    (parameters? : Option Parameters) (made : Graphic) (operations : List Operation)
    (created : create catalog text positions parameters? = .ok made) (spelling : String)
    (modifier : Modifier) (value : Modifier.Value) (left : Graphic)
    (carried : (made.run operations).carried? spelling = some modifier)
    (inCode : modifier.kind ≠ .text) (taken : modifier.kind.takes value = true)
    (written : Update.run (writeModifier spelling value) (made.run operations) = (.ok (), left)) :
    Update.run (recode left.identifier) (made.run operations) = (.ok (), left) := by
  obtain ⟨_fields, _descriptor, _read, _found, _sameType, coherent⟩ :=
    coherentOf_run catalog text positions parameters? made operations created
  exact run_recode_of_editedTo _ left coherent
    (editedTo_of_writeModifier _ left spelling modifier value carried inCode taken written)

/-- The last flag is unset in a code with small letters, and the unit token goes. -/
theorem run_recode_of_writeModifier_lastFlag :
    ∃ made left, create Catalog.standard "sfgpuci---fd---" [⟨0, 0, 0⟩] none = .ok made ∧
      Update.run (writeModifier "FEINTDUMMY" (.flag false)) (made.run [.showModifier "B" false]) =
        (.ok (), left) ∧
      left.identifier = "SFGPUCI----D---" ∧
      Update.run (recode left.identifier) (made.run [.showModifier "B" false]) =
        (.ok (), left) := by
  have created := create_of_find? Catalog.standard "sfgpuci---fd---" [⟨0, 0, 0⟩] _
    (Catalog.pointType .warfighting (some "G") "UCI---" "Infantry" Catalog.unitModifiers) rfl
    (by decide +kernel) rfl
  refine ⟨_, _, created, rfl, rfl, ?_⟩
  exact run_recode_of_writeModifier _ _ _ _ _ [.showModifier "B" false] created "FEINTDUMMY"
    .feintDummy (.flag false) _ rfl (by decide) rfl rfl

end Graphic

end TacticalSymbols

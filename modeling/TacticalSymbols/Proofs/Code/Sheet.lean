import TacticalSymbols.Proofs.Code.Writing

/-!
The characters of a written code. No place is written twice; each token stands at the places of its
axis, and a place that no token covers holds the filler.
-/

namespace TacticalSymbols

theorem sublist_map_fst_filterMap {ι κ β : Type} (key : ι → κ) (value? : ι → Option β)
    (items : List ι) :
    ((items.filterMap (fun item => (value? item).map (fun value => (key item, value)))).map
      Prod.fst).Sublist (items.map key) := by
  induction items with
  | nil => exact List.Sublist.refl []
  | cons item rest ih =>
      cases held : value? item with
      | none =>
          rw [List.filterMap_cons_none (by rw [held]; rfl), List.map_cons]
          exact ih.cons (key item)
      | some value =>
          rw [List.filterMap_cons_some (by rw [held]; rfl), List.map_cons, List.map_cons]
          exact ih.cons_cons (key item)

namespace CodeFields

/-! ### Listed fields -/

theorem sublist_map_toList (fields : CodeFields) :
    (fields.toList.map Prod.fst).Sublist Axis.all := by
  have listed := sublist_map_fst_filterMap id fields.token? Axis.all
  rwa [List.map_id] at listed

theorem pairwise_toList (fields : CodeFields) :
    fields.toList.Pairwise (fun left right => left.1 ≠ right.1) := by
  have distinct : Axis.all.Nodup := by decide
  exact List.pairwise_map.mp (fields.sublist_map_toList.nodup distinct)

/-! ### Cells -/

private theorem mem_itemCells (item : Axis × String) (cell : Cell) :
    cell ∈ itemCells item ↔ ∃ offset, (Text.upper item.2).toList[offset]? = some cell.character ∧
      cell.index = item.1.start - 1 + offset := by
  unfold itemCells cellsOf
  rw [List.mem_map]
  constructor
  · intro member
    obtain ⟨⟨character, offset⟩, listed, same⟩ := member
    rw [List.mem_zipIdx_iff_getElem?] at listed
    subst same
    exact ⟨offset, listed, rfl⟩
  · intro placed
    obtain ⟨offset, found, placed⟩ := placed
    refine ⟨(cell.character, offset), List.mem_zipIdx_iff_getElem?.mpr found, ?_⟩
    rw [← placed]

theorem covers_of_mem_itemCells (scheme : Scheme) (item : Axis × String)
    (legal : isLegal item.1 (Text.upper item.2) scheme = true) (cell : Cell)
    (member : cell ∈ itemCells item) : item.1.span.Covers cell.index := by
  obtain ⟨offset, found, placed⟩ := (mem_itemCells item cell).mp member
  obtain ⟨within, _same⟩ := List.getElem?_eq_some_iff.mp found
  have width : (Text.upper item.2).toList.length = item.1.width :=
    (item.1.fits_of_isLegal _ scheme legal).width
  exact (item.1.covers_iff_offset cell.index).mpr ⟨offset, by omega, placed⟩

private theorem pairwise_cellsOf (axis : Axis) (token : String) :
    (cellsOf axis token).Pairwise (fun left right => left.index ≠ right.index) := by
  have offsets : (token.toList.zipIdx.map Prod.snd).Pairwise (fun left right => left < right) := by
    rw [List.zipIdx_map_snd]
    exact List.pairwise_lt_range'
  unfold cellsOf
  rw [List.pairwise_map] at offsets ⊢
  apply offsets.imp
  intro left right before same
  change axis.start - 1 + left.2 = axis.start - 1 + right.2 at same
  omega

theorem pairwise_cells_of_admitted (scheme : Scheme) (items : List (Axis × String))
    (admitted : Admitted scheme items)
    (distinct : items.Pairwise (fun left right => left.1 ≠ right.1)) :
    (items.flatMap itemCells).Pairwise (fun left right => left.index ≠ right.index) := by
  rw [List.pairwise_flatMap]
  constructor
  · intro item _member
    exact pairwise_cellsOf item.1 (Text.upper item.2)
  · refine distinct.imp_of_mem ?_
    intro left right leftMember rightMember different leftCell leftWritten rightCell rightWritten
      same
    obtain ⟨usesLeft, legalLeft⟩ := legal_of_admitted scheme items admitted left leftMember
    obtain ⟨usesRight, legalRight⟩ := legal_of_admitted scheme items admitted right rightMember
    have apart := Axis.apart_of_uses scheme left.1 right.1 usesLeft usesRight different
      (together_of_admitted scheme items admitted left right leftMember rightMember)
    apply apart.not_covers leftCell.index
      (covers_of_mem_itemCells scheme left legalLeft leftCell leftWritten)
    rw [same]
    exact covers_of_mem_itemCells scheme right legalRight rightCell rightWritten

/-! ### Sheets -/

private theorem foldl_set_of_not_written (cells : List Cell) (characters : List Char) (index : Nat)
    (blank : ∀ cell ∈ cells, cell.index ≠ index) :
    (cells.foldl (fun characters cell => characters.set cell.index cell.character)
      characters)[index]? = characters[index]? := by
  induction cells generalizing characters with
  | nil => rfl
  | cons first rest ih =>
      rw [List.foldl_cons, ih _ (fun cell member => blank cell (List.mem_cons_of_mem first member)),
        List.getElem?_set_ne (blank first List.mem_cons_self)]

private theorem foldl_set_of_written (cells : List Cell) (characters : List Char) (cell : Cell)
    (apart : cells.Pairwise (fun left right => left.index ≠ right.index)) (member : cell ∈ cells)
    (within : cell.index < characters.length) :
    (cells.foldl (fun characters cell => characters.set cell.index cell.character)
      characters)[cell.index]? = some cell.character := by
  induction cells generalizing characters with
  | nil => cases member
  | cons first rest ih =>
      obtain ⟨firstApart, restApart⟩ := List.pairwise_cons.mp apart
      rw [List.foldl_cons]
      rcases List.mem_cons.mp member with isFirst | inRest
      · subst isFirst
        rw [foldl_set_of_not_written rest _ cell.index
          (fun other listed => (firstApart other listed).symm), List.getElem?_set_self within]
      · exact ih _ restApart inRest (by rwa [List.length_set])

private theorem mem_foldl_set (cells : List Cell) (characters : List Char) (character : Char)
    (member : character ∈ cells.foldl
      (fun characters cell => characters.set cell.index cell.character) characters) :
    character ∈ characters ∨ ∃ cell ∈ cells, cell.character = character := by
  induction cells generalizing characters with
  | nil => exact .inl member
  | cons first rest ih =>
      rcases ih _ member with stood | ⟨cell, listed, same⟩
      · rcases List.mem_or_eq_of_mem_set stood with before | written
        · exact .inl before
        · exact .inr ⟨first, List.mem_cons_self, written.symm⟩
      · exact .inr ⟨cell, List.mem_cons_of_mem first listed, same⟩

private theorem getElem?_sheet_of_blank (cells : List Cell) (index : Nat)
    (within : index < codeLength) (blank : ∀ cell ∈ cells, cell.index ≠ index) :
    (sheet cells)[index]? = some filler := by
  unfold sheet
  rw [foldl_set_of_not_written cells _ index blank, List.getElem?_replicate, if_pos within]

private theorem getElem?_sheet_of_mem (cells : List Cell) (cell : Cell)
    (apart : cells.Pairwise (fun left right => left.index ≠ right.index)) (member : cell ∈ cells)
    (within : cell.index < codeLength) : (sheet cells)[cell.index]? = some cell.character :=
  foldl_set_of_written cells _ cell apart member (by rwa [List.length_replicate])

/-! ### The sheet of fields that can be written -/

private theorem mem_cells (fields : CodeFields) (cell : Cell) :
    cell ∈ fields.cells ↔
      ∃ axis token, fields.token? axis = some token ∧ cell ∈ itemCells (axis, token) := by
  unfold cells
  rw [List.mem_flatMap]
  constructor
  · intro member
    obtain ⟨⟨axis, token⟩, listed, written⟩ := member
    exact ⟨axis, token, (mem_toList fields axis token).mp listed, written⟩
  · intro held
    obtain ⟨axis, token, present, written⟩ := held
    exact ⟨(axis, token), (mem_toList fields axis token).mpr present, written⟩

theorem slice_sheet (scheme : Scheme) (fields : CodeFields) (writable : Writable scheme fields)
    (axis : Axis) (token : String) (present : fields.token? axis = some token) :
    axis.span.slice (sheet fields.cells) = (Text.upper token).toList := by
  have legal := (writable.legal axis token present).2
  have width : (Text.upper token).toList.length = axis.width :=
    (axis.fits_of_isLegal _ scheme legal).width
  have apart := pairwise_cells_of_admitted scheme fields.toList
    ((admitted_toList_iff scheme fields).mpr writable) (pairwise_toList fields)
  apply List.ext_getElem
  · rw [axis.length_slice _ (length_sheet fields.cells), width]
  · intro offset _withinSlice withinToken
    let cell : Cell :=
      { index := axis.start - 1 + offset, character := (Text.upper token).toList[offset] }
    have written : cell ∈ itemCells (axis, token) :=
      (mem_itemCells (axis, token) cell).mpr
        ⟨offset, List.getElem?_eq_getElem withinToken, rfl⟩
    have covered := covers_of_mem_itemCells scheme (axis, token) legal cell written
    have found := getElem?_sheet_of_mem fields.cells cell apart
      ((mem_cells fields cell).mpr ⟨axis, token, present, written⟩)
      (axis.lt_codeLength_of_covers cell.index covered)
    rw [← axis.getElem?_slice _ offset (by omega)] at found
    exact Option.some.inj ((List.getElem?_eq_getElem _).symm.trans found)

theorem getElem?_sheet_of_not_covered (scheme : Scheme) (fields : CodeFields)
    (writable : Writable scheme fields) (index : Nat) (within : index < codeLength)
    (free : ∀ axis, fields.contains axis = true → ¬ axis.span.Covers index) :
    (sheet fields.cells)[index]? = some filler := by
  apply getElem?_sheet_of_blank fields.cells index within
  intro cell member same
  obtain ⟨axis, token, present, written⟩ := (mem_cells fields cell).mp member
  apply free axis (by rw [contains, present]; rfl)
  rw [← same]
  exact covers_of_mem_itemCells scheme (axis, token) (writable.legal axis token present).2 cell
    written

theorem getElem?_sheet_congr (scheme : Scheme) (left right : CodeFields)
    (leftWritable : Writable scheme left) (rightWritable : Writable scheme right) (index : Nat)
    (agree : ∀ axis : Axis, axis.span.Covers index → left.token? axis = right.token? axis) :
    (sheet left.cells)[index]? = (sheet right.cells)[index]? := by
  by_cases taken : ∃ axis, left.contains axis = true ∧ axis.span.Covers index
  · obtain ⟨axis, holds, covers⟩ := taken
    obtain ⟨token, present⟩ := Option.isSome_iff_exists.mp holds
    obtain ⟨offset, inside, same⟩ := (axis.covers_iff_offset index).mp covers
    have alsoPresent := (agree axis covers).symm.trans present
    rw [same, ← axis.getElem?_slice _ offset inside, ← axis.getElem?_slice _ offset inside,
      slice_sheet scheme left leftWritable axis token present,
      slice_sheet scheme right rightWritable axis token alsoPresent]
  · have leftFree : ∀ axis, left.contains axis = true → ¬ axis.span.Covers index :=
      fun axis holds covers => taken ⟨axis, holds, covers⟩
    have rightFree : ∀ axis, right.contains axis = true → ¬ axis.span.Covers index := by
      intro axis holds covers
      rw [contains, ← agree axis covers] at holds
      exact leftFree axis holds covers
    by_cases within : index < codeLength
    · rw [getElem?_sheet_of_not_covered scheme left leftWritable index within leftFree,
        getElem?_sheet_of_not_covered scheme right rightWritable index within rightFree]
    · rw [List.getElem?_eq_none (by rw [length_sheet]; omega),
        List.getElem?_eq_none (by rw [length_sheet]; omega)]

theorem map_toUpper_sheet (fields : CodeFields) :
    (sheet fields.cells).map Char.toUpper = sheet fields.cells := by
  have capital : ∀ character ∈ sheet fields.cells, character.toUpper = character := by
    intro character member
    rcases mem_foldl_set fields.cells _ character member with blank | ⟨cell, listed, same⟩
    · rw [(List.mem_replicate.mp blank).2]
      decide
    · obtain ⟨axis, token, _present, written⟩ := (mem_cells fields cell).mp listed
      obtain ⟨offset, found, _placed⟩ := (mem_itemCells (axis, token) cell).mp written
      rw [← same]
      exact Text.toUpper_of_mem_upper token cell.character (List.mem_of_getElem? found)
  rw [List.map_congr_left capital, List.map_id']

end CodeFields

end TacticalSymbols

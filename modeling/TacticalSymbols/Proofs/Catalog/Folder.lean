import TacticalSymbols.Catalog.Folder
import TacticalSymbols.Proofs.Catalog.Loading
import TacticalSymbols.Proofs.Text

/-!
Loading a folder. Its catalog files are told by their names alone, and they are loaded by increasing
bytes of their names, up to the first that cannot be loaded. The names are distinct, so neither the
order of the listing nor any other entry has a say in what is loaded or in what is refused.
-/

namespace TacticalSymbols

namespace FolderEntry

/-! ### Names -/

theorem extension?_eq_some_iff (name extension : String) :
    extension? name = some extension ↔
      '.' ∉ extension.toList ∧ ∃ stem, stem ≠ "" ∧ name = stem ++ "." ++ extension := by
  unfold extension?
  dsimp only
  constructor
  · intro found
    by_cases pointed : '.' ∈ name.toList.reverse
    · obtain ⟨front, rest, split, absent⟩ := List.eq_append_cons_of_mem pointed
      rw [split, Text.takeWhile_ne_append _ front rest absent,
        Text.dropWhile_ne_append _ front rest absent] at found
      cases rest with
      | nil => cases found
      | cons last others =>
          cases found
          refine ⟨by simpa using absent, String.ofList (last :: others).reverse, ?_, ?_⟩
          · simp [← String.toList_inj]
          · rw [← String.toList_inj, ← List.reverse_inj, split]
            simp
    · rw [(Text.dropWhile_ne_eq_nil_iff _ _).mpr pointed] at found
      cases found
  · intro split
    obtain ⟨absent, stem, hasStem, isName⟩ := split
    have reversed : name.toList.reverse =
        extension.toList.reverse ++ '.' :: stem.toList.reverse := by
      rw [isName]
      simp
    have absentBehind : '.' ∉ extension.toList.reverse :=
      fun member => absent (List.mem_reverse.mp member)
    rw [reversed, Text.takeWhile_ne_append _ _ _ absentBehind,
      Text.dropWhile_ne_append _ _ _ absentBehind]
    cases ends : stem.toList.reverse with
    | nil => exact absurd (String.toList_eq_nil_iff.mp (List.reverse_eq_nil_iff.mp ends)) hasStem
    | cons last others =>
        change some (String.ofList extension.toList.reverse.reverse) = some extension
        rw [List.reverse_reverse, String.ofList_toList]

def NamesCatalog (entry : FolderEntry) : Prop :=
  ∃ stem, stem ≠ "" ∧ entry.name = stem ++ ".json"

theorem isCatalogFile_iff (entry : FolderEntry) :
    entry.isCatalogFile = true ↔ entry.NamesCatalog := by
  unfold isCatalogFile NamesCatalog
  rw [beq_iff_eq, extension?_eq_some_iff, and_iff_right (by decide)]
  simp [String.append_assoc]

instance (entry : FolderEntry) : Decidable entry.NamesCatalog :=
  decidable_of_iff _ (isCatalogFile_iff entry)

theorem comesBefore_iff (left right : FolderEntry) :
    left.comesBefore right = true ↔ left.name ≤ right.name := by
  unfold comesBefore
  exact isLE_compareOfLessAndEq String.le_antisymm String.not_le String.le_total

end FolderEntry

namespace Catalog

/-! ### The files in order -/

theorem mem_filesToLoad_iff (entries : List FolderEntry) (entry : FolderEntry) :
    entry ∈ filesToLoad entries ↔ entry ∈ entries ∧ entry.NamesCatalog := by
  unfold filesToLoad
  rw [List.mem_mergeSort, List.mem_filter, FolderEntry.isCatalogFile_iff]

/-- The bytes of the names increase strictly. -/
def InByteOrder (files : List FolderEntry) : Prop :=
  files.Pairwise (fun left right => Text.bytes left.name < Text.bytes right.name)

private theorem inByteOrder_filesToLoad (entries : List FolderEntry)
    (distinct : (entries.map FolderEntry.name).Nodup) : InByteOrder (filesToLoad entries) := by
  have sorted : (filesToLoad entries).Pairwise
      (fun left right => left.comesBefore right = true) := by
    apply List.pairwise_mergeSort
    · intro first second third
      simp only [FolderEntry.comesBefore_iff]
      exact String.le_trans
    · intro left right
      simp only [Bool.or_eq_true, FolderEntry.comesBefore_iff]
      exact String.le_total left.name right.name
  have apart : (filesToLoad entries).Pairwise (fun left right => left.name ≠ right.name) := by
    have named : ((entries.filter FolderEntry.isCatalogFile).map FolderEntry.name).Nodup :=
      distinct.sublist (List.filter_sublist.map FolderEntry.name)
    exact List.pairwise_map.mp
      (((List.mergeSort_perm _ _).map FolderEntry.name).nodup_iff.mpr named)
  refine (sorted.and apart).imp ?_
  intro left right both
  rw [Text.bytes_lt_iff]
  exact Std.lt_of_le_of_ne ((left.comesBefore_iff right).mp both.1) both.2

private theorem eq_of_inByteOrder (lefts rights : List FolderEntry) (leftOrder : InByteOrder lefts)
    (rightOrder : InByteOrder rights) (same : ∀ entry, entry ∈ lefts ↔ entry ∈ rights) :
    lefts = rights := by
  have distinct : ∀ files, InByteOrder files → files.Nodup := by
    intro files order
    refine order.imp ?_
    intro left right before isSame
    rw [isSame] at before
    exact List.lt_irrefl _ before
  refine List.Perm.eq_of_pairwise ?_ leftOrder rightOrder
    ((List.perm_ext_iff_of_nodup (distinct lefts leftOrder) (distinct rights rightOrder)).mpr same)
  intro left right _ _ before after
  exact absurd after (List.lt_asymm before)

private theorem filesToLoad_congr (lefts rights : List FolderEntry)
    (leftDistinct : (lefts.map FolderEntry.name).Nodup)
    (rightDistinct : (rights.map FolderEntry.name).Nodup)
    (same : ∀ entry : FolderEntry, entry.NamesCatalog → (entry ∈ lefts ↔ entry ∈ rights)) :
    filesToLoad lefts = filesToLoad rights := by
  apply eq_of_inByteOrder
  · exact inByteOrder_filesToLoad lefts leftDistinct
  · exact inByteOrder_filesToLoad rights rightDistinct
  · intro entry
    rw [mem_filesToLoad_iff, mem_filesToLoad_iff]
    exact and_congr_left (same entry)

/-! ### Loading in turn -/

/-- Every file can be read and loaded, one after the other. -/
inductive LoadedInTurn (path : String) : Catalog → List FolderEntry → Catalog → Prop where
  | nothing (catalog : Catalog) : LoadedInTurn path catalog [] catalog
  | next {before middle after : Catalog} {entry : FolderEntry} {entries : List FolderEntry}
      {content : String} {count : Nat} (readable : entry.content? = some content)
      (loaded : Update.run (load (pathOf path entry) content) before = (.ok count, middle))
      (rest : LoadedInTurn path middle entries after) :
      LoadedInTurn path before (entry :: entries) after

/-- The file cannot be read, or it is refused by the catalog that it comes to. -/
inductive NotLoaded (path : String) (catalog : Catalog) (entry : FolderEntry) :
    Catalog.Refusal → Prop where
  | unreadable (noText : entry.content? = none) :
      NotLoaded path catalog entry (.unreadable (pathOf path entry))
  | refused {content : String} {reason : Catalog.Refusal} (readable : entry.content? = some content)
      (refused : Update.outcome (load (pathOf path entry) content) catalog = .error reason) :
      NotLoaded path catalog entry reason

theorem loadEntry_eq_ok_iff (path : String) (catalog left : Catalog) (entry : FolderEntry) :
    loadEntry path catalog entry = .ok left ↔
      ∃ content count, entry.content? = some content ∧
        Update.run (load (pathOf path entry) content) catalog = (.ok count, left) := by
  unfold loadEntry
  cases entry.content? with
  | none => simp
  | some content =>
      dsimp only
      rw [Update.applied_eq_ok_iff]
      simp

theorem loadEntry_eq_error_iff (path : String) (catalog : Catalog) (entry : FolderEntry)
    (reason : Catalog.Refusal) :
    loadEntry path catalog entry = .error reason ↔ NotLoaded path catalog entry reason := by
  unfold loadEntry
  constructor
  · intro refused
    cases content : entry.content? with
    | none =>
        rw [content] at refused
        cases refused
        exact .unreadable content
    | some text =>
        rw [content] at refused
        exact .refused content ((Update.applied_eq_error_iff _ _ _).mp refused)
  · intro notLoaded
    cases notLoaded with
    | unreadable noText => rw [noText]
    | refused readable refused =>
        rw [readable]
        exact (Update.applied_eq_error_iff _ _ _).mpr refused

theorem foldlM_loadEntry_eq_ok_iff (path : String) (files : List FolderEntry)
    (catalog left : Catalog) :
    files.foldlM (loadEntry path) catalog = .ok left ↔ LoadedInTurn path catalog files left := by
  induction files generalizing catalog with
  | nil =>
      constructor
      · intro same
        cases same
        exact .nothing _
      · intro loaded
        cases loaded
        rfl
  | cons first rest ih =>
      rw [List.foldlM_cons, Except.bind_eq_ok_iff]
      constructor
      · intro taken
        obtain ⟨middle, granted, others⟩ := taken
        obtain ⟨content, count, readable, loaded⟩ := (loadEntry_eq_ok_iff _ _ _ _).mp granted
        exact .next readable loaded ((ih middle).mp others)
      · intro inTurn
        cases inTurn with
        | next readable loaded others =>
            exact ⟨_, (loadEntry_eq_ok_iff _ _ _ _).mpr ⟨_, _, readable, loaded⟩, (ih _).mpr others⟩

theorem foldlM_loadEntry_eq_error_iff (path : String) (files : List FolderEntry)
    (catalog : Catalog) (reason : Catalog.Refusal) :
    files.foldlM (loadEntry path) catalog = .error reason ↔
      ∃ before failing after middle, files = before ++ failing :: after ∧
        LoadedInTurn path catalog before middle ∧ NotLoaded path middle failing reason := by
  rw [Except.foldlM_eq_error_iff]
  simp only [foldlM_loadEntry_eq_ok_iff, loadEntry_eq_error_iff]

/-- A folder of distinct names is loaded in one way, however it is listed: the entries with the name
of a catalog, by the bytes of their names, one after the other into the standard set, and where one
of them cannot be read or loaded, the first such one refuses the folder. No other entry has a say in
it. -/
theorem ofPlace_folder (path : String) (entries : List FolderEntry)
    (distinct : (entries.map FolderEntry.name).Nodup) :
    (∃ files, (∀ entry, entry ∈ files ↔ entry ∈ entries ∧ entry.NamesCatalog) ∧
      InByteOrder files ∧
      (∀ catalog, ofPlace path (.folder entries) = .ok catalog ↔
        LoadedInTurn path standard files catalog) ∧
      ∀ reason, ofPlace path (.folder entries) = .error reason ↔
        ∃ before failing after middle, files = before ++ failing :: after ∧
          LoadedInTurn path standard before middle ∧ NotLoaded path middle failing reason) ∧
      (∀ listing, listing.Perm entries →
        ofPlace path (.folder listing) = ofPlace path (.folder entries)) ∧
      ∀ others : List FolderEntry, (others.map FolderEntry.name).Nodup →
        (∀ entry : FolderEntry, entry.NamesCatalog → (entry ∈ others ↔ entry ∈ entries)) →
          ofPlace path (.folder others) = ofPlace path (.folder entries) := by
  have sameFiles : ∀ others : List FolderEntry, (others.map FolderEntry.name).Nodup →
      (∀ entry : FolderEntry, entry.NamesCatalog → (entry ∈ others ↔ entry ∈ entries)) →
        ofPlace path (.folder others) = ofPlace path (.folder entries) := by
    intro others othersDistinct same
    exact congrArg (fun files => files.foldlM (loadEntry path) standard)
      (filesToLoad_congr others entries othersDistinct distinct same)
  refine ⟨⟨filesToLoad entries, mem_filesToLoad_iff entries,
    inByteOrder_filesToLoad entries distinct, ?_, ?_⟩, ?_, sameFiles⟩
  · intro catalog
    exact foldlM_loadEntry_eq_ok_iff path (filesToLoad entries) standard catalog
  · intro reason
    exact foldlM_loadEntry_eq_error_iff path (filesToLoad entries) standard reason
  · intro listing reordered
    refine sameFiles listing ?_ (fun entry _ => reordered.mem_iff)
    exact (reordered.map FolderEntry.name).nodup_iff.mpr distinct

/-- Two files give one id to different types, and the later name decides, listed first or last. A
name that is nothing but an extension, and one in capitals, are passed over unread. -/
theorem ofPlace_folder_laterName :
    let text := fun functionId : String =>
      "[\"\",\"1.0.0\",[[\"x\",\"\",\"metoc\",null,\"" ++ functionId ++ "\",\"point\",[\"exactly\",1]]]]"
    let early : FolderEntry := { name := "a.json", content? := some (text "CE----") }
    let late : FolderEntry := { name := "b.json", content? := some (text "CF----") }
    let bare : FolderEntry := { name := ".json", content? := none }
    let capitals : FolderEntry := { name := "c.JSON", content? := none }
    let first : Descriptor := { pointType .metoc none "CE----" "" [] with id := "x" }
    let last : Descriptor := { pointType .metoc none "CF----" "" [] with id := "x" }
    let entries := [early, late, bare, capitals]
    ∃ catalog, (entries.map FolderEntry.name).Nodup ∧ first ∉ catalog.toList ∧
      last ∈ catalog.toList ∧ ofPlace "types" (.folder entries) = .ok catalog ∧
      ofPlace "types" (.folder [capitals, late, bare, early]) = .ok catalog ∧
      ofPlace "types" (.folder [late, early]) = .ok catalog := by
  intro text early late bare capitals first last entries
  have distinct : (entries.map FolderEntry.name).Nodup := by decide
  obtain ⟨⟨files, members, order, loaded, _refused⟩, reordered, without⟩ :=
    ofPlace_folder "types" entries distinct
  have chosen : ∀ entry, entry ∈ entries ∧ entry.NamesCatalog ↔ entry ∈ [early, late] := by
    intro entry
    have kept : entries.filter FolderEntry.isCatalogFile = [early, late] := by decide +kernel
    rw [← entry.isCatalogFile_iff, ← List.mem_filter, kept]
  have isFiles : files = [early, late] := by
    refine eq_of_inByteOrder _ _ order ?_ (fun entry => (members entry).trans (chosen entry))
    exact List.pairwise_pair.mpr ((Text.bytes_lt_iff _ _).mpr (by decide))
  have serves : Serves "1.0.0" := ⟨engine, parse?_engineVersion, by decide⟩
  have loadsFirst : Loadable (text "CE----") ⟨"", "1.0.0", [first]⟩ :=
    ⟨by decide +kernel, serves, by decide +kernel⟩
  have loadsLast : Loadable (text "CF----") ⟨"", "1.0.0", [last]⟩ :=
    ⟨by decide +kernel, serves, by decide +kernel⟩
  have result : ofPlace "types" (.folder entries) =
      .ok ((standard.insertAll [first]).insertAll [last]) := by
    rw [loaded, isFiles]
    exact .next rfl (run_load_of_loadable _ loadsFirst _)
      (.next rfl (run_load_of_loadable _ loadsLast _) (.nothing _))
  refine ⟨_, distinct, ?_, ?_, result, ?_, ?_⟩
  · decide +kernel
  · decide +kernel
  · rw [reordered _ (by decide), result]
  · have swapped : ∀ entry : FolderEntry, entry.NamesCatalog →
        (entry ∈ [late, early] ↔ entry ∈ entries) := by
      intro entry names
      rw [← and_iff_left (a := entry ∈ entries) names, chosen]
      exact (List.Perm.swap early late []).mem_iff
    rw [without _ (by decide) swapped, result]

end Catalog

end TacticalSymbols

import TacticalSymbols.Proofs.Graphic.EntryOrder
import TacticalSymbols.Proofs.Graphic.SlotUse

/-!
Parameters in other spellings. The spellings of the parameters give the order in which they are
written, and that order matters in two ways only. The feint or dummy flag goes to another place if the
installation has come or gone before. And an order that puts something into the slot before it takes
away what may not stand beside it is refused, where another order may be granted.
-/

namespace TacticalSymbols

namespace Parameters

def entries (parameters : Parameters) : List Modifier.Entry :=
  Modifier.Entry.ofItems parameters.modifiers

/-- Both name the same modifiers with the same values, each modifier once, in any spellings. -/
structure Respelled (left right : Parameters) : Prop where
  leftOnce : (left.entries.map Modifier.Entry.modifier).Nodup
  rightOnce : (right.entries.map Modifier.Entry.modifier).Nodup
  same : ∀ entry, entry ∈ left.entries ↔ entry ∈ right.entries

theorem Respelled.symm {left right : Parameters} (respelled : left.Respelled right) :
    right.Respelled left :=
  ⟨respelled.rightOnce, respelled.leftOnce, fun entry => (respelled.same entry).symm⟩

theorem Respelled.perm {left right : Parameters} (respelled : left.Respelled right) :
    left.entries.Perm right.entries :=
  (List.perm_ext_iff_of_nodup respelled.leftOnce.of_map respelled.rightOnce.of_map).mpr respelled.same

theorem Respelled.of_perm {left right : Parameters}
    (once : (left.entries.map Modifier.Entry.modifier).Nodup)
    (perm : left.entries.Perm right.entries) : left.Respelled right :=
  ⟨once, (perm.map Modifier.Entry.modifier).nodup_iff.mp once, fun _ => perm.mem_iff⟩

end Parameters

namespace Graphic

/-! ### Writable graphics -/

/-- The type goes with the scheme of the code, the code can be written, and the markings repeat it. -/
structure Ready (graphic : Graphic) (scheme : Scheme) : Prop where
  named : graphic.fields.scheme? = some scheme
  typed : graphic.descriptor.scheme = scheme
  writable : CodeFields.Writable scheme graphic.fields
  mirrored : graphic.markings.Mirrors graphic.descriptor graphic.fields

theorem Coherent.ready {graphic : Graphic} (coherent : graphic.Coherent) :
    graphic.Ready graphic.descriptor.scheme := by
  obtain ⟨scheme, reads⟩ := (CodeFields.decode_eq_ok_iff _ _).mp coherent.readBack
  have named := ((graphic.descriptor.describes_iff graphic.fields).mp coherent.described).1
  have same := Option.some.inj ((CodeFields.scheme?_of_reads reads).symm.trans named)
  rw [same] at reads
  exact ⟨named, rfl, CodeFields.writable_of_reads reads, coherent.mirrored⟩

private theorem ready_start (text : String) (fields : CodeFields) (descriptor : Descriptor)
    (positions : List Position) (read : CodeFields.decode text = .ok fields)
    (describes : descriptor.describes fields = true) :
    ∃ scheme, (start text fields descriptor positions).Ready scheme :=
  ⟨descriptor.scheme, (coherent_start text fields descriptor positions read describes).ready⟩

section Ready

variable {graphic made : Graphic} {scheme : Scheme} {entries : List Modifier.Entry}
  (ready : graphic.Ready scheme)

include ready

private theorem Ready.scheme?_enterAll (entries : List Modifier.Entry) :
    (graphic.enterAll entries).fields.scheme? = some scheme := by
  rw [fields_enterAll, CodeFields.scheme?_foldl_enter]
  exact ready.named

private theorem Ready.writable_of_entersEach (enters : graphic.EntersEach entries made) :
    CodeFields.Writable scheme made.fields := by
  have whole := enters.entersAll
  by_cases stored : ∃ entry ∈ entries, graphic.descriptor.stores entry = true
  · obtain ⟨entry, listed, isStored⟩ := stored
    have named : made.fields.scheme? = some scheme := by
      rw [whole.entered]
      exact ready.scheme?_enterAll entries
    exact CodeFields.writable_of_encode made.fields scheme _ named (whole.written entry listed isStored)
  · have nothing : entries.filter graphic.descriptor.stores = [] := by
      rw [List.filter_eq_nil_iff]
      exact fun entry listed isStored => stored ⟨entry, listed, isStored⟩
    rw [whole.fields_eq, nothing]
    exact ready.writable

/-- What one order of entries could write is legal in every order. -/
private theorem Ready.keepsLegal (enters : graphic.EntersEach entries made) (entry : Modifier.Entry)
    (listed : entry ∈ entries) (stored : graphic.descriptor.stores entry = true) :
    entry.KeepsLegal scheme := by
  obtain ⟨accepted, inCode⟩ := Bool.and_eq_true_iff.mp stored
  cases kind : entry.modifier.kind with
  | text => exact absurd kind (bne_iff_ne.mp inCode)
  | flag =>
      apply entry.keepsLegal_of_flag scheme kind
      have applies := (Bool.and_eq_true_iff.mp (Bool.and_eq_true_iff.mp accepted).1).2
      rw [Modifier.appliesTo, entry.modifier.axis?_of_flag kind, ready.typed] at applies
      exact applies
  | token =>
      obtain ⟨fields, code, sameScheme, written⟩ := enters.exists_encode entry listed stored
      have named : (fields.enter entry).scheme? = some scheme := by
        rw [fields.scheme?_enter, sameScheme, ready.named]
      exact entry.keepsLegal_of_token scheme kind fields
        (CodeFields.writable_of_encode _ scheme code named written).legal

private theorem Ready.inTurn_of_entersEach (once : (entries.map Modifier.Entry.modifier).Nodup)
    (enters : graphic.EntersEach entries made) :
    graphic.fields.InTurn made.fields (entries.filter graphic.descriptor.stores) := by
  rw [enters.entersAll.fields_eq]
  apply CodeFields.inTurn_of_oneUse _ _ ((List.filter_sublist.map _).nodup once)
  intro before after split
  obtain ⟨first, last, whole, isBefore, _isAfter⟩ := List.filter_eq_append_iff.mp split
  subst whole isBefore
  obtain ⟨middle, part⟩ := enters.of_append
  rw [← part.entersAll.fields_eq]
  exact (ready.writable_of_entersEach part).together

end Ready

/-! ### Two orders -/

section Orders

variable {graphic made : Graphic} {scheme : Scheme} (ready : graphic.Ready scheme)
  {left right : List Modifier.Entry} (once : (left.map Modifier.Entry.modifier).Nodup)
  (perm : left.Perm right) (enters : graphic.EntersEach left made)

include ready once perm enters

private theorem exists_entersEach_of_inTurn
    (together : graphic.enterAll left = graphic.enterAll right)
    (inTurn : graphic.fields.InTurn made.fields (right.filter graphic.descriptor.stores)) :
    ∃ rightMade, graphic.EntersEach right rightMade := by
  have ended : (right.filter graphic.descriptor.stores).foldl CodeFields.enter graphic.fields =
      made.fields := by
    rw [← fields_enterAll, ← together, enters.entersAll.entered]
    rfl
  apply exists_entersEach
  intro before after split
  subst split
  apply CodeFields.encode_of_writable _ scheme (ready.scheme?_enterAll before)
  rw [List.filter_append] at ended inTurn
  have legal : ((before.filter graphic.descriptor.stores).foldl CodeFields.enter
      graphic.fields).Legal scheme := by
    apply CodeFields.legal_foldl_enter _ _ scheme ready.writable.legal
    intro entry listed
    obtain ⟨inBefore, stored⟩ := List.mem_filter.mp listed
    exact ready.keepsLegal enters entry
      (perm.mem_iff.mpr (List.mem_append_left after inBefore)) stored
  have once : ((before.filter graphic.descriptor.stores ++
      after.filter graphic.descriptor.stores).map Modifier.Entry.modifier).Nodup := by
    rw [← List.filter_append]
    exact (List.filter_sublist.map Modifier.Entry.modifier).nodup
      ((perm.map Modifier.Entry.modifier).nodup_iff.mp once)
  rw [fields_enterAll]
  refine ⟨legal, CodeFields.oneUse_between _ _ graphic.fields once ?_ ?_ scheme legal
    ready.writable.together⟩
  · rw [ended]
    exact (ready.writable_of_entersEach enters).together
  · rw [ended]
    exact inTurn

/-- Another order makes the same graphic exactly if it is in turn and, where the flag and the
installation have changed places, the place of the flag is settled. -/
private theorem entersEach_iff_settled_and_inTurn (tells : graphic.fields.TellsFlags) :
    graphic.EntersEach right made ↔
      graphic.descriptor.SettledIn graphic.fields left right ∧
        graphic.fields.InTurn made.fields (right.filter graphic.descriptor.stores) := by
  have rightOnce := (perm.map Modifier.Entry.modifier).nodup_iff.mp once
  constructor
  · intro rightEnters
    refine ⟨?_, ready.inTurn_of_entersEach rightOnce rightEnters⟩
    apply graphic.settled_of_fields_eq ready.mirrored left right once perm tells
    rw [fields_enterAll, fields_enterAll, ← enters.entersAll.fields_eq,
      ← rightEnters.entersAll.fields_eq]
  · rintro ⟨settled, inTurn⟩
    have together := graphic.enterAll_eq_of_settled ready.mirrored left right once perm settled
    obtain ⟨rightMade, rightEnters⟩ :=
      exists_entersEach_of_inTurn ready once perm enters together inTurn
    rw [enters.entersAll.eq_of_enterAll_eq rightEnters.entersAll (fun _ => perm.mem_iff) together]
    exact rightEnters

end Orders

/-! ### Two spellings -/

theorem create_some_eq_ok_iff (catalog : Catalog) (text : String) (positions : List Position)
    (parameters : Parameters) (made : Graphic) :
    create catalog text positions (some parameters) = .ok made ↔
      ∃ fields descriptor, CodeFields.decode text = .ok fields ∧
        catalog.find? fields = some descriptor ∧
        descriptor.points.accepts positions.length = true ∧
        (start text fields descriptor positions).EntersEach parameters.entries made := by
  rw [create_eq_ok_iff]
  simp only [parameterized, applied_writeModifiers_eq_ok_iff, written_iff_entersEach]
  rfl

section Spellings

variable {catalog : Catalog} {text : String} {positions : List Position} {left right : Parameters}
  (respelled : left.Respelled right) {fields : CodeFields} {made : Graphic}
  (read : CodeFields.decode text = .ok fields)
  (created : create catalog text positions (some left) = .ok made)

include respelled read created

private theorem create_iff_settled_and_inTurn :
    create catalog text positions (some right) = .ok made ↔
      made.descriptor.SettledIn fields left.entries right.entries ∧
        fields.InTurn made.fields (right.entries.filter made.descriptor.stores) := by
  obtain ⟨again, descriptor, readAgain, found, counted, enters⟩ :=
    (create_some_eq_ok_iff catalog text positions left made).mp created
  cases readAgain.symm.trans read
  obtain ⟨scheme, ready⟩ := ready_start text fields descriptor positions read
    (catalog.describes_of_find? fields descriptor found)
  have sameEntries := entersEach_iff_settled_and_inTurn ready respelled.leftOnce respelled.perm enters
    (CodeFields.tellsFlags_of_decode text fields read)
  rw [enters.entersAll.descriptor_eq, create_some_eq_ok_iff]
  constructor
  · rintro ⟨other, otherDescriptor, readOther, foundOther, _countedOther, rightEnters⟩
    cases readOther.symm.trans read
    cases foundOther.symm.trans found
    exact sameEntries.mp rightEnters
  · intro conditions
    exact ⟨fields, descriptor, read, found, counted, sameEntries.mpr conditions⟩

end Spellings

/-- Two spellings of the same parameters make equal graphics, or neither makes one, exactly if of no
graphic that one of them makes it can be said that the feint or dummy flag and the installation have
changed places and give other fields so, or that an order leaves something in the slot before it takes
away what may not stand beside it. -/
theorem create_respelled (catalog : Catalog) (text : String) (positions : List Position)
    (left right : Parameters) (respelled : left.Respelled right) :
    (∀ made, create catalog text positions (some left) = .ok made ↔
        create catalog text positions (some right) = .ok made) ↔
      ∀ fields made, CodeFields.decode text = .ok fields →
        (create catalog text positions (some left) = .ok made ∨
          create catalog text positions (some right) = .ok made) →
          made.descriptor.SettledIn fields left.entries right.entries ∧
            fields.InTurn made.fields (left.entries.filter made.descriptor.stores) ∧
            fields.InTurn made.fields (right.entries.filter made.descriptor.stores) := by
  constructor
  · intro alike fields made read either
    have leftCreated : create catalog text positions (some left) = .ok made :=
      either.elim id (alike made).mpr
    have itself : left.Respelled left := .of_perm respelled.leftOnce (.refl left.entries)
    obtain ⟨settled, rightInTurn⟩ := (create_iff_settled_and_inTurn respelled read leftCreated).mp
      ((alike made).mp leftCreated)
    obtain ⟨_settled, leftInTurn⟩ :=
      (create_iff_settled_and_inTurn itself read leftCreated).mp leftCreated
    exact ⟨settled, leftInTurn, rightInTurn⟩
  · intro conditions made
    constructor
    · intro leftCreated
      obtain ⟨fields, _descriptor, read, _rest⟩ :=
        (create_some_eq_ok_iff catalog text positions left made).mp leftCreated
      obtain ⟨settled, _leftInTurn, rightInTurn⟩ := conditions fields made read (.inl leftCreated)
      exact (create_iff_settled_and_inTurn respelled read leftCreated).mpr ⟨settled, rightInTurn⟩
    · intro rightCreated
      obtain ⟨fields, _descriptor, read, _rest⟩ :=
        (create_some_eq_ok_iff catalog text positions right made).mp rightCreated
      obtain ⟨settled, leftInTurn, _rightInTurn⟩ := conditions fields made read (.inr rightCreated)
      exact (create_iff_settled_and_inTurn respelled.symm read rightCreated).mpr
        ⟨settled.symm, leftInTurn⟩

/-- An echelon, a headquarters and a text in spellings that put them into another order. -/
theorem create_respelled_otherOrder :
    let left := Parameters.ofPairs
      [("B", .text "d"), ("HEADQUARTERS", .flag true), ("T", .text "1-6")]
    let right := Parameters.ofPairs
      [("Text", .text "1-6"), ("echelon", .text "d"), ("headquarters", .flag true)]
    left.Respelled right ∧ ∃ made, made.identifier = "SFGPUCI---AD---" ∧
      create Catalog.standard "SFGPUCI----F---" [⟨0, 0, 0⟩] (some left) = .ok made ∧
      create Catalog.standard "SFGPUCI----F---" [⟨0, 0, 0⟩] (some right) = .ok made := by
  intro left right
  have respelled : left.Respelled right := .of_perm (by decide +kernel) (by decide +kernel)
  have leftEntries : left.entries =
      [⟨.echelon, .text "d"⟩, ⟨.headquarters, .flag true⟩, ⟨.text, .text "1-6"⟩] := rfl
  have rightEntries : right.entries =
      [⟨.text, .text "1-6"⟩, ⟨.echelon, .text "d"⟩, ⟨.headquarters, .flag true⟩] := rfl
  -- The echelon and the headquarters make the same use of the slot, and the text makes none.
  have inTurn : ∀ (descriptor : Descriptor) (start ended : CodeFields),
      start.InTurn ended (left.entries.filter descriptor.stores) ∧
        start.InTurn ended (right.entries.filter descriptor.stores) := by
    intro descriptor start ended
    have leftTogether : left.entries.Pairwise
        (fun earlier later => earlier.modifier.Together later.modifier) := by
      rw [leftEntries]
      decide
    have rightTogether : right.entries.Pairwise
        (fun earlier later => earlier.modifier.Together later.modifier) := by
      rw [rightEntries]
      decide
    exact ⟨(leftTogether.imp (fun together _ _ => together)).filter _,
      (rightTogether.imp (fun together _ _ => together)).filter _⟩
  have alike := (create_respelled Catalog.standard "SFGPUCI----F---" [⟨0, 0, 0⟩] left right
    respelled).mpr (by
      intro fields made _read _either
      refine ⟨?_, inTurn made.descriptor fields made.fields⟩
      intro first second inLeft
      simp [leftEntries, Descriptor.installs] at inLeft)
  have created : create Catalog.standard "SFGPUCI----F---" [⟨0, 0, 0⟩] (some left) = .ok _ :=
    (create_eq_ok_iff _ _ _ _ _).mpr
      ⟨_, Catalog.pointType .warfighting (some "G") "UCI---" "Infantry" Catalog.unitModifiers, rfl,
        by decide +kernel, rfl, rfl⟩
  exact ⟨respelled, _, rfl, created, (alike _).mp created⟩

/-- A mobility finds the echelon gone in one order and still there in the other. A feint or dummy flag
goes to the installation that it finds, and with it when that is taken away, or it stays. -/
theorem respelled_refused_or_other :
    (let left := Parameters.ofPairs [("Echelon", .text ""), ("Mobility", .text "MO")]
      let right := Parameters.ofPairs [("echelon", .text ""), ("Mobility", .text "MO")]
      Catalog.standard.Reachable ∧ left.Respelled right ∧
        (∃ made, create Catalog.standard "SFGPUCI----D---" [⟨0, 0, 0⟩] (some left) = .ok made) ∧
        create Catalog.standard "SFGPUCI----D---" [⟨0, 0, 0⟩] (some right) =
          .error (.unwritable (.slotConflict .echelon .mobility))) ∧
      let left := Parameters.ofPairs [("FeintDummy", .flag true), ("Installation", .text "")]
      let right := Parameters.ofPairs [("feintDummy", .flag true), ("Installation", .text "")]
      left.Respelled right ∧ ∃ leftMade rightMade,
        create Catalog.standard "SFGPUCI---H----" [⟨0, 0, 0⟩] (some left) = .ok leftMade ∧
        create Catalog.standard "SFGPUCI---H----" [⟨0, 0, 0⟩] (some right) = .ok rightMade ∧
        leftMade.identifier = "SFGPUCI--------" ∧ rightMade.identifier = "SFGPUCI---F----" := by
  constructor
  · intro left right
    have leftCreated := create_of_counted Catalog.standard "SFGPUCI----D---" [⟨0, 0, 0⟩] (some left)
      _ rfl (Catalog.pointType .warfighting (some "G") "UCI---" "Infantry" Catalog.unitModifiers)
      (by decide +kernel) rfl
    have rightCreated := create_of_counted Catalog.standard "SFGPUCI----D---" [⟨0, 0, 0⟩]
      (some right) _ rfl
      (Catalog.pointType .warfighting (some "G") "UCI---" "Infantry" Catalog.unitModifiers)
      (by decide +kernel) rfl
    exact ⟨Catalog.reachable_standard, .of_perm (by decide +kernel) (by decide +kernel),
      ⟨_, leftCreated.trans rfl⟩, rightCreated.trans rfl⟩
  · intro left right
    have leftCreated := create_of_counted Catalog.standard "SFGPUCI---H----" [⟨0, 0, 0⟩] (some left)
      _ rfl (Catalog.pointType .warfighting (some "G") "UCI---" "Infantry" Catalog.unitModifiers)
      (by decide +kernel) rfl
    have rightCreated := create_of_counted Catalog.standard "SFGPUCI---H----" [⟨0, 0, 0⟩]
      (some right) _ rfl
      (Catalog.pointType .warfighting (some "G") "UCI---" "Infantry" Catalog.unitModifiers)
      (by decide +kernel) rfl
    exact ⟨.of_perm (by decide +kernel) (by decide +kernel), _, _, leftCreated.trans rfl,
      rightCreated.trans rfl, rfl, rfl⟩

end Graphic

end TacticalSymbols

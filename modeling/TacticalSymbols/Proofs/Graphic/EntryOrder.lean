import Mathlib.Data.List.Permutation
import TacticalSymbols.Proofs.Graphic.SlotUse

/-!
Entries in another order. Entries of different modifiers come to the same in any order, if the feint
or dummy flag and the installation stay in theirs. If these two change places, all comes to the same
exactly if they do by themselves, in the fields at the start.
-/

namespace TacticalSymbols

/-- Whether an entry that graphics of the type take is the installation, or the flag that an
installation says itself. -/
def Descriptor.installs (descriptor : Descriptor) (entry : Modifier.Entry) : Bool :=
  descriptor.accepts entry &&
    (entry.modifier == .feintDummy || entry.modifier == .installation)

private theorem Descriptor.enter_comm (descriptor : Descriptor) (left right : Modifier.Entry)
    (leftStored : descriptor.stores left = true) (rightStored : descriptor.stores right = true)
    (fields : CodeFields) (different : left.modifier ≠ right.modifier)
    (apart : ¬ left.modifier.ShareInstallation right.modifier) :
    (fields.enter left).enter right = (fields.enter right).enter left := by
  obtain ⟨leftPlaced, leftPlaces⟩ := descriptor.exists_places_of_stores left leftStored fields
  obtain ⟨rightPlaced, rightPlaces⟩ := descriptor.exists_places_of_stores right rightStored fields
  obtain ⟨leftLater, rightLater, rightAfter, leftAfter, _rightAxis, _leftAxis, sameFields⟩ :=
    leftPlaces.exists_comm rightPlaces different apart
  rw [leftPlaces.enter_eq, rightPlaces.enter_eq, rightAfter.enter_eq, leftAfter.enter_eq, sameFields]

namespace Graphic

/-! ### Two entries -/

private theorem mirrors_enter (graphic : Graphic) (entry : Modifier.Entry)
    (mirrored : graphic.markings.Mirrors graphic.descriptor graphic.fields) :
    (graphic.enter entry).markings.Mirrors (graphic.enter entry).descriptor
      (graphic.enter entry).fields := by
  cases accepted : graphic.descriptor.accepts entry with
  | false =>
      rw [graphic.enter_of_unaccepted entry accepted]
      exact mirrored
  | true =>
      by_cases isText : entry.modifier.kind = .text
      · obtain ⟨held, given⟩ := graphic.descriptor.exists_text_of_accepts entry accepted isText
        rw [graphic.enter_of_text entry held accepted isText given]
        exact mirrored.setValue entry.modifier _ (Bool.and_eq_true_iff.mp accepted).1 isText
      · rw [graphic.enter_of_stored entry
          (graphic.descriptor.stores_of_accepts entry accepted isText)]
        exact Markings.mirrors_align _ _ _

/-- Of two codes only the later counts: what the second entry finds of another modifier, the first has
left as it was. -/
private theorem enter_enter_of_stored (graphic : Graphic) (first second : Modifier.Entry)
    (mirrored : graphic.markings.Mirrors graphic.descriptor graphic.fields)
    (firstStored : graphic.descriptor.stores first = true)
    (secondStored : graphic.descriptor.stores second = true)
    (different : first.modifier ≠ second.modifier) :
    (graphic.enter first).enter second =
      graphic.withCode graphic.identifier ((graphic.fields.enter first).enter second) := by
  have secondEntered := enter_of_stored (graphic.enter first) second
    (by rw [descriptor_enter]; exact secondStored)
  rw [secondEntered, graphic.enter_of_stored first firstStored]
  apply graphic.withCode_withCode graphic.identifier graphic.identifier _ _ mirrored
  intro modifier axis isToken stored inMiddle
  rw [← CodeFields.mentions_of_token _ modifier axis isToken stored] at inMiddle ⊢
  rw [← CodeFields.mentions_of_token _ modifier axis isToken stored]
  by_cases isFirst : modifier = first.modifier
  · left
    rw [CodeFields.mentions_enter_of_ne _ second modifier (by rw [isFirst]; exact different)]
    exact inMiddle
  · right
    rw [CodeFields.mentions_enter_of_ne _ first modifier isFirst] at inMiddle
    exact inMiddle

section Pair

variable (graphic : Graphic) (left right : Modifier.Entry)

private theorem enter_enter_of_unaccepted (unaccepted : graphic.descriptor.accepts left = false) :
    (graphic.enter left).enter right = (graphic.enter right).enter left := by
  rw [graphic.enter_of_unaccepted left unaccepted]
  exact ((graphic.enter right).enter_of_unaccepted left
    (by rw [descriptor_enter]; exact unaccepted)).symm

variable (leftAccepted : graphic.descriptor.accepts left = true)
  (rightAccepted : graphic.descriptor.accepts right = true)

include leftAccepted rightAccepted

private theorem enter_enter_of_texts (leftText : left.modifier.kind = .text)
    (rightText : right.modifier.kind = .text) (different : left.modifier ≠ right.modifier) :
    (graphic.enter left).enter right = (graphic.enter right).enter left := by
  obtain ⟨leftHeld, leftGiven⟩ :=
    graphic.descriptor.exists_text_of_accepts left leftAccepted leftText
  obtain ⟨rightHeld, rightGiven⟩ :=
    graphic.descriptor.exists_text_of_accepts right rightAccepted rightText
  rw [graphic.enter_of_text left leftHeld leftAccepted leftText leftGiven,
    graphic.enter_of_text right rightHeld rightAccepted rightText rightGiven,
    enter_of_text (graphic.noted left.modifier leftHeld) right rightHeld rightAccepted rightText
      rightGiven,
    enter_of_text (graphic.noted right.modifier rightHeld) left leftHeld leftAccepted leftText
      leftGiven]
  exact graphic.noted_comm left.modifier right.modifier leftHeld rightHeld different

private theorem enter_enter_of_text (leftText : left.modifier.kind = .text)
    (inCode : right.modifier.kind ≠ .text) :
    (graphic.enter left).enter right = (graphic.enter right).enter left := by
  obtain ⟨held, given⟩ := graphic.descriptor.exists_text_of_accepts left leftAccepted leftText
  have stored := graphic.descriptor.stores_of_accepts right rightAccepted inCode
  rw [graphic.enter_of_text left held leftAccepted leftText given,
    graphic.enter_of_stored right stored,
    enter_of_stored (graphic.noted left.modifier held) right stored,
    enter_of_text (graphic.withCode graphic.identifier (graphic.fields.enter right)) left held
      leftAccepted leftText given]
  exact graphic.withCode_noted left.modifier held _ _ leftText
    (Bool.and_eq_true_iff.mp leftAccepted).1

end Pair

theorem enter_enter (graphic : Graphic) (left right : Modifier.Entry)
    (mirrored : graphic.markings.Mirrors graphic.descriptor graphic.fields)
    (different : left.modifier ≠ right.modifier)
    (apart : ¬ (graphic.descriptor.installs left = true ∧
      graphic.descriptor.installs right = true)) :
    (graphic.enter left).enter right = (graphic.enter right).enter left := by
  cases leftAccepted : graphic.descriptor.accepts left with
  | false => exact graphic.enter_enter_of_unaccepted left right leftAccepted
  | true =>
      cases rightAccepted : graphic.descriptor.accepts right with
      | false => exact (graphic.enter_enter_of_unaccepted right left rightAccepted).symm
      | true =>
          by_cases leftText : left.modifier.kind = .text
          · by_cases rightText : right.modifier.kind = .text
            · exact graphic.enter_enter_of_texts left right leftAccepted rightAccepted leftText
                rightText different
            · exact graphic.enter_enter_of_text left right leftAccepted rightAccepted leftText
                rightText
          · by_cases rightText : right.modifier.kind = .text
            · exact (graphic.enter_enter_of_text right left rightAccepted leftAccepted rightText
                leftText).symm
            · have leftStored := graphic.descriptor.stores_of_accepts left leftAccepted leftText
              have rightStored := graphic.descriptor.stores_of_accepts right rightAccepted rightText
              rw [graphic.enter_enter_of_stored left right mirrored leftStored rightStored different,
                graphic.enter_enter_of_stored right left mirrored rightStored leftStored
                  (Ne.symm different),
                graphic.descriptor.enter_comm left right leftStored rightStored graphic.fields
                  different]
              intro shared
              apply apart
              rw [Descriptor.installs, Descriptor.installs, leftAccepted, rightAccepted]
              rcases shared with ⟨isFeint, isInstallation⟩ | ⟨isInstallation, isFeint⟩
              · rw [isFeint, isInstallation]
                decide
              · rw [isFeint, isInstallation]
                decide

/-! ### All entries -/

private theorem enterAll_middle (before after : List Modifier.Entry) (entry : Modifier.Entry)
    (graphic : Graphic) (mirrored : graphic.markings.Mirrors graphic.descriptor graphic.fields)
    (different : ∀ other ∈ before, other.modifier ≠ entry.modifier)
    (apart : ∀ other ∈ before, ¬ (graphic.descriptor.installs other = true ∧
      graphic.descriptor.installs entry = true)) :
    graphic.enterAll (before ++ entry :: after) =
      (graphic.enter entry).enterAll (before ++ after) := by
  induction before generalizing graphic with
  | nil => rfl
  | cons other before ih =>
      rw [List.cons_append, List.cons_append, enterAll_cons, enterAll_cons,
        ← graphic.enter_enter other entry mirrored (different other List.mem_cons_self)
          (apart other List.mem_cons_self)]
      apply ih _ (graphic.mirrors_enter other mirrored)
      · intro later listed
        exact different later (List.mem_cons_of_mem other listed)
      · intro later listed
        rw [descriptor_enter]
        exact apart later (List.mem_cons_of_mem other listed)

/-- If an entry comes first among those about installations in one list, no other of them comes before
it in a list that has these in the same order. -/
private theorem filter_eq_nil_of_ordered (descriptor : Descriptor) (entry : Modifier.Entry)
    (rest before after : List Modifier.Entry) (notBefore : entry ∉ before)
    (installs : descriptor.installs entry = true)
    (ordered : (entry :: rest).filter descriptor.installs =
      (before ++ entry :: after).filter descriptor.installs) :
    before.filter descriptor.installs = [] := by
  rw [List.filter_append, List.filter_cons_of_pos installs, List.filter_cons_of_pos installs]
    at ordered
  cases filtered : before.filter descriptor.installs with
  | nil => rfl
  | cons first others =>
      rw [filtered, List.cons_append] at ordered
      have isFirst : first ∈ before.filter descriptor.installs := by
        rw [filtered]
        exact List.mem_cons_self
      rw [← (List.cons.inj ordered).1] at isFirst
      exact absurd (List.mem_filter.mp isFirst).1 notBefore

private theorem ordered_of_ordered (descriptor : Descriptor) (entry : Modifier.Entry)
    (rest before after : List Modifier.Entry) (notBefore : entry ∉ before)
    (ordered : (entry :: rest).filter descriptor.installs =
      (before ++ entry :: after).filter descriptor.installs) :
    rest.filter descriptor.installs = (before ++ after).filter descriptor.installs := by
  by_cases installs : descriptor.installs entry = true
  · have nothing := filter_eq_nil_of_ordered descriptor entry rest before after notBefore installs
      ordered
    rw [List.filter_append, nothing, List.nil_append, List.filter_cons_of_pos installs,
      List.filter_cons_of_pos installs] at ordered
    rw [List.filter_append, nothing, List.nil_append]
    exact (List.cons.inj ordered).2
  · rw [List.filter_append, List.filter_cons_of_neg installs, List.filter_cons_of_neg installs]
      at ordered
    rw [List.filter_append]
    exact ordered

private theorem mem_rest_iff (entry : Modifier.Entry) (rest before after : List Modifier.Entry)
    (notInRest : entry ∉ rest) (notBeside : entry ∉ before ++ after)
    (same : ∀ other, other ∈ entry :: rest ↔ other ∈ before ++ entry :: after)
    (other : Modifier.Entry) : other ∈ rest ↔ other ∈ before ++ after := by
  have whole := same other
  rw [List.mem_append, List.mem_cons, List.mem_cons] at whole
  rw [List.mem_append]
  rw [List.mem_append] at notBeside
  by_cases isEntry : other = entry
  · subst isEntry
    exact ⟨fun impossible => absurd impossible notInRest,
      fun impossible => absurd impossible notBeside⟩
  · simpa [isEntry] using whole

/-- The same entries come to the same in any order, if each modifier has one of them and those about
installations are in the same order. -/
theorem enterAll_eq (left right : List Modifier.Entry) (graphic : Graphic)
    (mirrored : graphic.markings.Mirrors graphic.descriptor graphic.fields)
    (leftOnce : (left.map Modifier.Entry.modifier).Nodup)
    (rightOnce : (right.map Modifier.Entry.modifier).Nodup)
    (same : ∀ entry, entry ∈ left ↔ entry ∈ right)
    (ordered : left.filter graphic.descriptor.installs = right.filter graphic.descriptor.installs) :
    graphic.enterAll left = graphic.enterAll right := by
  induction left generalizing right graphic with
  | nil =>
      have empty : right = [] := List.eq_nil_iff_forall_not_mem.mpr
        (fun entry listed => List.not_mem_nil ((same entry).mpr listed))
      rw [empty]
  | cons entry rest ih =>
      obtain ⟨before, after, split⟩ := List.append_of_mem ((same entry).mp List.mem_cons_self)
      subst split
      have restOnce := List.nodup_cons.mp leftOnce
      have besideOnce : entry.modifier ∉ (before ++ after).map Modifier.Entry.modifier ∧
          ((before ++ after).map Modifier.Entry.modifier).Nodup :=
        List.nodup_cons.mp
          ((List.perm_middle.map Modifier.Entry.modifier).nodup_iff.mp rightOnce)
      have notBeside : ∀ other ∈ before ++ after, other.modifier ≠ entry.modifier := by
        intro other listed sameModifier
        exact besideOnce.1 (sameModifier ▸ List.mem_map_of_mem listed)
      have different : ∀ other ∈ before, other.modifier ≠ entry.modifier :=
        fun other listed => notBeside other (List.mem_append_left after listed)
      have notBefore : entry ∉ before := fun listed => different entry listed rfl
      rw [enterAll_cons, graphic.enterAll_middle before after entry mirrored different]
      · apply ih (before ++ after) (graphic.enter entry) (graphic.mirrors_enter entry mirrored)
          restOnce.2 besideOnce.2
        · exact mem_rest_iff entry rest before after
            (fun listed => restOnce.1 (List.mem_map_of_mem listed))
            (fun listed => notBeside entry listed rfl) same
        · rw [descriptor_enter]
          exact ordered_of_ordered graphic.descriptor entry rest before after notBefore ordered
      · intro other listed both
        have nothing := filter_eq_nil_of_ordered graphic.descriptor entry rest before after
          notBefore both.2 ordered
        exact List.not_mem_nil (nothing ▸ List.mem_filter.mpr ⟨listed, both.1⟩)

end Graphic

/-! ### Flag and installation in opposite orders -/

namespace Descriptor

private theorem modifier_of_installs (descriptor : Descriptor) (entry : Modifier.Entry)
    (installs : descriptor.installs entry = true) :
    entry.modifier = .feintDummy ∨ entry.modifier = .installation := by
  rcases Bool.or_eq_true_iff.mp (Bool.and_eq_true_iff.mp installs).2 with isFeint | isInstallation
  · exact .inl (eq_of_beq isFeint)
  · exact .inr (eq_of_beq isInstallation)

private theorem stores_of_installs (descriptor : Descriptor) (entry : Modifier.Entry)
    (installs : descriptor.installs entry = true) : descriptor.stores entry = true := by
  apply descriptor.stores_of_accepts entry (Bool.and_eq_true_iff.mp installs).1
  rcases descriptor.modifier_of_installs entry installs with same | same <;> rw [same] <;> decide

private theorem beside_of_not_installs (descriptor : Descriptor) (entry : Modifier.Entry)
    (stored : descriptor.stores entry = true) (notInstalls : descriptor.installs entry = false) :
    entry.modifier ≠ .feintDummy ∧ entry.modifier ≠ .installation := by
  rw [installs, (Bool.and_eq_true_iff.mp stored).1, Bool.true_and, Bool.or_eq_false_iff] at notInstalls
  exact ⟨beq_eq_false_iff_ne.mp notInstalls.1, beq_eq_false_iff_ne.mp notInstalls.2⟩

/-- Entries of the feint or dummy flag and of the installation that change places come to the same in
the fields. -/
def SettledIn (descriptor : Descriptor) (fields : CodeFields) (left right : List Modifier.Entry) :
    Prop :=
  ∀ first second, left.filter descriptor.installs = [first, second] →
    right.filter descriptor.installs = [second, first] →
      (fields.enter first).enter second = (fields.enter second).enter first

theorem SettledIn.symm {descriptor : Descriptor} {fields : CodeFields}
    {left right : List Modifier.Entry} (settled : descriptor.SettledIn fields left right) :
    descriptor.SettledIn fields right left :=
  fun first second inRight inLeft => (settled second first inLeft inRight).symm

section Once

variable (descriptor : Descriptor) (entries : List Modifier.Entry)
  (once : (entries.map Modifier.Entry.modifier).Nodup)

include once

private theorem nodup_installs :
    ((entries.filter descriptor.installs).map Modifier.Entry.modifier).Nodup :=
  ((List.filter_sublist (p := descriptor.installs)).map Modifier.Entry.modifier).nodup once

private theorem pair_of_installs (first second : Modifier.Entry)
    (pair : entries.filter descriptor.installs = [first, second]) :
    descriptor.stores first = true ∧ descriptor.stores second = true ∧
      first.modifier.ShareInstallation second.modifier := by
  have each : ∀ entry ∈ [first, second], descriptor.installs entry = true := by
    rw [← pair]
    exact fun entry listed => (List.mem_filter.mp listed).2
  have firstInstalls := each first (by simp)
  have secondInstalls := each second (by simp)
  have different : first.modifier ≠ second.modifier := by
    have pairOnce := descriptor.nodup_installs entries once
    rw [pair] at pairOnce
    simpa using pairOnce
  refine ⟨descriptor.stores_of_installs first firstInstalls,
    descriptor.stores_of_installs second secondInstalls, ?_⟩
  rcases descriptor.modifier_of_installs first firstInstalls with isFirst | isFirst <;>
    rcases descriptor.modifier_of_installs second secondInstalls with isSecond | isSecond
  · exact absurd (isFirst.trans isSecond.symm) different
  · exact .inl ⟨isFirst, isSecond⟩
  · exact .inr ⟨isFirst, isSecond⟩
  · exact absurd (isFirst.trans isSecond.symm) different

private theorem not_three_of_installs (first second third : Modifier.Entry)
    (rest : List Modifier.Entry) :
    entries.filter descriptor.installs ≠ first :: second :: third :: rest := by
  intro several
  have each : ∀ entry ∈ first :: second :: third :: rest,
      entry.modifier = .feintDummy ∨ entry.modifier = .installation := by
    rw [← several]
    exact fun entry listed => descriptor.modifier_of_installs entry (List.mem_filter.mp listed).2
  have severalOnce := descriptor.nodup_installs entries once
  rw [several] at severalOnce
  rcases each first (by simp) with isFirst | isFirst <;>
    rcases each second (by simp) with isSecond | isSecond <;>
    rcases each third (by simp) with isThird | isThird <;>
    simp [isFirst, isSecond, isThird] at severalOnce

private theorem installs_eq_or_swapped (other : List Modifier.Entry) (perm : entries.Perm other) :
    entries.filter descriptor.installs = other.filter descriptor.installs ∨
      ∃ first second, entries.filter descriptor.installs = [first, second] ∧
        other.filter descriptor.installs = [second, first] := by
  have permuted := perm.filter descriptor.installs
  rcases few : entries.filter descriptor.installs with _ | ⟨first, _ | ⟨second, _ | ⟨third, rest⟩⟩⟩
  · rw [few] at permuted
    exact .inl (List.nil_perm.mp permuted).symm
  · rw [few] at permuted
    exact .inl (List.singleton_perm.mp permuted)
  · rw [few] at permuted
    rcases List.pair_perm.mp permuted with same | swapped
    · exact .inl same.symm
    · exact .inr ⟨first, second, rfl, swapped⟩
  · exact absurd few (descriptor.not_three_of_installs entries once first second third rest)

end Once

end Descriptor

namespace CodeFields

private theorem enter_comm_of_foldl_eq (fields : CodeFields) (tells : fields.TellsFlags)
    (first second : Modifier.Entry) (others : List Modifier.Entry)
    (shared : first.modifier.ShareInstallation second.modifier)
    (beside : ∀ entry ∈ others, entry.modifier ≠ .feintDummy ∧ entry.modifier ≠ .installation)
    (same : others.foldl enter ((fields.enter first).enter second) =
      others.foldl enter ((fields.enter second).enter first)) :
    (fields.enter first).enter second = (fields.enter second).enter first := by
  -- Of the flags only the feint or dummy depends on the order, and no entry behind the two changes it;
  -- of the other axes only that of the installation does, which no entry behind them writes.
  apply eq_of_tellsFlags _ _ ((tells.enter first).enter second) ((tells.enter second).enter first)
  · intro modifier isFlag
    by_cases isFeint : modifier = .feintDummy
    · have unnamed : modifier ∉ others.map Modifier.Entry.modifier := by
        intro named
        obtain ⟨entry, listed, isEntry⟩ := List.mem_map.mp named
        exact (beside entry listed).1 (isEntry.trans isFeint)
      rw [← mentions_foldl_enter others _ modifier unnamed, same,
        mentions_foldl_enter others _ modifier unnamed]
    · have neither : modifier ≠ first.modifier ∧ modifier ≠ second.modifier := by
        rcases shared with ⟨isFirst, isSecond⟩ | ⟨isFirst, isSecond⟩ <;> rw [isFirst, isSecond] <;>
          revert isFlag isFeint <;> cases modifier <;> decide
      rw [mentions_enter_of_ne _ second modifier neither.2,
        mentions_enter_of_ne _ first modifier neither.1,
        mentions_enter_of_ne _ first modifier neither.1,
        mentions_enter_of_ne _ second modifier neither.2]
  · intro axis notUnit
    by_cases isInstallation : axis = .installation
    · have elsewhere : ∀ entry ∈ others, entry.modifier.axis? ≠ some axis := by
        intro entry listed stored
        apply (beside entry listed).2
        rw [isInstallation] at stored
        exact Modifier.eq_of_axis? .installation entry.modifier .installation (by decide) rfl stored
      have unflagged : axis = .installation → ∀ entry ∈ others, entry.modifier ≠ .feintDummy :=
        fun _ entry listed => (beside entry listed).1
      rw [← token?_foldl_enter_of_ne others _ axis elsewhere unflagged, same,
        token?_foldl_enter_of_ne others _ axis elsewhere unflagged]
    · have neither : first.modifier.axis? ≠ some axis ∧ second.modifier.axis? ≠ some axis := by
        rcases shared with ⟨isFirst, isSecond⟩ | ⟨isFirst, isSecond⟩ <;> rw [isFirst, isSecond] <;>
          revert notUnit isInstallation <;> cases axis <;> decide
      rw [token?_enter_of_ne _ second axis neither.2 (fun there => absurd there isInstallation),
        token?_enter_of_ne _ first axis neither.1 (fun there => absurd there isInstallation),
        token?_enter_of_ne _ first axis neither.1 (fun there => absurd there isInstallation),
        token?_enter_of_ne _ second axis neither.2 (fun there => absurd there isInstallation)]

end CodeFields

namespace Graphic

private theorem enterAll_installsFirst (graphic : Graphic)
    (mirrored : graphic.markings.Mirrors graphic.descriptor graphic.fields)
    (entries other : List Modifier.Entry) (once : (entries.map Modifier.Entry.modifier).Nodup)
    (perm : entries.Perm other) :
    graphic.enterAll entries =
      (graphic.enterAll (entries.filter graphic.descriptor.installs)).enterAll
        (other.filter (fun entry => !graphic.descriptor.installs entry)) := by
  have sorted : entries.Perm (entries.filter graphic.descriptor.installs ++
      other.filter (fun entry => !graphic.descriptor.installs entry)) :=
    (List.filter_append_perm graphic.descriptor.installs entries).symm.trans
      ((perm.filter _).append_left _)
  have appended := enterAll_eq entries _ graphic mirrored once
    ((sorted.map Modifier.Entry.modifier).nodup_iff.mp once) (fun _ => sorted.mem_iff) (by simp)
  rw [appended, enterAll, List.foldl_append]
  rfl

section Settled

variable (graphic : Graphic) (mirrored : graphic.markings.Mirrors graphic.descriptor graphic.fields)
  (left right : List Modifier.Entry) (once : (left.map Modifier.Entry.modifier).Nodup)
  (perm : left.Perm right)

include mirrored once perm

theorem enterAll_eq_of_settled
    (settled : graphic.descriptor.SettledIn graphic.fields left right) :
    graphic.enterAll left = graphic.enterAll right := by
  have rightOnce := (perm.map Modifier.Entry.modifier).nodup_iff.mp once
  rcases graphic.descriptor.installs_eq_or_swapped left once right perm with
    ordered | ⟨first, second, inLeft, inRight⟩
  · exact enterAll_eq left right graphic mirrored once rightOnce (fun _ => perm.mem_iff) ordered
  -- Behind the two nothing depends on their order any more.
  · obtain ⟨firstStored, secondStored, shared⟩ :=
      graphic.descriptor.pair_of_installs left once first second inLeft
    rw [graphic.enterAll_installsFirst mirrored left left once (.refl left),
      graphic.enterAll_installsFirst mirrored right left rightOnce perm.symm, inLeft, inRight]
    change ((graphic.enter first).enter second).enterAll _ =
      ((graphic.enter second).enter first).enterAll _
    rw [graphic.enter_enter_of_stored first second mirrored firstStored secondStored shared.ne,
      graphic.enter_enter_of_stored second first mirrored secondStored firstStored shared.ne.symm,
      settled first second inLeft inRight]

theorem settled_of_fields_eq (tells : graphic.fields.TellsFlags)
    (same : (graphic.enterAll left).fields = (graphic.enterAll right).fields) :
    graphic.descriptor.SettledIn graphic.fields left right := by
  intro first second inLeft inRight
  obtain ⟨firstStored, secondStored, shared⟩ :=
    graphic.descriptor.pair_of_installs left once first second inLeft
  have rightOnce := (perm.map Modifier.Entry.modifier).nodup_iff.mp once
  rw [graphic.enterAll_installsFirst mirrored left left once (.refl left),
    graphic.enterAll_installsFirst mirrored right left rightOnce perm.symm, inLeft, inRight] at same
  simp only [fields_enterAll, descriptor_enterAll, List.filter_cons_of_pos firstStored,
    List.filter_cons_of_pos secondStored, List.filter_nil, List.foldl_cons, List.foldl_nil] at same
  apply graphic.fields.enter_comm_of_foldl_eq tells first second _ shared _ same
  intro entry listed
  obtain ⟨beside, stored⟩ := List.mem_filter.mp listed
  exact graphic.descriptor.beside_of_not_installs entry stored
    ((Bool.not_eq_true' _).mp (List.mem_filter.mp beside).2)

end Settled

end Graphic

end TacticalSymbols

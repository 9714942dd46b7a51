import TacticalSymbols.Proofs.Graphic.WriteOrder
import TacticalSymbols.Proofs.Graphic.Writes

/-!
Writes of modifiers without their spellings. An entry names a modifier itself. Entering it is what a
granted write does, but for the code's text, and is done whether or not the code can be written: so
entries can be put into another order where writes would be refused.
-/

namespace TacticalSymbols

/-! ### Entries -/

structure Modifier.Entry where
  modifier : Modifier
  value : Modifier.Value
  deriving DecidableEq, Repr

namespace Modifier.Entry

def ofItem? (item : String × Modifier.Value) : Option Entry :=
  (ofSpelling? item.1).map (fun modifier => { modifier := modifier, value := item.2 })

def ofItems (items : List (String × Modifier.Value)) : List Entry :=
  items.filterMap ofItem?

private theorem ofItems_cons_of_named (item : String × Modifier.Value) (modifier : Modifier)
    (items : List (String × Modifier.Value)) (named : ofSpelling? item.1 = some modifier) :
    ofItems (item :: items) = { modifier := modifier, value := item.2 } :: ofItems items :=
  List.filterMap_cons_some (by rw [ofItem?, named]; rfl)

private theorem ofItems_cons_of_unnamed (item : String × Modifier.Value)
    (items : List (String × Modifier.Value)) (unnamed : ofSpelling? item.1 = none) :
    ofItems (item :: items) = ofItems items :=
  List.filterMap_cons_none (by rw [ofItem?, unnamed]; rfl)

end Modifier.Entry

namespace Descriptor

/-- Whether a write of the entry does anything to graphics of the type. -/
def accepts (descriptor : Descriptor) (entry : Modifier.Entry) : Bool :=
  descriptor.carries entry.modifier && entry.modifier.kind.takes entry.value

/-- Whether a write of the entry goes to the code of graphics of the type. -/
def stores (descriptor : Descriptor) (entry : Modifier.Entry) : Bool :=
  descriptor.accepts entry && entry.modifier.kind != .text

theorem stores_of_accepts (descriptor : Descriptor) (entry : Modifier.Entry)
    (accepted : descriptor.accepts entry = true) (inCode : entry.modifier.kind ≠ .text) :
    descriptor.stores entry = true := by
  rw [stores, accepted, Bool.true_and]
  exact bne_iff_ne.mpr inCode

theorem exists_text_of_accepts (descriptor : Descriptor) (entry : Modifier.Entry)
    (accepted : descriptor.accepts entry = true) (isText : entry.modifier.kind = .text) :
    ∃ held, entry.value = .text held := by
  have taken := (Bool.and_eq_true_iff.mp accepted).2
  rw [isText] at taken
  cases given : entry.value with
  | flag set => rw [given] at taken; cases taken
  | token held => rw [given] at taken; cases taken
  | text held => exact ⟨held, rfl⟩

theorem exists_places_of_stores (descriptor : Descriptor) (entry : Modifier.Entry)
    (stored : descriptor.stores entry = true) (fields : CodeFields) :
    ∃ placement, fields.Places entry.modifier entry.value placement := by
  obtain ⟨accepted, inCode⟩ := Bool.and_eq_true_iff.mp stored
  exact fields.exists_places entry.modifier entry.value (bne_iff_ne.mp inCode)
    (Bool.and_eq_true_iff.mp accepted).2

end Descriptor

/-! ### Entries in codes -/

namespace CodeFields

def placement? (fields : CodeFields) (entry : Modifier.Entry) : Option Placement :=
  match entry.modifier.kind with
  | .flag => entry.value.flag?.map (fields.flagPlacement entry.modifier)
  | .token => entry.modifier.axis?.bind (fun axis => entry.value.text?.map axis.placement)
  | .text => none

def enter (fields : CodeFields) (entry : Modifier.Entry) : CodeFields :=
  (fields.placement? entry).elim fields fields.place

private theorem placement?_eq_some_iff (fields : CodeFields) (entry : Modifier.Entry)
    (placement : Placement) :
    fields.placement? entry = some placement ↔
      fields.Places entry.modifier entry.value placement := by
  unfold placement?
  constructor
  · intro found
    cases kind : entry.modifier.kind with
    | text =>
        rw [kind] at found
        cases found
    | flag =>
        rw [kind] at found
        obtain ⟨set, given, same⟩ := Option.map_eq_some_iff.mp found
        rw [← same]
        exact .flag set kind given
    | token =>
        rw [kind] at found
        obtain ⟨axis, stored, found⟩ := Option.bind_eq_some_iff.mp found
        obtain ⟨held, given, same⟩ := Option.map_eq_some_iff.mp found
        rw [← same]
        exact .token axis held kind stored given
  · intro places
    cases places with
    | flag set isFlag given => rw [isFlag, given]; rfl
    | token axis held isToken stored given => rw [isToken, stored, Option.bind_some, given]; rfl

theorem Places.inSlot {fields : CodeFields} {modifier : Modifier} {value : Modifier.Value}
    {placement : Placement} (places : fields.Places modifier value placement) :
    placement.axis.inSlot = true := by
  rcases places.axis_eq with stored | ⟨atInstallation, _isFeint⟩
  · exact modifier.inSlot_of_axis? placement.axis stored
  · rw [atInstallation]
    rfl

theorem Places.enter_eq {fields : CodeFields} {entry : Modifier.Entry} {placement : Placement}
    (places : fields.Places entry.modifier entry.value placement) :
    fields.enter entry = fields.place placement := by
  rw [enter, (placement?_eq_some_iff fields entry placement).mpr places]
  rfl

theorem enter_cases (fields : CodeFields) (entry : Modifier.Entry) :
    fields.enter entry = fields ∨
      ∃ placement, fields.Places entry.modifier entry.value placement ∧
        fields.enter entry = fields.place placement := by
  cases placed : fields.placement? entry with
  | none =>
      left
      rw [enter, placed]
      rfl
  | some placement =>
      have places := (placement?_eq_some_iff fields entry placement).mp placed
      exact .inr ⟨placement, places, places.enter_eq⟩

theorem scheme?_enter (fields : CodeFields) (entry : Modifier.Entry) :
    (fields.enter entry).scheme? = fields.scheme? := by
  rcases fields.enter_cases entry with same | ⟨placement, places, entered⟩
  · rw [same]
  · have outside : .scheme ≠ placement.axis := by
      intro isScheme
      have inSlot := places.inSlot
      rw [← isScheme] at inSlot
      cases inSlot
    rw [entered, scheme?, token?_place_of_ne fields placement .scheme outside]
    rfl

end CodeFields

namespace Graphic

/-! ### One entry -/

/-- The graphic with another text for its code. -/
def labelled (graphic : Graphic) (identifier : String) : Graphic :=
  { graphic with identifier := identifier }

/-- The graphic with what the entry says, but for the text of its code. -/
def enter (graphic : Graphic) (entry : Modifier.Entry) : Graphic :=
  if graphic.descriptor.stores entry then
    graphic.withCode graphic.identifier (graphic.fields.enter entry)
  else if graphic.descriptor.accepts entry then
    { graphic with markings := graphic.markings.setValue entry.modifier entry.value }
  else graphic

private theorem identifier_enter (graphic : Graphic) (entry : Modifier.Entry) :
    (graphic.enter entry).identifier = graphic.identifier := by
  unfold enter
  split
  · rfl
  · split <;> rfl

theorem descriptor_enter (graphic : Graphic) (entry : Modifier.Entry) :
    (graphic.enter entry).descriptor = graphic.descriptor := by
  unfold enter
  split
  · rfl
  · split <;> rfl

private theorem fields_enter (graphic : Graphic) (entry : Modifier.Entry) :
    (graphic.enter entry).fields =
      if graphic.descriptor.stores entry then graphic.fields.enter entry else graphic.fields := by
  unfold enter
  split
  · rfl
  · split <;> rfl

private theorem enter_labelled (graphic : Graphic) (identifier : String) (entry : Modifier.Entry) :
    (graphic.labelled identifier).enter entry = (graphic.enter entry).labelled identifier := by
  unfold enter
  rw [show (graphic.labelled identifier).descriptor = graphic.descriptor from rfl]
  split
  · rfl
  · split <;> rfl

/-- The text of the code is written again, if the code is what the entry goes to. -/
structure Enters (graphic : Graphic) (entry : Modifier.Entry) (after : Graphic) : Prop where
  entered : after = (graphic.enter entry).labelled after.identifier
  kept : graphic.descriptor.stores entry = false → after.identifier = graphic.identifier
  written : graphic.descriptor.stores entry = true →
    (graphic.fields.enter entry).encode = .ok after.identifier

theorem enter_of_stored (graphic : Graphic) (entry : Modifier.Entry)
    (stored : graphic.descriptor.stores entry = true) :
    graphic.enter entry = graphic.withCode graphic.identifier (graphic.fields.enter entry) := by
  rw [enter, if_pos stored]

theorem enter_of_text (graphic : Graphic) (entry : Modifier.Entry) (held : String)
    (accepted : graphic.descriptor.accepts entry = true) (isText : entry.modifier.kind = .text)
    (given : entry.value = .text held) :
    graphic.enter entry = graphic.noted entry.modifier held := by
  have notStored : graphic.descriptor.stores entry = false := by
    rw [Descriptor.stores, isText, bne_self_eq_false, Bool.and_false]
  rw [enter, notStored, if_neg (by decide), if_pos accepted, given]
  rfl

theorem enter_of_unaccepted (graphic : Graphic) (entry : Modifier.Entry)
    (unaccepted : graphic.descriptor.accepts entry = false) : graphic.enter entry = graphic := by
  rw [enter, Descriptor.stores, unaccepted, Bool.false_and]
  rfl

private theorem enters_of_stored (graphic : Graphic) (entry : Modifier.Entry) (code : String)
    (stored : graphic.descriptor.stores entry = true)
    (written : (graphic.fields.enter entry).encode = .ok code) :
    graphic.Enters entry ((graphic.enter entry).labelled code) := by
  refine ⟨rfl, ?_, fun _ => written⟩
  intro unstored
  exact absurd (stored.symm.trans unstored) (by decide)

private theorem enters_of_unstored (graphic : Graphic) (entry : Modifier.Entry)
    (unstored : graphic.descriptor.stores entry = false) :
    graphic.Enters entry (graphic.enter entry) := by
  refine ⟨rfl, fun _ => graphic.identifier_enter entry, ?_⟩
  intro stored
  exact absurd (stored.symm.trans unstored) (by decide)

/-! ### Writes as entries -/

theorem run_writeModifier_of_unstored (graphic : Graphic) (spelling : String)
    (entry : Modifier.Entry) (spelled : Modifier.ofSpelling? spelling = some entry.modifier)
    (unstored : graphic.descriptor.stores entry = false) :
    Update.run (writeModifier spelling entry.value) graphic = (.ok (), graphic.enter entry) := by
  have carriedBy := carried?_of_spelled graphic.descriptor spelling entry.modifier spelled graphic rfl
  cases accepted : graphic.descriptor.accepts entry with
  | true =>
      obtain ⟨carried, _taken⟩ := Bool.and_eq_true_iff.mp accepted
      have isText : entry.modifier.kind = .text := by
        rw [Descriptor.stores, accepted, Bool.true_and] at unstored
        exact bne_eq_false_iff_eq.mp unstored
      obtain ⟨held, given⟩ := graphic.descriptor.exists_text_of_accepts entry accepted isText
      rw [carried, if_pos rfl] at carriedBy
      rw [graphic.enter_of_text entry held accepted isText given, run_writeModifier, carriedBy, given]
      dsimp only
      rw [isText]
      rfl
  | false =>
      rw [graphic.enter_of_unaccepted entry accepted]
      cases carried : graphic.descriptor.carries entry.modifier with
      | false =>
          rw [carried, if_neg (by decide)] at carriedBy
          exact run_writeModifier_of_foreign spelling entry.value graphic carriedBy
      | true =>
          rw [carried, if_pos rfl] at carriedBy
          rw [Descriptor.accepts, carried, Bool.true_and] at accepted
          exact run_writeModifier_of_notTaken spelling entry.modifier entry.value graphic carriedBy
            accepted

theorem run_writeModifier_of_stored (graphic : Graphic) (spelling : String)
    (entry : Modifier.Entry) (spelled : Modifier.ofSpelling? spelling = some entry.modifier)
    (stored : graphic.descriptor.stores entry = true) :
    Update.run (writeModifier spelling entry.value) graphic =
      Update.run (takeOver (graphic.fields.enter entry)) graphic := by
  obtain ⟨accepted, inCode⟩ := Bool.and_eq_true_iff.mp stored
  obtain ⟨carried, taken⟩ := Bool.and_eq_true_iff.mp accepted
  have carriedBy := carried?_of_spelled graphic.descriptor spelling entry.modifier spelled graphic rfl
  rw [carried, if_pos rfl] at carriedBy
  obtain ⟨placement, places⟩ :=
    graphic.fields.exists_places entry.modifier entry.value (bne_iff_ne.mp inCode) taken
  rw [graphic.run_writeModifier_of_places spelling entry.modifier entry.value placement carriedBy
    places, places.enter_eq]

theorem run_writeModifier_eq_ok_iff (graphic after : Graphic) (spelling : String)
    (entry : Modifier.Entry) (spelled : Modifier.ofSpelling? spelling = some entry.modifier) :
    Update.run (writeModifier spelling entry.value) graphic = (.ok (), after) ↔
      graphic.Enters entry after := by
  cases stored : graphic.descriptor.stores entry with
  | true =>
      rw [graphic.run_writeModifier_of_stored spelling entry spelled stored, run_takeOver_eq_ok_iff]
      have entered := graphic.enter_of_stored entry stored
      constructor
      · intro taken
        obtain ⟨identifier, written, same⟩ := taken
        have enters := graphic.enters_of_stored entry identifier stored written
        rw [entered] at enters
        rw [← same]
        exact enters
      · intro enters
        refine ⟨after.identifier, enters.written stored, ?_⟩
        rw [enters.entered, entered]
        rfl
  | false =>
      rw [graphic.run_writeModifier_of_unstored spelling entry spelled stored]
      constructor
      · intro same
        cases same
        exact graphic.enters_of_unstored entry stored
      · intro enters
        rw [enters.entered, enters.kept stored, ← graphic.identifier_enter entry]
        rfl

private theorem Enters.descriptor_eq {before after : Graphic} {entry : Modifier.Entry}
    (enters : before.Enters entry after) : after.descriptor = before.descriptor := by
  rw [enters.entered]
  exact before.descriptor_enter entry

private theorem Enters.scheme?_eq {before after : Graphic} {entry : Modifier.Entry}
    (enters : before.Enters entry after) : after.fields.scheme? = before.fields.scheme? := by
  rw [enters.entered]
  change (before.enter entry).fields.scheme? = _
  rw [fields_enter]
  split
  · exact before.fields.scheme?_enter entry
  · rfl

private theorem exists_enters (graphic : Graphic) (entry : Modifier.Entry)
    (writable : ∃ code, (graphic.enter entry).fields.encode = .ok code) :
    ∃ after, graphic.Enters entry after := by
  obtain ⟨code, written⟩ := writable
  cases stored : graphic.descriptor.stores entry with
  | true =>
      rw [fields_enter, if_pos stored] at written
      exact ⟨_, graphic.enters_of_stored entry code stored written⟩
  | false => exact ⟨_, graphic.enters_of_unstored entry stored⟩

/-! ### All entries -/

def enterAll (graphic : Graphic) (entries : List Modifier.Entry) : Graphic :=
  entries.foldl enter graphic

theorem enterAll_cons (graphic : Graphic) (entry : Modifier.Entry)
    (entries : List Modifier.Entry) :
    graphic.enterAll (entry :: entries) = (graphic.enter entry).enterAll entries :=
  rfl

theorem descriptor_enterAll (graphic : Graphic) (entries : List Modifier.Entry) :
    (graphic.enterAll entries).descriptor = graphic.descriptor := by
  induction entries generalizing graphic with
  | nil => rfl
  | cons entry rest ih => rw [enterAll_cons, ih, descriptor_enter]

theorem fields_enterAll (graphic : Graphic) (entries : List Modifier.Entry) :
    (graphic.enterAll entries).fields =
      (entries.filter graphic.descriptor.stores).foldl CodeFields.enter graphic.fields := by
  induction entries generalizing graphic with
  | nil => rfl
  | cons entry rest ih =>
      rw [enterAll_cons, ih, descriptor_enter, fields_enter]
      cases stored : graphic.descriptor.stores entry with
      | true => rw [List.filter_cons_of_pos stored, if_pos rfl, List.foldl_cons]
      | false => rw [List.filter_cons_of_neg (by rw [stored]; decide), if_neg (by decide)]

private theorem enterAll_labelled (graphic : Graphic) (identifier : String)
    (entries : List Modifier.Entry) :
    (graphic.labelled identifier).enterAll entries =
      (graphic.enterAll entries).labelled identifier := by
  induction entries generalizing graphic with
  | nil => rfl
  | cons entry rest ih => rw [enterAll_cons, enterAll_cons, enter_labelled, ih]

/-- The text of the code is written again, if the code is what some entry goes to. -/
structure EntersAll (graphic : Graphic) (entries : List Modifier.Entry) (after : Graphic) :
    Prop where
  entered : after = (graphic.enterAll entries).labelled after.identifier
  kept : (∀ entry ∈ entries, graphic.descriptor.stores entry = false) →
    after.identifier = graphic.identifier
  written : ∀ entry ∈ entries, graphic.descriptor.stores entry = true →
    after.fields.encode = .ok after.identifier

private theorem EntersAll.nil (graphic : Graphic) : graphic.EntersAll [] graphic :=
  ⟨rfl, fun _ => rfl, fun _ impossible => absurd impossible (List.not_mem_nil)⟩

theorem EntersAll.fields_eq {graphic after : Graphic} {entries : List Modifier.Entry}
    (enters : graphic.EntersAll entries after) :
    after.fields =
      (entries.filter graphic.descriptor.stores).foldl CodeFields.enter graphic.fields := by
  rw [enters.entered, ← fields_enterAll]
  rfl

theorem EntersAll.descriptor_eq {graphic after : Graphic} {entries : List Modifier.Entry}
    (enters : graphic.EntersAll entries after) : after.descriptor = graphic.descriptor := by
  rw [enters.entered]
  exact graphic.descriptor_enterAll entries

theorem EntersAll.eq_of_enterAll_eq {graphic leftAfter rightAfter : Graphic}
    {left right : List Modifier.Entry} (leftEnters : graphic.EntersAll left leftAfter)
    (rightEnters : graphic.EntersAll right rightAfter)
    (same : ∀ entry, entry ∈ left ↔ entry ∈ right)
    (together : graphic.enterAll left = graphic.enterAll right) : leftAfter = rightAfter := by
  have sameFields : leftAfter.fields = rightAfter.fields := by
    rw [leftEnters.entered, rightEnters.entered, together]
    rfl
  have sameIdentifier : leftAfter.identifier = rightAfter.identifier := by
    by_cases stored : ∃ entry ∈ left, graphic.descriptor.stores entry = true
    · obtain ⟨entry, listed, isStored⟩ := stored
      have leftWritten := leftEnters.written entry listed isStored
      rw [sameFields, rightEnters.written entry ((same entry).mp listed) isStored] at leftWritten
      exact (Except.ok.inj leftWritten).symm
    · have unstored : ∀ entry ∈ left, graphic.descriptor.stores entry = false :=
        fun entry listed => Bool.eq_false_iff.mpr (fun isStored => stored ⟨entry, listed, isStored⟩)
      rw [leftEnters.kept unstored,
        rightEnters.kept (fun entry listed => unstored entry ((same entry).mpr listed))]
  rw [leftEnters.entered, rightEnters.entered, together, sameIdentifier]

private theorem EntersAll.cons {before middle after : Graphic} {entry : Modifier.Entry}
    {entries : List Modifier.Entry} (first : before.Enters entry middle)
    (rest : middle.EntersAll entries after) : before.EntersAll (entry :: entries) after := by
  have typed := first.descriptor_eq
  refine ⟨?_, ?_, ?_⟩
  · have whole := rest.entered
    rw [first.entered, enterAll_labelled] at whole
    exact whole
  · intro unstored
    rw [rest.kept, first.kept (unstored entry List.mem_cons_self)]
    intro other listed
    rw [typed]
    exact unstored other (List.mem_cons_of_mem entry listed)
  · intro stored listed isStored
    by_cases later : ∃ other ∈ entries, before.descriptor.stores other = true
    · obtain ⟨other, otherListed, otherStored⟩ := later
      exact rest.written other otherListed (by rw [typed]; exact otherStored)
    -- No later entry goes to the code, so that it stays as this one has written it.
    · have unstored : ∀ other ∈ entries, middle.descriptor.stores other = false := by
        intro other otherListed
        rw [typed, Bool.eq_false_iff]
        exact fun otherStored => later ⟨other, otherListed, otherStored⟩
      have isFirst : stored = entry := by
        rcases List.mem_cons.mp listed with same | inRest
        · exact same
        · exact absurd ⟨stored, inRest, isStored⟩ later
      subst isFirst
      have sameFields : after.fields = before.fields.enter stored := by
        rw [rest.fields_eq, List.filter_eq_nil_iff.mpr (by simpa using unstored), List.foldl_nil,
          first.entered]
        change (before.enter stored).fields = _
        rw [fields_enter, if_pos isStored]
      rw [sameFields, rest.kept unstored]
      exact first.written isStored

/-! ### One entry after the other -/

inductive EntersEach : Graphic → List Modifier.Entry → Graphic → Prop where
  | nothing (graphic : Graphic) : EntersEach graphic [] graphic
  | next {before middle after : Graphic} {entry : Modifier.Entry} {entries : List Modifier.Entry}
      (first : before.Enters entry middle) (rest : EntersEach middle entries after) :
      EntersEach before (entry :: entries) after

/-- Items with spellings of no modifier do nothing. -/
theorem written_iff_entersEach (items : List (String × Modifier.Value)) (graphic made : Graphic) :
    Written graphic items made ↔ graphic.EntersEach (Modifier.Entry.ofItems items) made := by
  induction items generalizing graphic with
  | nil =>
      constructor
      · intro written
        cases written
        exact .nothing _
      · intro enters
        cases enters
        exact .nothing _
  | cons item items ih =>
      cases named : Modifier.ofSpelling? item.1 with
      | none =>
          have idle := run_writeModifier_of_unnamed item.1 item.2 graphic named
          rw [Modifier.Entry.ofItems_cons_of_unnamed item items named, ← ih]
          constructor
          · intro written
            cases written with
            | next granted rest =>
                cases idle.symm.trans granted
                exact rest
          · exact .next idle
      | some modifier =>
          have entering := fun after =>
            run_writeModifier_eq_ok_iff graphic after item.1 ⟨modifier, item.2⟩ named
          rw [Modifier.Entry.ofItems_cons_of_named item modifier items named]
          constructor
          · intro written
            cases written with
            | next granted rest => exact .next ((entering _).mp granted) ((ih _).mp rest)
          · intro enters
            cases enters with
            | next first rest => exact .next ((entering _).mpr first) ((ih _).mpr rest)

theorem EntersEach.entersAll {graphic made : Graphic} {entries : List Modifier.Entry}
    (enters : graphic.EntersEach entries made) : graphic.EntersAll entries made := by
  induction enters with
  | nothing graphic => exact .nil graphic
  | next first rest ih => exact .cons first ih

theorem EntersEach.of_append {graphic made : Graphic} {before after : List Modifier.Entry}
    (enters : graphic.EntersEach (before ++ after) made) :
    ∃ middle, graphic.EntersEach before middle := by
  induction before generalizing graphic with
  | nil => exact ⟨graphic, .nothing graphic⟩
  | cons entry before ih =>
      cases enters with
      | next first rest =>
          obtain ⟨middle, part⟩ := ih rest
          exact ⟨middle, .next first part⟩

theorem EntersEach.exists_encode {graphic made : Graphic} {entries : List Modifier.Entry}
    (enters : graphic.EntersEach entries made) (entry : Modifier.Entry) (listed : entry ∈ entries)
    (stored : graphic.descriptor.stores entry = true) :
    ∃ (fields : CodeFields) (code : String), fields.scheme? = graphic.fields.scheme? ∧
      (fields.enter entry).encode = .ok code := by
  induction enters with
  | nothing graphic => cases listed
  | @next before middle after earlier entries first rest ih =>
      rcases List.mem_cons.mp listed with same | inRest
      · subst same
        exact ⟨_, _, rfl, first.written stored⟩
      · rw [← first.scheme?_eq]
        apply ih inRest
        rw [first.descriptor_eq]
        exact stored

theorem exists_entersEach (entries : List Modifier.Entry) (graphic : Graphic)
    (writable : ∀ before after, entries = before ++ after →
      ∃ code, (graphic.enterAll before).fields.encode = .ok code) :
    ∃ made, graphic.EntersEach entries made := by
  induction entries generalizing graphic with
  | nil => exact ⟨graphic, .nothing graphic⟩
  | cons entry entries ih =>
      obtain ⟨middle, entered⟩ := graphic.exists_enters entry (writable [entry] entries rfl)
      obtain ⟨made, rest⟩ := ih middle (by
        intro before after split
        rw [entered.entered, enterAll_labelled]
        exact writable (entry :: before) after (congrArg (List.cons entry) split))
      exact ⟨made, .next entered rest⟩

end Graphic

end TacticalSymbols

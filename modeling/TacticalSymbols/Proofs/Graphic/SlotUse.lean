import TacticalSymbols.Proofs.Graphic.Entries

/-!
The slot while entries go to the code. Each entry says something of its own modifier only, so what
the code says of a modifier in between it said at the start, or it says so in the end. So the slot has
one use all the time, if it has one at the start and in the end, exactly when no entry leaves something
there before another takes away what may not stand beside it.
-/

namespace TacticalSymbols

/-! ### What codes say of modifiers -/

private theorem UnitFlags.ofToken?_upper (token : String) :
    ofToken? (Text.upper token) = ofToken? token := by
  unfold ofToken?
  simp only [Text.sameLetters_upper]

private theorem UnitFlags.flag_withFlag_of_ne (flags : UnitFlags) (modifier other : Modifier)
    (set : Bool) (isFlag : modifier.kind = .flag) (different : modifier ≠ other) :
    (Graphic.withFlag flags other set).flag modifier = flags.flag modifier := by
  cases modifier <;> cases isFlag <;> cases other <;> first | rfl | exact absurd rfl different

theorem UnitFlags.token?_of_isLegal (token : String) (scheme : Scheme)
    (legal : isLegal .unitEquipment token scheme = true) :
    ((ofToken? token).getD unset).token? = some token := by
  have everyToken : ∀ token ∈ (["A", "B", "C", "D", "E", "F", "G"] : List String),
      ((ofToken? token).getD unset).token? = some token := by
    decide
  exact everyToken token (mem_tokens_of_isLegal .unitEquipment token scheme legal (by decide))

theorem UnitFlags.eq_of_flag (left right : UnitFlags)
    (same : ∀ modifier : Modifier, modifier.kind = .flag →
      left.flag modifier = right.flag modifier) : left = right := by
  cases left
  cases right
  rw [UnitFlags.mk.injEq]
  exact ⟨same .feintDummy rfl, same .headquarters rfl, same .taskForce rfl⟩

theorem Modifier.axis?_of_flag (modifier : Modifier) (isFlag : modifier.kind = .flag) :
    modifier.axis? = some .unitEquipment := by
  revert isFlag
  cases modifier <;> decide

theorem Modifier.eq_of_axis? (modifier other : Modifier) (axis : Axis)
    (notFlag : modifier.kind ≠ .flag) (stored : modifier.axis? = some axis)
    (otherStored : other.axis? = some axis) : other = modifier := by
  revert notFlag stored
  cases other <;> cases otherStored <;> cases modifier <;> decide

/-- The two may stand in the slot at once. -/
def Modifier.Together (left right : Modifier) : Prop :=
  ∀ leftAxis ∈ left.axis?, ∀ rightAxis ∈ right.axis?, leftAxis.Together rightAxis

instance (left right : Modifier) : Decidable (left.Together right) :=
  inferInstanceAs (Decidable (∀ leftAxis ∈ left.axis?, ∀ rightAxis ∈ right.axis?,
    leftAxis.Together rightAxis))

theorem Modifier.Together.symm {left right : Modifier} (together : left.Together right) :
    right.Together left :=
  fun rightAxis rightStored leftAxis leftStored rightInSlot leftInSlot =>
    (together leftAxis leftStored rightAxis rightStored leftInSlot rightInSlot).symm

namespace CodeFields

/-- Whether the code says something of the modifier: that its flag is set, or a token. -/
def mentions (fields : CodeFields) (modifier : Modifier) : Bool :=
  if modifier.kind = .flag then fields.unitFlags.flag modifier
  else modifier.axis?.any fields.contains

theorem Places.contains_installation {fields : CodeFields} {modifier : Modifier}
    {value : Modifier.Value} {placement : Placement}
    (places : fields.Places modifier value placement) (isFeint : modifier = .feintDummy)
    (atInstallation : placement.axis = .installation) :
    fields.contains .installation = true ∧
      (fields.place placement).contains .installation = true := by
  cases places with
  | token axis held isToken stored given =>
      rw [isFeint] at isToken
      cases isToken
  | flag set isFlag given =>
      by_cases installed : modifier = .feintDummy ∧ fields.contains .installation = true
      · refine ⟨installed.2, ?_⟩
        rw [flagPlacement, if_pos installed]
        rfl
      · rw [flagPlacement, if_neg installed] at atInstallation
        cases atInstallation

private theorem unitFlags_place_of_ne (fields : CodeFields) (placement : Placement)
    (elsewhere : placement.axis ≠ .unitEquipment) :
    (fields.place placement).unitFlags = fields.unitFlags := by
  unfold unitFlags
  rw [token?_place_of_ne fields placement _ (Ne.symm elsewhere)]

section Places

variable {fields : CodeFields} {other : Modifier} {value : Modifier.Value} {placement : Placement}
  (places : fields.Places other value placement) (modifier : Modifier)
  (different : modifier ≠ other)

include places different

theorem Places.flag_unitFlags (isFlag : modifier.kind = .flag) :
    (fields.place placement).unitFlags.flag modifier = fields.unitFlags.flag modifier := by
  by_cases isUnit : placement.axis = .unitEquipment
  · obtain ⟨set, same, _again⟩ := places.eq_unitPlacement isUnit
    rw [same, unitFlags_unitPlacement]
    exact UnitFlags.flag_withFlag_of_ne _ modifier other set isFlag different
  · rw [unitFlags_place_of_ne fields placement isUnit]

private theorem Places.contains_axis (notFlag : modifier.kind ≠ .flag) (axis : Axis)
    (stored : modifier.axis? = some axis) :
    (fields.place placement).contains axis = fields.contains axis := by
  by_cases there : axis = placement.axis
  · subst there
    rcases places.axis_eq with otherStored | ⟨atInstallation, isFeint⟩
    · exact absurd (modifier.eq_of_axis? other placement.axis notFlag stored otherStored).symm
        different
    · obtain ⟨before, after⟩ := places.contains_installation isFeint atInstallation
      rw [atInstallation, before, after]
  · exact contains_place_of_ne fields placement axis there

private theorem Places.mentions_eq :
    (fields.place placement).mentions modifier = fields.mentions modifier := by
  unfold mentions
  by_cases isFlag : modifier.kind = .flag
  · rw [if_pos isFlag, if_pos isFlag]
    exact places.flag_unitFlags modifier different isFlag
  · rw [if_neg isFlag, if_neg isFlag]
    cases stored : modifier.axis? with
    | none => rfl
    | some axis => exact places.contains_axis modifier different isFlag axis stored

end Places

theorem mentions_enter_of_ne (fields : CodeFields) (entry : Modifier.Entry) (modifier : Modifier)
    (different : modifier ≠ entry.modifier) :
    (fields.enter entry).mentions modifier = fields.mentions modifier := by
  rcases fields.enter_cases entry with same | ⟨placement, places, entered⟩
  · rw [same]
  · rw [entered]
    exact places.mentions_eq modifier different

private theorem contains_of_mentions (fields : CodeFields) (modifier : Modifier) (axis : Axis)
    (stored : modifier.axis? = some axis) (mentioned : fields.mentions modifier = true) :
    fields.contains axis = true := by
  unfold mentions at mentioned
  by_cases isFlag : modifier.kind = .flag
  · rw [if_pos isFlag] at mentioned
    have isUnit : axis = .unitEquipment :=
      Option.some.inj (stored.symm.trans (modifier.axis?_of_flag isFlag))
    subst isUnit
    cases held : fields.token? .unitEquipment with
    | some token => rw [contains, held]; rfl
    | none =>
        rw [unitFlags, held] at mentioned
        cases modifier <;> cases mentioned
  · rw [if_neg isFlag, stored] at mentioned
    exact mentioned

theorem mentions_of_token (fields : CodeFields) (modifier : Modifier) (axis : Axis)
    (isToken : modifier.kind = .token) (stored : modifier.axis? = some axis) :
    fields.mentions modifier = fields.contains axis := by
  rw [mentions, isToken, if_neg (by decide), stored]
  rfl

/-- The token of the unit is the one of the flags that it says. -/
def TellsFlags (fields : CodeFields) : Prop :=
  fields.token? .unitEquipment = fields.unitFlags.token?

theorem tellsFlags_of_decode (text : String) (fields : CodeFields)
    (read : decode text = .ok fields) : fields.TellsFlags := by
  obtain ⟨scheme, reads⟩ := (decode_eq_ok_iff text fields).mp read
  unfold TellsFlags unitFlags
  cases held : fields.token? .unitEquipment with
  | none => rfl
  | some token =>
      have legal := (writable_of_reads reads).isLegal_of_capitals (capitals_of_reads reads)
        .unitEquipment token held
      exact (UnitFlags.token?_of_isLegal token scheme legal).symm

theorem TellsFlags.enter {fields : CodeFields} (tells : fields.TellsFlags)
    (entry : Modifier.Entry) : (fields.enter entry).TellsFlags := by
  rcases fields.enter_cases entry with same | ⟨placement, places, entered⟩
  · rw [same]
    exact tells
  · rw [entered]
    by_cases isUnit : placement.axis = .unitEquipment
    · obtain ⟨set, same, _again⟩ := places.eq_unitPlacement isUnit
      rw [same, TellsFlags, unitFlags_unitPlacement]
      exact token?_place_self fields (fields.unitPlacement entry.modifier set)
    · rw [TellsFlags, unitFlags_place_of_ne fields placement isUnit,
        token?_place_of_ne fields placement _ (Ne.symm isUnit)]
      exact tells

theorem eq_of_tellsFlags (left right : CodeFields) (leftTells : left.TellsFlags)
    (rightTells : right.TellsFlags)
    (flags : ∀ modifier : Modifier, modifier.kind = .flag →
      left.mentions modifier = right.mentions modifier)
    (tokens : ∀ axis, axis ≠ .unitEquipment → left.token? axis = right.token? axis) :
    left = right := by
  have sameFlags : left.unitFlags = right.unitFlags := by
    apply UnitFlags.eq_of_flag
    intro modifier isFlag
    have mentioned := flags modifier isFlag
    rw [mentions, mentions, if_pos isFlag, if_pos isFlag] at mentioned
    exact mentioned
  apply CodeFields.ext
  funext axis
  by_cases isUnit : axis = .unitEquipment
  · rw [isUnit, leftTells, rightTells, sameFlags]
  · exact tokens axis isUnit

/-! ### Legal tokens -/

def Legal (scheme : Scheme) (fields : CodeFields) : Prop :=
  ∀ axis token, fields.token? axis = some token →
    scheme.uses axis = true ∧ isLegal axis (Text.upper token) scheme = true

private theorem flag_of_unitToken (fields : CodeFields) (scheme : Scheme) (token : String)
    (held : fields.token? .unitEquipment = some token)
    (legal : isLegal .unitEquipment (Text.upper token) scheme = true) :
    ∃ modifier : Modifier, modifier.kind = .flag ∧ fields.mentions modifier = true := by
  have listed : Text.upper token ∈ (["A", "B", "C", "D", "E", "F", "G"] : List String) := by
    simpa [isLegal, legalTokens, TokenSet.contains] using legal
  have flagged : ∀ capital ∈ (["A", "B", "C", "D", "E", "F", "G"] : List String),
      ∃ modifier ∈ Modifier.all, modifier.kind = .flag ∧
        ((UnitFlags.ofToken? capital).getD UnitFlags.unset).flag modifier = true := by
    decide
  obtain ⟨modifier, _listed, isFlag, set⟩ := flagged (Text.upper token) listed
  refine ⟨modifier, isFlag, ?_⟩
  rw [UnitFlags.ofToken?_upper] at set
  rw [mentions, if_pos isFlag, unitFlags, held, Option.bind_some]
  exact set

private theorem exists_mentions_of_contains (fields : CodeFields) (scheme : Scheme)
    (legal : fields.Legal scheme) (axis : Axis) (inSlot : axis.inSlot = true)
    (holds : fields.contains axis = true) :
    ∃ modifier : Modifier, modifier.axis? = some axis ∧ fields.mentions modifier = true := by
  cases axis with
  | unitEquipment =>
      obtain ⟨token, held⟩ := Option.isSome_iff_exists.mp holds
      obtain ⟨modifier, isFlag, mentioned⟩ :=
        fields.flag_of_unitToken scheme token held (legal _ token held).2
      exact ⟨modifier, modifier.axis?_of_flag isFlag, mentioned⟩
  | echelon => exact ⟨.echelon, rfl, holds⟩
  | installation => exact ⟨.installation, rfl, holds⟩
  | mobility => exact ⟨.mobility, rfl, holds⟩
  | auxiliaryEquipment => exact ⟨.auxiliaryEquipment, rfl, holds⟩
  | _ => cases inSlot

theorem legal_place (fields : CodeFields) (scheme : Scheme) (placement : Placement)
    (legal : fields.Legal scheme)
    (placed : ∀ token, placement.token? = some token → scheme.uses placement.axis = true ∧
      isLegal placement.axis (Text.upper token) scheme = true) :
    (fields.place placement).Legal scheme := by
  intro axis token held
  by_cases there : axis = placement.axis
  · subst there
    rw [token?_place_self] at held
    exact placed token held
  · rw [token?_place_of_ne fields placement axis there] at held
    exact legal axis token held

end CodeFields

theorem UnitFlags.isLegal_of_token? (flags : UnitFlags) (token : String) (scheme : Scheme)
    (found : flags.token? = some token) :
    isLegal .unitEquipment (Text.upper token) scheme = true := by
  have listed : ∀ row ∈ table, isLegal .unitEquipment (Text.upper row.1) scheme = true := by
    cases scheme <;> decide
  obtain ⟨row, isRow, same⟩ := Option.map_eq_some_iff.mp found
  rw [← same]
  exact listed row (List.mem_of_find?_eq_some isRow)

theorem Installation.isLegal_flag (set : Bool) (scheme : Scheme) :
    isLegal .installation (Text.upper (if set then feintDummy else normal)) scheme = true := by
  cases set <;> cases scheme <;> decide

namespace Modifier.Entry

/-- The entry makes no code illegal under the scheme. -/
def KeepsLegal (entry : Modifier.Entry) (scheme : Scheme) : Prop :=
  ∀ fields : CodeFields, fields.Legal scheme → (fields.enter entry).Legal scheme

private theorem keepsLegal_of_places (entry : Modifier.Entry) (scheme : Scheme)
    (placed : ∀ (fields : CodeFields) (placement : Placement), fields.Legal scheme →
      fields.Places entry.modifier entry.value placement → ∀ token,
        placement.token? = some token → scheme.uses placement.axis = true ∧
          isLegal placement.axis (Text.upper token) scheme = true) : entry.KeepsLegal scheme := by
  intro fields legal
  rcases fields.enter_cases entry with same | ⟨placement, places, entered⟩
  · rw [same]
    exact legal
  · rw [entered]
    exact fields.legal_place scheme placement legal (placed fields placement legal places)

/-- A flag is written in the token of the unit or of the installation, and these are all legal. -/
theorem keepsLegal_of_flag (entry : Modifier.Entry) (scheme : Scheme)
    (isFlag : entry.modifier.kind = .flag) (used : scheme.uses .unitEquipment = true) :
    entry.KeepsLegal scheme := by
  apply entry.keepsLegal_of_places scheme
  intro fields placement legal places token held
  cases places with
  | token axis given isToken stored hasText => exact absurd (isFlag.symm.trans isToken) (by decide)
  | flag set _isFlag given =>
      by_cases installed : entry.modifier = .feintDummy ∧ fields.contains .installation = true
      · rw [CodeFields.flagPlacement, if_pos installed] at held ⊢
        obtain ⟨standing, stands⟩ := Option.isSome_iff_exists.mp installed.2
        cases held
        exact ⟨(legal .installation standing stands).1, Installation.isLegal_flag set scheme⟩
      · rw [CodeFields.flagPlacement, if_neg installed] at held ⊢
        exact ⟨used, UnitFlags.isLegal_of_token? _ token scheme held⟩

/-- A token is the same in every code, so it is legal in all if it is in one. -/
theorem keepsLegal_of_token (entry : Modifier.Entry) (scheme : Scheme)
    (isToken : entry.modifier.kind = .token) (other : CodeFields)
    (otherLegal : (other.enter entry).Legal scheme) : entry.KeepsLegal scheme := by
  apply entry.keepsLegal_of_places scheme
  intro fields placement legal places token held
  cases places with
  | flag set isFlag given => exact absurd (isFlag.symm.trans isToken) (by decide)
  | token axis given _isToken stored hasText =>
      have inOther : other.Places entry.modifier entry.value (axis.placement given) :=
        .token axis given isToken stored hasText
      apply otherLegal
      rw [inOther.enter_eq, CodeFields.token?_place_self]
      exact held

end Modifier.Entry

namespace CodeFields

/-! ### What entries leave alone -/

theorem mentions_foldl_enter (entries : List Modifier.Entry) (fields : CodeFields)
    (modifier : Modifier) (unnamed : modifier ∉ entries.map Modifier.Entry.modifier) :
    (entries.foldl enter fields).mentions modifier = fields.mentions modifier := by
  refine List.foldlRecOn (motive := fun ended => ended.mentions modifier = fields.mentions modifier)
    entries enter rfl ?_
  intro middle kept entry listed
  have different : modifier ≠ entry.modifier :=
    fun same => unnamed (same ▸ List.mem_map_of_mem listed)
  exact (middle.mentions_enter_of_ne entry modifier different).trans kept

theorem scheme?_foldl_enter (entries : List Modifier.Entry) (fields : CodeFields) :
    (entries.foldl enter fields).scheme? = fields.scheme? := by
  refine List.foldlRecOn (motive := fun ended => ended.scheme? = fields.scheme?) entries enter rfl ?_
  intro middle kept entry _listed
  exact (middle.scheme?_enter entry).trans kept

theorem legal_foldl_enter (entries : List Modifier.Entry) (fields : CodeFields) (scheme : Scheme)
    (legal : fields.Legal scheme) (keeps : ∀ entry ∈ entries, entry.KeepsLegal scheme) :
    (entries.foldl enter fields).Legal scheme := by
  refine List.foldlRecOn entries enter legal ?_
  intro middle kept entry listed
  exact keeps entry listed middle kept

theorem token?_enter_of_ne (fields : CodeFields) (entry : Modifier.Entry) (axis : Axis)
    (elsewhere : entry.modifier.axis? ≠ some axis)
    (notFeint : axis = .installation → entry.modifier ≠ .feintDummy) :
    (fields.enter entry).token? axis = fields.token? axis := by
  rcases fields.enter_cases entry with same | ⟨placement, places, entered⟩
  · rw [same]
  · rw [entered]
    apply token?_place_of_ne
    intro there
    rcases places.axis_eq with stored | ⟨atInstallation, isFeint⟩
    · exact elsewhere (there ▸ stored)
    · exact notFeint (there.trans atInstallation) isFeint

theorem token?_foldl_enter_of_ne (entries : List Modifier.Entry) (fields : CodeFields) (axis : Axis)
    (elsewhere : ∀ entry ∈ entries, entry.modifier.axis? ≠ some axis)
    (notFeint : axis = .installation → ∀ entry ∈ entries, entry.modifier ≠ .feintDummy) :
    (entries.foldl enter fields).token? axis = fields.token? axis := by
  refine List.foldlRecOn (motive := fun ended => ended.token? axis = fields.token? axis)
    entries enter rfl ?_
  intro middle kept entry listed
  have untouched := middle.token?_enter_of_ne entry axis (elsewhere entry listed)
    (fun isInstallation => notFeint isInstallation entry listed)
  exact untouched.trans kept

/-! ### Entries in turn -/

/-- All that stands in the slot may stand there at once. -/
def OneUse (fields : CodeFields) : Prop :=
  ∀ left right, fields.contains left = true → fields.contains right = true → left.Together right

private theorem OneUse.together {fields : CodeFields} (oneUse : fields.OneUse)
    (left right : Modifier) (leftMentioned : fields.mentions left = true)
    (rightMentioned : fields.mentions right = true) :
    left.Together right := by
  intro leftAxis leftStored rightAxis rightStored
  exact oneUse leftAxis rightAxis
    (fields.contains_of_mentions left leftAxis leftStored leftMentioned)
    (fields.contains_of_mentions right rightAxis rightStored rightMentioned)

private theorem oneUse_of_together (fields : CodeFields) (scheme : Scheme)
    (legal : fields.Legal scheme)
    (together : ∀ left right, fields.mentions left = true → fields.mentions right = true →
      left.Together right) : fields.OneUse := by
  intro left right leftHolds rightHolds leftInSlot rightInSlot
  obtain ⟨leftModifier, leftStored, leftMentioned⟩ :=
    fields.exists_mentions_of_contains scheme legal left leftInSlot leftHolds
  obtain ⟨rightModifier, rightStored, rightMentioned⟩ :=
    fields.exists_mentions_of_contains scheme legal right rightInSlot rightHolds
  exact together leftModifier rightModifier leftMentioned rightMentioned left leftStored right
    rightStored leftInSlot rightInSlot

/-- No entry leaves something in the slot that may not stand there with what an entry after it finds
there at the start. -/
def InTurn (start ended : CodeFields) (entries : List Modifier.Entry) : Prop :=
  entries.Pairwise (fun earlier later => ended.mentions earlier.modifier = true →
    start.mentions later.modifier = true → earlier.modifier.Together later.modifier)

instance (start ended : CodeFields) (entries : List Modifier.Entry) :
    Decidable (start.InTurn ended entries) :=
  inferInstanceAs (Decidable (List.Pairwise _ entries))

section Turns

variable (before after : List Modifier.Entry) (fields : CodeFields)
  (once : ((before ++ after).map Modifier.Entry.modifier).Nodup)

include once

private theorem unnamed_after (modifier : Modifier)
    (named : modifier ∈ before.map Modifier.Entry.modifier) :
    modifier ∉ after.map Modifier.Entry.modifier := by
  rw [List.map_append] at once
  intro namedAfter
  exact (List.nodup_append.mp once).2.2 modifier named modifier namedAfter rfl

variable (ended : ((before ++ after).foldl enter fields).OneUse)
  (inTurn : fields.InTurn ((before ++ after).foldl enter fields) (before ++ after))

include ended inTurn

/-- What an entry before has put there is there in the end. The other is there in the end as well, or
an entry after has found it at the start. -/
private theorem together_of_named (left right : Modifier)
    (named : left ∈ before.map Modifier.Entry.modifier)
    (leftMentioned : (before.foldl enter fields).mentions left = true)
    (rightMentioned : (before.foldl enter fields).mentions right = true) :
    left.Together right := by
  have inTheEnd : ∀ modifier, modifier ∉ after.map Modifier.Entry.modifier →
      (before.foldl enter fields).mentions modifier = true →
        ((before ++ after).foldl enter fields).mentions modifier = true := by
    intro modifier unnamed mentioned
    rw [List.foldl_append, mentions_foldl_enter after _ modifier unnamed]
    exact mentioned
  have leftEnds := inTheEnd left (unnamed_after before after once left named) leftMentioned
  by_cases namedAfter : right ∈ after.map Modifier.Entry.modifier
  · obtain ⟨earlier, earlierListed, isLeft⟩ := List.mem_map.mp named
    obtain ⟨later, laterListed, isRight⟩ := List.mem_map.mp namedAfter
    have unnamedBefore : right ∉ before.map Modifier.Entry.modifier :=
      fun namedBefore => unnamed_after before after once right namedBefore namedAfter
    rw [mentions_foldl_enter before fields right unnamedBefore] at rightMentioned
    subst isLeft isRight
    exact (List.pairwise_append.mp inTurn).2.2 earlier earlierListed later laterListed leftEnds
      rightMentioned
  · exact ended.together left right leftEnds (inTheEnd right namedAfter rightMentioned)

/-- In between the slot has one use if it has one at the start and in the end and the entries come in
turn. -/
theorem oneUse_between (scheme : Scheme) (legal : (before.foldl enter fields).Legal scheme)
    (start : fields.OneUse) : (before.foldl enter fields).OneUse := by
  apply oneUse_of_together _ scheme legal
  intro left right leftMentioned rightMentioned
  by_cases leftNamed : left ∈ before.map Modifier.Entry.modifier
  · exact together_of_named before after fields once ended inTurn left right leftNamed
      leftMentioned rightMentioned
  · by_cases rightNamed : right ∈ before.map Modifier.Entry.modifier
    · exact (together_of_named before after fields once ended inTurn right left rightNamed
        rightMentioned leftMentioned).symm
    · rw [mentions_foldl_enter before fields left leftNamed] at leftMentioned
      rw [mentions_foldl_enter before fields right rightNamed] at rightMentioned
      exact start.together left right leftMentioned rightMentioned

end Turns

/-- Between an entry that leaves something in the slot and a later one that finds something there,
both stand there. -/
theorem inTurn_of_oneUse (entries : List Modifier.Entry) (fields : CodeFields)
    (once : (entries.map Modifier.Entry.modifier).Nodup)
    (oneUse : ∀ before after, entries = before ++ after →
      (before.foldl enter fields).OneUse) :
    fields.InTurn (entries.foldl enter fields) entries := by
  rw [InTurn, List.pairwise_iff_forall_sublist]
  intro earlier later inOrder stays stood
  obtain ⟨before, after, split, earlierBefore, laterAfter⟩ := List.cons_sublist_iff.mp inOrder
  subst split
  have earlierNamed := List.mem_map_of_mem (f := Modifier.Entry.modifier) earlierBefore
  have laterNamed :=
    List.mem_map_of_mem (f := Modifier.Entry.modifier) (List.singleton_sublist.mp laterAfter)
  apply (oneUse before after rfl).together
  · rw [List.foldl_append, mentions_foldl_enter after _ _
      (unnamed_after before after once _ earlierNamed)] at stays
    exact stays
  · rw [mentions_foldl_enter before _ _
      (fun namedBefore => unnamed_after before after once _ namedBefore laterNamed)]
    exact stood

end CodeFields

end TacticalSymbols

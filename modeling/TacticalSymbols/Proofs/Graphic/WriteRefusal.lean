import TacticalSymbols.Proofs.Code.WriteFailure
import TacticalSymbols.Proofs.Graphic.Respelling

/-!
When writing a modifier is refused. What a modifier puts into the code is refused for two reasons
only: it is no legal token, or the slot is in another use. A flag is always legal, and one that is unset
needs no room.
-/

namespace TacticalSymbols

namespace CodeFields

/-! ### Putting something into a code -/

/-- Why a code that can be written cannot be written any more once something is put into it. -/
inductive Excludes (scheme : Scheme) (fields : CodeFields) (placement : Placement) :
    WriteError → Prop where
  | illegal (token : String) (placed : placement.token? = some token)
      (illegal : isLegal placement.axis (Text.upper token) scheme = false) :
      Excludes scheme fields placement
        (.invalidToken placement.axis (Text.upper token) placement.axis.start)
  | taken (token : String) (placed : placement.token? = some token)
      (legal : isLegal placement.axis (Text.upper token) scheme = true)
      (other first second : Axis) (stands : fields.contains other = true)
      (apart : ¬ placement.axis.Together other)
      (pair : (first = placement.axis ∧ second = other) ∨ (first = other ∧ second = placement.axis))
      (ordered : [first, second].Sublist Axis.all) :
      Excludes scheme fields placement (.slotConflict first second)

private theorem token?_place_cases (fields : CodeFields) (placement : Placement) (axis : Axis)
    (token : String) (present : (fields.place placement).token? axis = some token) :
    (axis = placement.axis ∧ placement.token? = some token) ∨
      (axis ≠ placement.axis ∧ fields.token? axis = some token) := by
  by_cases there : axis = placement.axis
  · subst there
    rw [token?_place_self] at present
    exact .inl ⟨rfl, present⟩
  · rw [token?_place_of_ne fields placement axis there] at present
    exact .inr ⟨there, present⟩

section Named

variable {scheme : Scheme} {fields : CodeFields} (placement : Placement)
  (inSlot : placement.axis.inSlot = true) (named : fields.scheme? = some scheme)

include inSlot named

theorem scheme?_place_of_inSlot : (fields.place placement).scheme? = some scheme := by
  have notScheme : Axis.scheme ≠ placement.axis := by
    intro isScheme
    rw [← isScheme] at inSlot
    cases inSlot
  rw [scheme?, token?_place_of_ne fields placement .scheme notScheme]
  exact named

private theorem exists_error_of_not_writable
    (unwritable : ¬ Writable scheme (fields.place placement)) :
    ∃ failure, (fields.place placement).encode = .error failure := by
  cases written : (fields.place placement).encode with
  | error failure => exact ⟨failure, rfl⟩
  | ok code =>
      exact absurd (writable_of_encode _ scheme code
        (scheme?_place_of_inSlot placement inSlot named) written) unwritable

end Named

section Place

variable {scheme : Scheme} {fields : CodeFields} (writable : Writable scheme fields)
  (placement : Placement) (used : scheme.uses placement.axis = true)

include writable used

theorem writable_place_iff :
    Writable scheme (fields.place placement) ↔
      ∀ token, placement.token? = some token →
        isLegal placement.axis (Text.upper token) scheme = true ∧
          ∀ other, fields.contains other = true → placement.axis.Together other := by
  constructor
  · intro whole token placed
    have present : (fields.place placement).token? placement.axis = some token := by
      rw [token?_place_self, placed]
    refine ⟨(whole.legal placement.axis token present).2, fun other stands => ?_⟩
    by_cases there : other = placement.axis
    · rw [there]
      exact fun _ _ => rfl
    · apply whole.together placement.axis other
      · exact (fields.place placement).contains_of_token? placement.axis token present
      · rw [contains_place_of_ne fields placement other there]
        exact stands
  · intro fits
    constructor
    · apply fields.legal_place scheme placement writable.legal
      intro token placed
      exact ⟨used, (fits token placed).1⟩
    · intro left right holdsLeft holdsRight
      obtain ⟨leftToken, leftPresent⟩ := Option.isSome_iff_exists.mp holdsLeft
      obtain ⟨rightToken, rightPresent⟩ := Option.isSome_iff_exists.mp holdsRight
      rcases token?_place_cases fields placement left leftToken leftPresent with
        ⟨atLeft, leftPlaced⟩ | ⟨_, leftBefore⟩
      · rw [atLeft]
        rcases token?_place_cases fields placement right rightToken rightPresent with
          ⟨atRight, _⟩ | ⟨_, rightBefore⟩
        · rw [atRight]
          exact fun _ _ => rfl
        · exact (fits leftToken leftPlaced).2 right
            (fields.contains_of_token? right rightToken rightBefore)
      · rcases token?_place_cases fields placement right rightToken rightPresent with
          ⟨atRight, rightPlaced⟩ | ⟨_, rightBefore⟩
        · rw [atRight]
          have together := (fits rightToken rightPlaced).2 left
            (fields.contains_of_token? left leftToken leftBefore)
          exact fun leftInSlot rightInSlot => (together rightInSlot leftInSlot).symm
        · exact writable.together left right
            (fields.contains_of_token? left leftToken leftBefore)
            (fields.contains_of_token? right rightToken rightBefore)

/-- What hinders the writing has to do with what was put in: all else could be written before. -/
private theorem excludes_of_halts (failure : WriteError)
    (halts : Halts scheme (fields.place placement).toList failure) :
    Excludes scheme fields placement failure := by
  obtain ⟨before, item, after, split, admitted, hinders⟩ := halts
  have listed : item ∈ (fields.place placement).toList := by
    rw [split]
    exact List.mem_append_right before List.mem_cons_self
  have origin := token?_place_cases fields placement item.1 item.2 ((mem_toList _ _ _).mp listed)
  cases hinders with
  | unused unused =>
      rcases origin with ⟨there, _placed⟩ | ⟨_, stood⟩
      · rw [there, used] at unused
        cases unused
      · rw [(writable.legal item.1 item.2 stood).1] at unused
        cases unused
  | illegal _used illegal =>
      rcases origin with ⟨there, placed⟩ | ⟨_, stood⟩
      · rw [there] at illegal ⊢
        exact .illegal item.2 placed illegal
      · rw [(writable.legal item.1 item.2 stood).2] at illegal
        cases illegal
  | taken holder _used legal held inSlot different =>
      obtain ⟨holderItem, holderMember, isHolder⟩ :=
        List.mem_map.mp (List.mem_of_find?_eq_some held)
      have holderInSlot : holder.inSlot = true := List.find?_some held
      have holderListed : holderItem ∈ (fields.place placement).toList := by
        rw [split]
        exact List.mem_append_left _ holderMember
      have holderLegal := (legal_of_admitted scheme before admitted holderItem holderMember).2
      have holderOrigin := token?_place_cases fields placement holderItem.1 holderItem.2
        ((mem_toList _ _ _).mp holderListed)
      have ordered : holder.Before item.1 :=
        before_of_split split holder (List.mem_of_find?_eq_some held)
      rw [isHolder] at holderLegal holderOrigin
      rcases origin with ⟨there, placed⟩ | ⟨elsewhere, stood⟩
      · rcases holderOrigin with ⟨holderThere, _⟩ | ⟨_, holderStood⟩
        · rw [holderThere, there] at different
          exact absurd rfl different
        · have holderStands := fields.contains_of_token? holder holderItem.2 holderStood
          rw [there] at legal
          refine .taken item.2 placed legal holder holder item.1 holderStands ?_
            (.inr ⟨rfl, there⟩) ordered
          rw [← there]
          exact fun together => different (together inSlot holderInSlot).symm
      · have stands := fields.contains_of_token? item.1 item.2 stood
        rcases holderOrigin with ⟨holderThere, holderPlaced⟩ | ⟨_, holderStood⟩
        · rw [holderThere] at holderLegal
          refine .taken holderItem.2 holderPlaced holderLegal item.1 holder item.1 stands ?_
            (.inl ⟨holderThere, rfl⟩) ordered
          rw [← holderThere]
          exact fun together => different (together holderInSlot inSlot)
        · have together := writable.together holder item.1
            (fields.contains_of_token? holder holderItem.2 holderStood) stands
          exact absurd (together holderInSlot inSlot) different

variable (inSlot : placement.axis.inSlot = true) (named : fields.scheme? = some scheme)

include inSlot named

private theorem excludes_of_encode (failure : WriteError)
    (failed : (fields.place placement).encode = .error failure) :
    Excludes scheme fields placement failure :=
  excludes_of_halts writable placement used failure
    ((encode_eq_error_iff _ scheme (scheme?_place_of_inSlot placement inSlot named) failure).mp
      failed)

end Place

theorem Places.uses {scheme : Scheme} {fields : CodeFields} {modifier : Modifier}
    {value : Modifier.Value} {placement : Placement}
    (places : fields.Places modifier value placement) (writable : Writable scheme fields)
    (applies : modifier.appliesTo scheme = true) : scheme.uses placement.axis = true := by
  rcases places.axis_eq with stored | ⟨atInstallation, isFeint⟩
  · rw [Modifier.appliesTo, stored] at applies
    exact applies
  · obtain ⟨token, present⟩ :=
      Option.isSome_iff_exists.mp (places.contains_installation isFeint atInstallation).1
    rw [atInstallation]
    exact (writable.legal .installation token present).1

end CodeFields

/-! ### Flags -/

private theorem Axis.not_before_unitEquipment (other : Axis)
    (apart : ¬ unitEquipment.Together other) : ¬ [other, unitEquipment].Sublist all := by
  revert apart
  cases other <;> decide

/-- Whether what stands on the axis leaves no room for the flag of the modifier. An installation has a
token of its own for a feint or dummy. -/
def Modifier.BarredBy (modifier : Modifier) (occupant : Axis) : Prop :=
  occupant = .mobility ∨ occupant = .auxiliaryEquipment ∨
    (occupant = .installation ∧ modifier ≠ .feintDummy)

private theorem UnitFlags.isSome_token?_withFlag (flags : UnitFlags) (modifier : Modifier)
    (isFlag : modifier.kind = .flag) :
    (Graphic.withFlag flags modifier true).token?.isSome = true := by
  rcases flags with ⟨feintDummy, headquarters, taskForce⟩
  cases modifier <;> cases isFlag <;> cases feintDummy <;> cases headquarters <;>
    cases taskForce <;> decide

private theorem UnitFlags.token?_withFlag_unset (modifier : Modifier) :
    (Graphic.withFlag UnitFlags.unset modifier false).token? = none := by
  cases modifier <;> decide

namespace CodeFields

private theorem isLegal_of_flagPlacement (fields : CodeFields) (modifier : Modifier) (set : Bool)
    (scheme : Scheme) (token : String)
    (placed : (fields.flagPlacement modifier set).token? = some token) :
    isLegal (fields.flagPlacement modifier set).axis (Text.upper token) scheme = true := by
  by_cases installed : modifier = .feintDummy ∧ fields.contains .installation = true
  · rw [flagPlacement, if_pos installed] at placed ⊢
    cases placed
    exact Installation.isLegal_flag set scheme
  · rw [flagPlacement, if_neg installed] at placed ⊢
    exact UnitFlags.isLegal_of_token? _ token scheme placed

private theorem contains_of_unsetFlag (fields : CodeFields) (modifier : Modifier) (token : String)
    (placed : (fields.unitPlacement modifier false).token? = some token) :
    fields.contains .unitEquipment = true := by
  cases present : fields.token? .unitEquipment with
  | some held => exact fields.contains_of_token? .unitEquipment held present
  | none =>
      have noFlags : fields.unitFlags = UnitFlags.unset := by
        rw [unitFlags, present]
        rfl
      have nothing := UnitFlags.token?_withFlag_unset modifier
      rw [← noFlags] at nothing
      cases nothing.symm.trans placed

section Flag

variable {scheme : Scheme} {fields : CodeFields} (writable : Writable scheme fields)
  (named : fields.scheme? = some scheme) (modifier : Modifier) (isFlag : modifier.kind = .flag)
  (applies : modifier.appliesTo scheme = true)

include writable

/-- An installation that a feint or dummy flag goes to leaves room for it. -/
private theorem flagPlacement_axis_of_barred (set : Bool) (occupant : Axis)
    (stands : fields.contains occupant = true) (barred : modifier.BarredBy occupant) :
    (fields.flagPlacement modifier set).axis = .unitEquipment := by
  rw [flagPlacement_axis_iff]
  intro installed
  have together := writable.together .installation occupant installed.2 stands
  rcases barred with isMobility | isAuxiliary | ⟨_isInstallation, notFeint⟩
  · rw [isMobility] at together
    exact absurd together (by decide)
  · rw [isAuxiliary] at together
    exact absurd together (by decide)
  · exact notFeint installed.1

private theorem barred_of_apart (set : Bool) (token : String)
    (placed : (fields.flagPlacement modifier set).token? = some token) (other : Axis)
    (stands : fields.contains other = true)
    (apart : ¬ (fields.flagPlacement modifier set).axis.Together other) :
    set = true ∧ (fields.flagPlacement modifier set).axis = .unitEquipment ∧
      modifier.BarredBy other := by
  rcases fields.flagPlacement_axis modifier set with isUnit | ⟨atInstallation, isFeint⟩
  · have notInstalled := (fields.flagPlacement_axis_iff modifier set).mp isUnit
    rw [isUnit] at apart
    refine ⟨?_, isUnit, ?_⟩
    · cases set with
      | true => rfl
      | false =>
          rw [fields.flagPlacement_eq_unitPlacement modifier false isUnit] at placed
          exact absurd (writable.together .unitEquipment other
            (fields.contains_of_unsetFlag modifier token placed) stands) apart
    · have rivals : other = .installation ∨ other = .mobility ∨ other = .auxiliaryEquipment := by
        revert apart
        cases other <;> decide
      rcases rivals with isInstallation | isMobility | isAuxiliary
      · rw [isInstallation] at stands
        exact .inr (.inr ⟨isInstallation, fun isFeint => notInstalled ⟨isFeint, stands⟩⟩)
      · exact .inl isMobility
      · exact .inr (.inl isAuxiliary)
  · have installed : fields.contains .installation = true := by
      by_cases itself : modifier = .feintDummy ∧ fields.contains .installation = true
      · exact itself.2
      · rw [flagPlacement, if_neg itself] at atInstallation
        cases atInstallation
    rw [atInstallation] at apart
    exact absurd (writable.together .installation other installed stands) apart

/-- Axes that stand in the slot together are of one use, and those that leave no room have a use each. -/
private theorem eq_of_barred (other occupant : Axis) (otherStands : fields.contains other = true)
    (stands : fields.contains occupant = true) (otherBarred : modifier.BarredBy other)
    (barred : modifier.BarredBy occupant) : other = occupant := by
  have together := writable.together other occupant otherStands stands
  rcases otherBarred with isOther | isOther | ⟨isOther, _⟩ <;>
    rcases barred with isThis | isThis | ⟨isThis, _⟩ <;> rw [isOther, isThis] at together ⊢ <;>
    revert together <;> decide

include isFlag applies

private theorem not_writable_of_barred (occupant : Axis) (stands : fields.contains occupant = true)
    (barred : modifier.BarredBy occupant) :
    ¬ Writable scheme (fields.place (fields.flagPlacement modifier true)) := by
  intro whole
  have places : fields.Places modifier (.flag true) (fields.flagPlacement modifier true) :=
    .flag true isFlag rfl
  have isUnit := flagPlacement_axis_of_barred writable modifier true occupant stands barred
  have someToken : (fields.flagPlacement modifier true).token?.isSome = true := by
    rw [fields.flagPlacement_eq_unitPlacement modifier true isUnit]
    exact UnitFlags.isSome_token?_withFlag fields.unitFlags modifier isFlag
  obtain ⟨token, placed⟩ := Option.isSome_iff_exists.mp someToken
  obtain ⟨_legal, fits⟩ :=
    (writable_place_iff writable _ (places.uses writable applies)).mp whole token placed
  have together := fits occupant stands
  rw [isUnit] at together
  rcases barred with same | same | ⟨same, _⟩ <;> rw [same] at together <;>
    exact absurd together (by decide)

include named

private theorem conflict_of_encode_flagPlacement (set : Bool) (failure : WriteError)
    (failed : (fields.place (fields.flagPlacement modifier set)).encode = .error failure) :
    set = true ∧ ∃ occupant, fields.contains occupant = true ∧ modifier.BarredBy occupant ∧
      failure = .slotConflict .unitEquipment occupant := by
  have places : fields.Places modifier (.flag set) (fields.flagPlacement modifier set) :=
    .flag set isFlag rfl
  cases excludes_of_encode writable _ (places.uses writable applies) places.inSlot named failure
    failed with
  | illegal token placed illegal =>
      rw [fields.isLegal_of_flagPlacement modifier set scheme token placed] at illegal
      cases illegal
  | taken token placed legal other first second stands apart pair ordered =>
      obtain ⟨isSet, isUnit, barred⟩ :=
        barred_of_apart writable modifier set token placed other stands apart
      rw [isUnit] at pair apart
      refine ⟨isSet, other, stands, barred, ?_⟩
      rcases pair with ⟨firstUnit, secondOther⟩ | ⟨firstOther, secondUnit⟩
      · rw [firstUnit, secondOther]
      · rw [firstOther, secondUnit] at ordered
        exact absurd ordered (Axis.not_before_unitEquipment other apart)

theorem encode_flagPlacement_eq_error_iff (set : Bool) (failure : WriteError) :
    (fields.place (fields.flagPlacement modifier set)).encode = .error failure ↔
      set = true ∧ ∃ occupant, fields.contains occupant = true ∧ modifier.BarredBy occupant ∧
        failure = .slotConflict .unitEquipment occupant := by
  constructor
  · exact conflict_of_encode_flagPlacement writable named modifier isFlag applies set failure
  · intro refused
    obtain ⟨isSet, occupant, stands, barred, isFailure⟩ := refused
    have places : fields.Places modifier (.flag true) (fields.flagPlacement modifier true) :=
      .flag true isFlag rfl
    subst isSet
    obtain ⟨because, failed⟩ :=
      exists_error_of_not_writable (fields.flagPlacement modifier true) places.inSlot named
        (not_writable_of_barred writable modifier isFlag applies occupant stands barred)
    obtain ⟨_isSet, other, otherStands, otherBarred, isBecause⟩ :=
      conflict_of_encode_flagPlacement writable named modifier isFlag applies true because failed
    rw [failed, isBecause, isFailure,
      eq_of_barred writable modifier other occupant otherStands stands otherBarred barred]

end Flag

end CodeFields

/-! ### Tokens -/

theorem Axis.token?_placement_eq_some_iff (axis : Axis) (held token : String) :
    (axis.placement held).token? = some token ↔
      Text.upper (Text.trim held) ≠ "" ∧ Text.upper (Text.trim held) = token := by
  unfold placement
  dsimp only
  by_cases nothing : Text.upper (Text.trim held) = ""
  · rw [if_pos (String.isEmpty_iff.mpr nothing)]
    simp [nothing]
  · rw [if_neg (mt String.isEmpty_iff.mp nothing)]
    simp [nothing]

namespace CodeFields

section Token

variable {scheme : Scheme} {fields : CodeFields} (writable : Writable scheme fields)
  (named : fields.scheme? = some scheme) (axis : Axis) (used : scheme.uses axis = true)
  (inSlot : axis.inSlot = true) (held : String)

include writable named used inSlot

private theorem cases_of_encode_placement (failure : WriteError)
    (failed : (fields.place (axis.placement held)).encode = .error failure) :
    Text.upper (Text.trim held) ≠ "" ∧
      ((isLegal axis (Text.upper (Text.trim held)) scheme = false ∧
          failure = .invalidToken axis (Text.upper (Text.trim held)) axis.start) ∨
        (isLegal axis (Text.upper (Text.trim held)) scheme = true ∧
          ∃ occupant, fields.contains occupant = true ∧ ¬ axis.Together occupant ∧
            (failure = .slotConflict axis occupant ∨ failure = .slotConflict occupant axis))) := by
  cases excludes_of_encode writable (axis.placement held) used inSlot named failure failed with
  | illegal token placed illegal =>
      obtain ⟨something, same⟩ := (axis.token?_placement_eq_some_iff held token).mp placed
      subst same
      rw [Text.upper_upper] at illegal ⊢
      exact ⟨something, .inl ⟨illegal, rfl⟩⟩
  | taken token placed legal other first second stands apart pair _ordered =>
      obtain ⟨something, same⟩ := (axis.token?_placement_eq_some_iff held token).mp placed
      subst same
      rw [Text.upper_upper] at legal
      refine ⟨something, .inr ⟨legal, other, stands, apart, ?_⟩⟩
      rcases pair with ⟨isFirst, isSecond⟩ | ⟨isFirst, isSecond⟩
      · rw [isFirst, isSecond]
        exact .inl rfl
      · rw [isFirst, isSecond]
        exact .inr rfl

private theorem exists_error_of_placement (something : Text.upper (Text.trim held) ≠ "")
    (hindered : isLegal axis (Text.upper (Text.trim held)) scheme = false ∨
      ∃ occupant, fields.contains occupant = true ∧ ¬ axis.Together occupant) :
    ∃ failure, (fields.place (axis.placement held)).encode = .error failure := by
  apply exists_error_of_not_writable (axis.placement held) inSlot named
  intro whole
  have placed := (axis.token?_placement_eq_some_iff held _).mpr ⟨something, rfl⟩
  obtain ⟨legal, together⟩ := (writable_place_iff writable _ used).mp whole _ placed
  rcases hindered with illegal | ⟨occupant, stands, apart⟩
  · rw [Text.upper_upper] at legal
    cases legal.symm.trans illegal
  · exact apart (together occupant stands)

/-- An illegal token is refused as such even where there is no room for it. -/
theorem encode_placement_eq_invalidToken_iff :
    (fields.place (axis.placement held)).encode =
        .error (.invalidToken axis (Text.upper (Text.trim held)) axis.start) ↔
      Text.upper (Text.trim held) ≠ "" ∧
        isLegal axis (Text.upper (Text.trim held)) scheme = false := by
  constructor
  · intro failed
    obtain ⟨something, reasons⟩ :=
      cases_of_encode_placement writable named axis used inSlot held _ failed
    rcases reasons with ⟨illegal, _⟩ | ⟨_, _, _, _, conflict | conflict⟩
    · exact ⟨something, illegal⟩
    · cases conflict
    · cases conflict
  · intro illegal
    obtain ⟨because, failed⟩ := exists_error_of_placement writable named axis used inSlot held
      illegal.1 (.inl illegal.2)
    obtain ⟨_something, reasons⟩ :=
      cases_of_encode_placement writable named axis used inSlot held because failed
    rcases reasons with ⟨_, same⟩ | ⟨legal, _⟩
    · rw [failed, same]
    · cases illegal.2.symm.trans legal

theorem encode_placement_eq_slotConflict_iff :
    (∃ first second,
        (fields.place (axis.placement held)).encode = .error (.slotConflict first second)) ↔
      Text.upper (Text.trim held) ≠ "" ∧
        isLegal axis (Text.upper (Text.trim held)) scheme = true ∧
        ∃ occupant, fields.contains occupant = true ∧ ¬ axis.Together occupant := by
  constructor
  · intro conflict
    obtain ⟨first, second, failed⟩ := conflict
    obtain ⟨something, reasons⟩ :=
      cases_of_encode_placement writable named axis used inSlot held _ failed
    rcases reasons with ⟨_, impossible⟩ | ⟨legal, occupant, stands, apart, _⟩
    · cases impossible
    · exact ⟨something, legal, occupant, stands, apart⟩
  · intro barred
    obtain ⟨something, legal, rivals⟩ := barred
    obtain ⟨because, failed⟩ := exists_error_of_placement writable named axis used inSlot held
      something (.inr rivals)
    obtain ⟨_something, reasons⟩ :=
      cases_of_encode_placement writable named axis used inSlot held because failed
    rcases reasons with ⟨illegal, _⟩ | ⟨_, occupant, _, _, isFirst | isSecond⟩
    · cases legal.symm.trans illegal
    · exact ⟨axis, occupant, by rw [failed, isFirst]⟩
    · exact ⟨occupant, axis, by rw [failed, isSecond]⟩

end Token

end CodeFields

namespace Graphic

/-! ### Writes -/

theorem outcome_takeOver_eq_error_iff (fields : CodeFields) (graphic : Graphic)
    (reason : Graphic.Refusal) :
    Update.outcome (takeOver fields) graphic = .error reason ↔
      ∃ failure, fields.encode = .error failure ∧ reason = .unwritable failure := by
  unfold Update.outcome
  rw [run_takeOver]
  cases fields.encode <;> simp [eq_comm]

private theorem appliesTo_of_carried? (graphic : Graphic) (spelling : String) (modifier : Modifier)
    (carried : graphic.carried? spelling = some modifier) :
    modifier.appliesTo graphic.descriptor.scheme = true :=
  (Bool.and_eq_true_iff.mp (Option.filter_eq_some_iff.mp carried).2).2

theorem outcome_writeModifier_of_text (graphic : Graphic) (spelling : String) (modifier : Modifier)
    (value : Modifier.Value) (carried : graphic.carried? spelling = some modifier)
    (isText : modifier.kind = .text) :
    Update.outcome (writeModifier spelling value) graphic = .ok () := by
  unfold Update.outcome
  rw [run_writeModifier, carried]
  dsimp only
  rw [isText]
  cases value <;> rfl

section Write

variable (graphic : Graphic) (reachable : graphic.Reachable) (spelling : String)
  (modifier : Modifier) (carried : graphic.carried? spelling = some modifier)

include reachable carried

theorem outcome_writeModifier_flag_eq_error_iff (isFlag : modifier.kind = .flag) (set : Bool)
    (reason : Graphic.Refusal) :
    Update.outcome (writeModifier spelling (.flag set)) graphic = .error reason ↔
      set = true ∧ ∃ occupant, graphic.fields.contains occupant = true ∧
        modifier.BarredBy occupant ∧ reason = .unwritable (.slotConflict .unitEquipment occupant) := by
  have ready := reachable.coherent.ready
  have refusal := CodeFields.encode_flagPlacement_eq_error_iff ready.writable ready.named modifier
    isFlag (graphic.appliesTo_of_carried? spelling modifier carried) set
  rw [Update.outcome, graphic.run_writeModifier_of_places spelling modifier (.flag set) _ carried
    (.flag set isFlag rfl)]
  refine (outcome_takeOver_eq_error_iff _ graphic reason).trans ?_
  constructor
  · intro refused
    obtain ⟨failure, failed, isReason⟩ := refused
    obtain ⟨isSet, occupant, stands, barred, isFailure⟩ := (refusal failure).mp failed
    exact ⟨isSet, occupant, stands, barred, by rw [isReason, isFailure]⟩
  · intro barred
    obtain ⟨isSet, occupant, stands, barred, isReason⟩ := barred
    exact ⟨_, (refusal _).mpr ⟨isSet, occupant, stands, barred, rfl⟩, isReason⟩

private theorem cases_of_outcome_writeModifier (value : Modifier.Value) (reason : Graphic.Refusal)
    (refused : Update.outcome (writeModifier spelling value) graphic = .error reason) :
    (∃ axis token, reason = .unwritable (.invalidToken axis token axis.start)) ∨
      ∃ first second, reason = .unwritable (.slotConflict first second) := by
  have ready := reachable.coherent.ready
  by_cases isText : modifier.kind = .text
  · rw [graphic.outcome_writeModifier_of_text spelling modifier value carried isText] at refused
    cases refused
  · cases taken : modifier.kind.takes value with
    | false =>
        rw [Update.outcome, run_writeModifier_of_notTaken spelling modifier value graphic carried
          taken] at refused
        cases refused
    | true =>
        obtain ⟨placement, places⟩ := graphic.fields.exists_places modifier value isText taken
        rw [Update.outcome, graphic.run_writeModifier_of_places spelling modifier value placement
          carried places] at refused
        obtain ⟨failure, failed, isReason⟩ :=
          (outcome_takeOver_eq_error_iff _ graphic reason).mp refused
        have used := places.uses ready.writable
          (graphic.appliesTo_of_carried? spelling modifier carried)
        rw [isReason]
        cases CodeFields.excludes_of_encode ready.writable placement used places.inSlot ready.named
          failure failed with
        | illegal token _ _ => exact .inl ⟨placement.axis, Text.upper token, rfl⟩
        | taken _ _ _ _ first second _ _ _ _ => exact .inr ⟨first, second, rfl⟩

end Write

section TokenWrite

variable (graphic : Graphic) (reachable : graphic.Reachable) (spelling : String)
  (modifier : Modifier) (carried : graphic.carried? spelling = some modifier)
  (isToken : modifier.kind = .token) (value : Modifier.Value) (axis : Axis)
  (stored : modifier.axis? = some axis) (held : String) (given : value.text? = some held)

include carried stored

private theorem uses_of_carried? : graphic.descriptor.scheme.uses axis = true := by
  have applies := graphic.appliesTo_of_carried? spelling modifier carried
  rw [Modifier.appliesTo, stored] at applies
  exact applies

include isToken given

theorem outcome_writeModifier_token_eq_error_iff (reason : Graphic.Refusal) :
    Update.outcome (writeModifier spelling value) graphic = .error reason ↔
      ∃ failure, (graphic.fields.place (axis.placement held)).encode = .error failure ∧
        reason = .unwritable failure := by
  rw [Update.outcome, graphic.run_writeModifier_of_places spelling modifier value _ carried
    (.token axis held isToken stored given)]
  exact outcome_takeOver_eq_error_iff _ graphic reason

include reachable

private theorem cases_of_outcome_writeModifier_token (reason : Graphic.Refusal)
    (refused : Update.outcome (writeModifier spelling value) graphic = .error reason) :
    Text.upper (Text.trim held) ≠ "" ∧
      (reason = .unwritable (.invalidToken axis (Text.upper (Text.trim held)) axis.start) ∨
        ∃ occupant, graphic.fields.contains occupant = true ∧ ¬ axis.Together occupant ∧
          (reason = .unwritable (.slotConflict axis occupant) ∨
            reason = .unwritable (.slotConflict occupant axis))) := by
  have ready := reachable.coherent.ready
  obtain ⟨failure, failed, isReason⟩ := (outcome_writeModifier_token_eq_error_iff graphic spelling
    modifier carried isToken value axis stored held given reason).mp refused
  obtain ⟨something, reasons⟩ := CodeFields.cases_of_encode_placement ready.writable ready.named axis
    (graphic.uses_of_carried? spelling modifier carried axis stored)
    (modifier.inSlot_of_axis? axis stored) held failure failed
  refine ⟨something, ?_⟩
  rcases reasons with ⟨_, illegal⟩ | ⟨_, occupant, stands, apart, conflict⟩
  · exact .inl (by rw [isReason, illegal])
  · refine .inr ⟨occupant, stands, apart, ?_⟩
    rcases conflict with isFirst | isSecond
    · exact .inl (by rw [isReason, isFirst])
    · exact .inr (by rw [isReason, isSecond])

private theorem outcome_writeModifier_token_of_nothing
    (nothing : Text.upper (Text.trim held) = "") :
    Update.outcome (writeModifier spelling value) graphic = .ok () := by
  cases outcome : Update.outcome (writeModifier spelling value) graphic with
  | ok _ => rfl
  | error reason =>
      have reasons := cases_of_outcome_writeModifier_token graphic reachable spelling modifier carried
        isToken value axis stored held given reason outcome
      exact absurd nothing reasons.1

theorem outcome_writeModifier_eq_invalidToken_iff :
    Update.outcome (writeModifier spelling value) graphic =
        .error (.unwritable (.invalidToken axis (Text.upper (Text.trim held)) axis.start)) ↔
      Text.upper (Text.trim held) ≠ "" ∧
        isLegal axis (Text.upper (Text.trim held)) graphic.descriptor.scheme = false := by
  have ready := reachable.coherent.ready
  rw [outcome_writeModifier_token_eq_error_iff graphic spelling modifier carried isToken value axis
    stored held given, ← CodeFields.encode_placement_eq_invalidToken_iff ready.writable ready.named
    axis (graphic.uses_of_carried? spelling modifier carried axis stored)
    (modifier.inSlot_of_axis? axis stored) held]
  simp

theorem outcome_writeModifier_eq_slotConflict_iff :
    (∃ first second, Update.outcome (writeModifier spelling value) graphic =
        .error (.unwritable (.slotConflict first second))) ↔
      Text.upper (Text.trim held) ≠ "" ∧
        isLegal axis (Text.upper (Text.trim held)) graphic.descriptor.scheme = true ∧
        ∃ occupant, graphic.fields.contains occupant = true ∧ ¬ axis.Together occupant := by
  have ready := reachable.coherent.ready
  rw [← CodeFields.encode_placement_eq_slotConflict_iff ready.writable ready.named axis
    (graphic.uses_of_carried? spelling modifier carried axis stored)
    (modifier.inSlot_of_axis? axis stored) held]
  simp [outcome_writeModifier_token_eq_error_iff graphic spelling modifier carried isToken value axis
    stored held given]

end TokenWrite

/-- When writing a modifier that a graphic carries is refused, whatever has been done to the graphic.
A text never is, nor a value that the modifier does not take. Setting a flag is refused exactly if the
slot is in a use that leaves no room for it; unsetting one is not. Of a token nothing may be left; else
it is refused if it is not legal, and only then if the slot is in another use. -/
theorem refusals_of_writeModifier (graphic : Graphic) (reachable : graphic.Reachable)
    (spelling : String) (modifier : Modifier) (carried : graphic.carried? spelling = some modifier)
    (value : Modifier.Value) :
    (modifier.kind = .text → Update.outcome (writeModifier spelling value) graphic = .ok ()) ∧
      (modifier.kind.takes value = false →
        Update.outcome (writeModifier spelling value) graphic = .ok ()) ∧
      (modifier.kind = .flag → ∀ set, value = .flag set → ∀ reason,
        Update.outcome (writeModifier spelling value) graphic = .error reason ↔
          set = true ∧ ∃ occupant, graphic.fields.contains occupant = true ∧
            modifier.BarredBy occupant ∧
            reason = .unwritable (.slotConflict .unitEquipment occupant)) ∧
      (modifier.kind = .token → ∀ axis held, modifier.axis? = some axis →
        value.text? = some held →
          (Text.upper (Text.trim held) = "" →
              Update.outcome (writeModifier spelling value) graphic = .ok ()) ∧
            (Update.outcome (writeModifier spelling value) graphic =
                .error (.unwritable (.invalidToken axis (Text.upper (Text.trim held)) axis.start)) ↔
              Text.upper (Text.trim held) ≠ "" ∧
                isLegal axis (Text.upper (Text.trim held)) graphic.descriptor.scheme = false) ∧
            ((∃ first second, Update.outcome (writeModifier spelling value) graphic =
                .error (.unwritable (.slotConflict first second))) ↔
              Text.upper (Text.trim held) ≠ "" ∧
                isLegal axis (Text.upper (Text.trim held)) graphic.descriptor.scheme = true ∧
                ∃ occupant, graphic.fields.contains occupant = true ∧ ¬ axis.Together occupant) ∧
            ∀ reason, Update.outcome (writeModifier spelling value) graphic = .error reason →
              reason = .unwritable (.invalidToken axis (Text.upper (Text.trim held)) axis.start) ∨
                ∃ occupant, graphic.fields.contains occupant = true ∧ ¬ axis.Together occupant ∧
                  (reason = .unwritable (.slotConflict axis occupant) ∨
                    reason = .unwritable (.slotConflict occupant axis))) ∧
      ∀ reason, Update.outcome (writeModifier spelling value) graphic = .error reason →
        (∃ axis token, reason = .unwritable (.invalidToken axis token axis.start)) ∨
          ∃ first second, reason = .unwritable (.slotConflict first second) := by
  refine ⟨graphic.outcome_writeModifier_of_text spelling modifier value carried, ?_, ?_, ?_,
    cases_of_outcome_writeModifier graphic reachable spelling modifier carried value⟩
  · intro notTaken
    rw [Update.outcome, run_writeModifier_of_notTaken spelling modifier value graphic carried notTaken]
  · intro isFlag set isValue reason
    rw [isValue]
    exact outcome_writeModifier_flag_eq_error_iff graphic reachable spelling modifier carried isFlag
      set reason
  · intro isToken axis held stored given
    refine ⟨?_, ?_, ?_, ?_⟩
    · exact outcome_writeModifier_token_of_nothing graphic reachable spelling modifier carried isToken
        value axis stored held given
    · exact outcome_writeModifier_eq_invalidToken_iff graphic reachable spelling modifier carried
        isToken value axis stored held given
    · exact outcome_writeModifier_eq_slotConflict_iff graphic reachable spelling modifier carried
        isToken value axis stored held given
    · intro reason refused
      have reasons := cases_of_outcome_writeModifier_token graphic reachable spelling modifier carried
        isToken value axis stored held given reason refused
      exact reasons.2

/-- Beside a mobility there is room neither for a headquarters nor for an echelon, but of an echelon
that is none, this is said first. -/
theorem refusals_of_writeModifier_besideMobility :
    ∃ graphic, create Catalog.standard "SFGPUCI---MO---" [⟨0, 0, 0⟩] none = .ok graphic ∧
      Update.outcome (writeModifier "headquarters" (.flag true)) graphic =
        .error (.unwritable (.slotConflict .unitEquipment .mobility)) ∧
      Update.outcome (writeModifier "B" (.text " z ")) graphic =
        .error (.unwritable (.invalidToken .echelon "Z" 12)) := by
  have created := create_of_find? Catalog.standard "SFGPUCI---MO---" [⟨0, 0, 0⟩] _
    (Catalog.pointType .warfighting (some "G") "UCI---" "Infantry" Catalog.unitModifiers) rfl
    (by decide +kernel) rfl
  have reachable := reachable_of_create _ _ _ _ _ created
  obtain ⟨_text, _notTaken, ofFlag, _ofToken, _never⟩ := refusals_of_writeModifier _ reachable
    "headquarters" .headquarters rfl (.flag true)
  obtain ⟨_text, _notTaken, _ofFlag, ofToken, _never⟩ := refusals_of_writeModifier _ reachable
    "B" .echelon rfl (.text " z ")
  obtain ⟨_nothing, illegal, _conflict, _reasons⟩ := ofToken rfl .echelon " z " rfl rfl
  refine ⟨_, created, ?_, ?_⟩
  · exact (ofFlag rfl true rfl _).mpr ⟨rfl, .mobility, rfl, .inl rfl, rfl⟩
  · exact illegal.mpr ⟨by decide, by decide⟩

end Graphic

end TacticalSymbols

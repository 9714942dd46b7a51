import TacticalSymbols.Proofs.Graphic.Refusal

/-!
Writes to the code. A modifier that the code stores is written by putting a token on one axis of the
modifier slot, or by emptying that axis. Where a flag goes depends on the fields: the three flags have
one token together, but a feint or dummy installation says so itself. Two modifiers are put into the
code in either order: the flags are added up in their token, and any two other modifiers go to
different axes. The one exception is the feint or dummy flag beside the installation.
-/

namespace TacticalSymbols

/-- What is put on an axis; no token empties it. -/
structure Placement where
  axis : Axis
  token? : Option String
  deriving DecidableEq, Repr

namespace CodeFields

def place (fields : CodeFields) (placement : Placement) : CodeFields :=
  { token? := fun axis => if axis = placement.axis then placement.token? else fields.token? axis }

@[simp] theorem token?_place_self (fields : CodeFields) (placement : Placement) :
    (fields.place placement).token? placement.axis = placement.token? :=
  if_pos rfl

theorem token?_place_of_ne (fields : CodeFields) (placement : Placement) (axis : Axis)
    (different : axis ≠ placement.axis) :
    (fields.place placement).token? axis = fields.token? axis :=
  if_neg different

theorem contains_place_of_ne (fields : CodeFields) (placement : Placement) (axis : Axis)
    (different : axis ≠ placement.axis) :
    (fields.place placement).contains axis = fields.contains axis := by
  unfold contains
  rw [token?_place_of_ne fields placement axis different]

theorem place_comm (fields : CodeFields) (left right : Placement) (apart : left.axis ≠ right.axis) :
    (fields.place left).place right = (fields.place right).place left := by
  apply CodeFields.ext
  funext axis
  by_cases atLeft : axis = left.axis
  · subst atLeft
    rw [token?_place_of_ne _ right _ apart, token?_place_self, token?_place_self]
  · rw [token?_place_of_ne _ left axis atLeft]
    by_cases atRight : axis = right.axis
    · subst atRight
      rw [token?_place_self, token?_place_self]
    · rw [token?_place_of_ne _ right axis atRight, token?_place_of_ne _ right axis atRight,
        token?_place_of_ne _ left axis atLeft]

theorem place_place (fields : CodeFields) (earlier later : Placement)
    (same : earlier.axis = later.axis) :
    (fields.place earlier).place later = fields.place later := by
  apply CodeFields.ext
  funext axis
  by_cases atLater : axis = later.axis
  · subst atLater
    rw [token?_place_self, token?_place_self]
  · rw [token?_place_of_ne _ later axis atLater, token?_place_of_ne _ later axis atLater,
      token?_place_of_ne _ earlier axis (by rw [same]; exact atLater)]

/-! ### Flags and tokens -/

def unitPlacement (fields : CodeFields) (modifier : Modifier) (set : Bool) : Placement :=
  { axis := .unitEquipment, token? := (Graphic.withFlag fields.unitFlags modifier set).token? }

def flagPlacement (fields : CodeFields) (modifier : Modifier) (set : Bool) : Placement :=
  if modifier = .feintDummy ∧ fields.contains .installation = true then
    { axis := .installation
      token? := some (if set then Installation.feintDummy else Installation.normal) }
  else fields.unitPlacement modifier set

private theorem unitPlacement_congr (left right : CodeFields) (modifier : Modifier) (set : Bool)
    (agree : left.token? .unitEquipment = right.token? .unitEquipment) :
    left.unitPlacement modifier set = right.unitPlacement modifier set := by
  unfold unitPlacement unitFlags
  rw [agree]

theorem flagPlacement_axis_iff (fields : CodeFields) (modifier : Modifier) (set : Bool) :
    (fields.flagPlacement modifier set).axis = .unitEquipment ↔
      ¬ (modifier = .feintDummy ∧ fields.contains .installation = true) := by
  unfold flagPlacement
  by_cases installed : modifier = .feintDummy ∧ fields.contains .installation = true
  · rw [if_pos installed]
    constructor
    · intro impossible
      cases impossible
    · intro notInstalled
      exact absurd installed notInstalled
  · rw [if_neg installed]
    exact ⟨fun _ => installed, fun _ => rfl⟩

theorem flagPlacement_eq_unitPlacement (fields : CodeFields) (modifier : Modifier) (set : Bool)
    (together : (fields.flagPlacement modifier set).axis = .unitEquipment) :
    fields.flagPlacement modifier set = fields.unitPlacement modifier set :=
  if_neg ((flagPlacement_axis_iff fields modifier set).mp together)

theorem flagPlacement_axis (fields : CodeFields) (modifier : Modifier) (set : Bool) :
    (fields.flagPlacement modifier set).axis = .unitEquipment ∨
      (fields.flagPlacement modifier set).axis = .installation ∧ modifier = .feintDummy := by
  unfold flagPlacement
  by_cases installed : modifier = .feintDummy ∧ fields.contains .installation = true
  · rw [if_pos installed]
    exact .inr ⟨rfl, installed.1⟩
  · rw [if_neg installed]
    exact .inl rfl

private theorem flagPlacement_congr (left right : CodeFields) (modifier : Modifier) (set : Bool)
    (agree : left.token? (left.flagPlacement modifier set).axis =
      right.token? (left.flagPlacement modifier set).axis)
    (installed : modifier = .feintDummy →
      left.contains .installation = right.contains .installation) :
    right.flagPlacement modifier set = left.flagPlacement modifier set := by
  have same : (modifier = .feintDummy ∧ right.contains .installation = true) ↔
      (modifier = .feintDummy ∧ left.contains .installation = true) :=
    and_congr_right fun isFeint => by rw [installed isFeint]
  unfold flagPlacement at agree ⊢
  by_cases itself : modifier = .feintDummy ∧ left.contains .installation = true
  · rw [if_pos itself, if_pos (same.mpr itself)]
  · rw [if_neg itself] at agree ⊢
    rw [if_neg (mt same.mp itself)]
    exact (unitPlacement_congr left right modifier set agree).symm

end CodeFields

def Axis.placement (axis : Axis) (held : String) : Placement :=
  { axis := axis
    token? :=
      if (Text.upper (Text.trim held)).isEmpty then none else some (Text.upper (Text.trim held)) }

theorem UnitFlags.isEmpty_eq (flags : UnitFlags) : flags.isEmpty = flags.token?.isNone := by
  rcases flags with ⟨feintDummy, headquarters, taskForce⟩
  cases feintDummy <;> cases headquarters <;> cases taskForce <;> decide

namespace Graphic

/-- Setting flags is never refused for want of a token: no token is needed where no flag is left. -/
private theorem fieldsWithFlag_eq (fields : CodeFields) (modifier : Modifier) (set : Bool) :
    fieldsWithFlag fields modifier set = .ok (fields.place (fields.flagPlacement modifier set)) := by
  unfold fieldsWithFlag CodeFields.flagPlacement CodeFields.unitPlacement
  by_cases installed : modifier = .feintDummy ∧ fields.contains .installation = true
  · rw [if_pos installed, if_pos (by simpa using installed)]
    rfl
  · rw [if_neg installed, if_neg (by simpa using installed)]
    dsimp only
    rw [UnitFlags.isEmpty_eq]
    cases (withFlag fields.unitFlags modifier set).token? <;> rfl

private theorem fieldsWithToken_eq (fields : CodeFields) (axis : Axis) (held : String) :
    fieldsWithToken fields axis held = fields.place (axis.placement held) := by
  unfold fieldsWithToken Axis.placement
  dsimp only
  split <;> rfl

end Graphic

/-! ### Writes of modifiers -/

/-- What writing a value to a modifier that the code stores puts where. -/
inductive CodeFields.Places (fields : CodeFields) (modifier : Modifier) (value : Modifier.Value) :
    Placement → Prop where
  | flag (set : Bool) (isFlag : modifier.kind = .flag) (given : value.flag? = some set) :
      Places fields modifier value (fields.flagPlacement modifier set)
  | token (axis : Axis) (held : String) (isToken : modifier.kind = .token)
      (stored : modifier.axis? = some axis) (given : value.text? = some held) :
      Places fields modifier value (axis.placement held)

namespace CodeFields

theorem exists_places (fields : CodeFields) (modifier : Modifier) (value : Modifier.Value)
    (inCode : modifier.kind ≠ .text) (taken : modifier.kind.takes value = true) :
    ∃ placement, fields.Places modifier value placement := by
  cases kind : modifier.kind with
  | text => exact absurd kind inCode
  | flag =>
      rw [kind] at taken
      cases value with
      | flag set => exact ⟨_, .flag set kind rfl⟩
      | token held => cases taken
      | text held => cases taken
  | token =>
      obtain ⟨axis, stored⟩ := Option.isSome_iff_exists.mp (modifier.axis?_isSome_of_kind inCode)
      rw [kind] at taken
      cases value with
      | flag set => cases taken
      | token held => exact ⟨_, .token axis held kind stored rfl⟩
      | text held => exact ⟨_, .token axis held kind stored rfl⟩

end CodeFields

theorem Graphic.run_writeModifier_of_places (graphic : Graphic) (spelling : String)
    (modifier : Modifier) (value : Modifier.Value) (placement : Placement)
    (carried : graphic.carried? spelling = some modifier)
    (places : graphic.fields.Places modifier value placement) :
    Update.run (writeModifier spelling value) graphic =
      Update.run (takeOver (graphic.fields.place placement)) graphic := by
  rw [run_writeModifier, carried]
  cases places with
  | flag set isFlag given =>
      cases value with
      | flag held =>
          cases given
          simp only [isFlag, run_writeFlag, fieldsWithFlag_eq]
      | token held => cases given
      | text held => cases given
  | token axis held isToken stored given =>
      cases value with
      | flag set => cases given
      | token written =>
          cases given
          simp only [isToken, run_writeToken, stored, fieldsWithToken_eq]
      | text written =>
          cases given
          simp only [isToken, run_writeToken, stored, fieldsWithToken_eq]

/-! ### Flags together -/

theorem Graphic.withFlag_comm (flags : UnitFlags) (left right : Modifier) (leftSet rightSet : Bool)
    (different : left ≠ right) :
    withFlag (withFlag flags left leftSet) right rightSet =
      withFlag (withFlag flags right rightSet) left leftSet := by
  cases left <;> cases right <;> first | rfl | exact absurd rfl different

namespace CodeFields

private theorem unitFlags_of_token? (fields : CodeFields) (flags : UnitFlags)
    (held : fields.token? .unitEquipment = flags.token?) : fields.unitFlags = flags := by
  unfold unitFlags
  rw [held]
  rcases flags with ⟨feintDummy, headquarters, taskForce⟩
  cases feintDummy <;> cases headquarters <;> cases taskForce <;> decide

theorem unitFlags_unitPlacement (fields : CodeFields) (modifier : Modifier) (set : Bool) :
    (fields.place (fields.unitPlacement modifier set)).unitFlags =
      Graphic.withFlag fields.unitFlags modifier set :=
  unitFlags_of_token? _ _ (token?_place_self fields (fields.unitPlacement modifier set))

theorem unitPlacement_place (fields : CodeFields) (first second : Modifier)
    (firstSet secondSet : Bool) :
    (fields.place (fields.unitPlacement first firstSet)).unitPlacement second secondSet =
      { axis := .unitEquipment
        token? := (Graphic.withFlag (Graphic.withFlag fields.unitFlags first firstSet) second
          secondSet).token? } := by
  rw [unitPlacement, unitFlags_unitPlacement]

private theorem unitPlacements_comm (fields : CodeFields) (left right : Modifier)
    (leftSet rightSet : Bool) (different : left ≠ right) :
    (fields.place (fields.unitPlacement left leftSet)).place
        ((fields.place (fields.unitPlacement left leftSet)).unitPlacement right rightSet) =
      (fields.place (fields.unitPlacement right rightSet)).place
        ((fields.place (fields.unitPlacement right rightSet)).unitPlacement left leftSet) := by
  rw [place_place fields (fields.unitPlacement left leftSet)
      ((fields.place (fields.unitPlacement left leftSet)).unitPlacement right rightSet) rfl,
    place_place fields (fields.unitPlacement right rightSet)
      ((fields.place (fields.unitPlacement right rightSet)).unitPlacement left leftSet) rfl,
    unitPlacement_place, unitPlacement_place,
    Graphic.withFlag_comm fields.unitFlags left right leftSet rightSet different]

end CodeFields

/-! ### Placements in either order -/

/-- One of the modifiers is the flag that an installation says itself, the other the installation. -/
def Modifier.ShareInstallation (left right : Modifier) : Prop :=
  (left = .feintDummy ∧ right = .installation) ∨ (left = .installation ∧ right = .feintDummy)

instance (left right : Modifier) : Decidable (left.ShareInstallation right) :=
  inferInstanceAs (Decidable (_ ∨ _))

theorem Modifier.ShareInstallation.ne {left right : Modifier}
    (shared : left.ShareInstallation right) : left ≠ right := by
  rcases shared with ⟨isLeft, isRight⟩ | ⟨isLeft, isRight⟩ <;> rw [isLeft, isRight] <;> decide

theorem Modifier.ShareInstallation.symm {left right : Modifier}
    (shared : left.ShareInstallation right) : right.ShareInstallation left := by
  obtain ⟨isFeint, isInstallation⟩ | ⟨isInstallation, isFeint⟩ := shared
  · exact .inr ⟨isInstallation, isFeint⟩
  · exact .inl ⟨isFeint, isInstallation⟩

namespace CodeFields

theorem Places.axis_eq {fields : CodeFields} {modifier : Modifier} {value : Modifier.Value}
    {placement : Placement} (places : fields.Places modifier value placement) :
    modifier.axis? = some placement.axis ∨
      placement.axis = .installation ∧ modifier = .feintDummy := by
  cases places with
  | token axis held isToken stored given => exact .inl stored
  | flag set isFlag given =>
      rcases fields.flagPlacement_axis modifier set with together | apart
      · rw [together]
        revert isFlag
        cases modifier <;> decide
      · exact .inr apart

theorem Places.axis_ne_installation {fields : CodeFields} {modifier : Modifier}
    {value : Modifier.Value} {placement : Placement}
    (places : fields.Places modifier value placement) (other : Modifier)
    (different : modifier ≠ other) (apart : ¬ modifier.ShareInstallation other)
    (isFeint : other = .feintDummy) : placement.axis ≠ .installation := by
  have installed : ∀ stored : Modifier, stored.axis? = some .installation →
      stored = .installation := by
    intro stored
    cases stored <;> decide
  intro atInstallation
  rcases places.axis_eq with stored | ⟨_atInstallation, itselfFeint⟩
  · rw [atInstallation] at stored
    exact apart (.inr ⟨installed modifier stored, isFeint⟩)
  · exact different (itselfFeint.trans isFeint.symm)

/-- A modifier is put in the same place after another axis has been written, unless it is a feint or
dummy flag and the other axis is that of the installation. -/
private theorem Places.behind {fields : CodeFields} {modifier : Modifier} {value : Modifier.Value}
    {placement : Placement} (places : fields.Places modifier value placement) (other : Placement)
    (beside : placement.axis ≠ other.axis)
    (notInstallation : modifier = .feintDummy → other.axis ≠ .installation) :
    (fields.place other).Places modifier value placement := by
  cases places with
  | token axis held isToken stored given => exact .token axis held isToken stored given
  | flag set isFlag given =>
      -- Only a flag looks at the fields: at its own axis, and for an installation.
      have same : (fields.place other).flagPlacement modifier set =
          fields.flagPlacement modifier set := by
        apply flagPlacement_congr
        · exact (token?_place_of_ne fields other _ beside).symm
        · intro isFeint
          exact (contains_place_of_ne fields other .installation
            (Ne.symm (notInstallation isFeint))).symm
      rw [← same]
      exact .flag set isFlag given

theorem Places.eq_unitPlacement {fields : CodeFields} {modifier : Modifier}
    {value : Modifier.Value} {placement : Placement}
    (places : fields.Places modifier value placement) (isUnit : placement.axis = .unitEquipment) :
    ∃ set, placement = fields.unitPlacement modifier set ∧
      ∀ other : Placement, other.axis = .unitEquipment →
        (fields.place other).Places modifier value
          ((fields.place other).unitPlacement modifier set) := by
  cases places with
  | token axis held isToken stored given =>
      have inToken : axis = .unitEquipment := isUnit
      rw [inToken] at stored
      cases modifier <;> cases isToken <;> cases stored
  | flag set isFlag given =>
      refine ⟨set, flagPlacement_eq_unitPlacement fields modifier set isUnit, ?_⟩
      intro other otherUnit
      have notInstalled := (flagPlacement_axis_iff fields modifier set).mp isUnit
      rw [← contains_place_of_ne fields other .installation (by rw [otherUnit]; decide)]
        at notInstalled
      rw [← flagPlacement_eq_unitPlacement _ modifier set
        ((flagPlacement_axis_iff _ modifier set).mpr notInstalled)]
      exact .flag set isFlag given

section Pair

variable {fields : CodeFields} {left right : Modifier} {leftValue rightValue : Modifier.Value}
  {leftPlaced rightPlaced : Placement} (leftPlaces : fields.Places left leftValue leftPlaced)
  (rightPlaces : fields.Places right rightValue rightPlaced) (different : left ≠ right)
  (apart : ¬ left.ShareInstallation right)

include leftPlaces rightPlaces different apart

theorem Places.shared_axis (shared : leftPlaced.axis = rightPlaced.axis) :
    rightPlaced.axis = .unitEquipment := by
  have together : ∀ axis, left.axis? = some axis → right.axis? = some axis →
      axis = .unitEquipment := by
    intro axis leftStored rightStored
    revert different
    cases left <;> cases right <;> cases leftStored <;> cases rightStored <;> decide
  rcases leftPlaces.axis_eq with leftStored | ⟨leftInstalled, leftFeint⟩
  · rcases rightPlaces.axis_eq with rightStored | ⟨rightInstalled, rightFeint⟩
    · rw [shared] at leftStored
      exact together _ leftStored rightStored
    · exact absurd (shared.trans rightInstalled)
        (leftPlaces.axis_ne_installation right different apart rightFeint)
  · exact absurd (shared.symm.trans leftInstalled)
      (rightPlaces.axis_ne_installation left (Ne.symm different) (fun shared => apart shared.symm)
        leftFeint)

theorem Places.exists_comm :
    ∃ leftLater rightLater,
      (fields.place leftPlaced).Places right rightValue rightLater ∧
        (fields.place rightPlaced).Places left leftValue leftLater ∧
        rightLater.axis = rightPlaced.axis ∧ leftLater.axis = leftPlaced.axis ∧
        (fields.place leftPlaced).place rightLater = (fields.place rightPlaced).place leftLater := by
  by_cases shared : leftPlaced.axis = rightPlaced.axis
  -- On one axis both are flags, and the second is added to the token that the first one left.
  · have rightUnit := leftPlaces.shared_axis rightPlaces different apart shared
    have leftUnit := shared.trans rightUnit
    obtain ⟨leftSet, leftSame, leftAgain⟩ := leftPlaces.eq_unitPlacement leftUnit
    obtain ⟨rightSet, rightSame, rightAgain⟩ := rightPlaces.eq_unitPlacement rightUnit
    refine ⟨_, _, rightAgain leftPlaced leftUnit, leftAgain rightPlaced rightUnit,
      rightUnit.symm, leftUnit.symm, ?_⟩
    rw [leftSame, rightSame]
    exact unitPlacements_comm fields left right leftSet rightSet different
  · refine ⟨leftPlaced, rightPlaced, ?_, ?_, rfl, rfl, place_comm fields _ _ shared⟩
    · exact rightPlaces.behind leftPlaced (Ne.symm shared)
        (leftPlaces.axis_ne_installation right different apart)
    · exact leftPlaces.behind rightPlaced shared
        (rightPlaces.axis_ne_installation left (Ne.symm different)
          (fun shared => apart shared.symm))

end Pair

end CodeFields

end TacticalSymbols

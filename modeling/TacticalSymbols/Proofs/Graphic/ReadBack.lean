import TacticalSymbols.Proofs.Graphic.WriteLocality

/-!
Modifiers that are written and read. What has been written is read back; of two values only the later
counts; and to write what is read changes nothing, not even the text of the code. A value is read from
the markings but goes to the code, and the feint or dummy flag to one of two places there.
-/

namespace TacticalSymbols

/-! ### Values of a kind -/

private theorem Modifier.Kind.cases_of_takes (kind : Modifier.Kind) (value : Modifier.Value)
    (taken : kind.takes value = true) :
    (kind = .flag ∧ ∃ set, value = .flag set) ∨ (kind = .token ∧ ∃ held, value.text? = some held) ∨
      (kind = .text ∧ ∃ held, value = .text held) := by
  cases kind with
  | flag =>
      cases value with
      | flag set => exact .inl ⟨rfl, set, rfl⟩
      | token held => cases taken
      | text held => cases taken
  | token =>
      cases value with
      | flag set => cases taken
      | token held => exact .inr (.inl ⟨rfl, held, rfl⟩)
      | text held => exact .inr (.inl ⟨rfl, held, rfl⟩)
  | text =>
      cases value with
      | flag set => cases taken
      | token held => cases taken
      | text held => exact .inr (.inr ⟨rfl, held, rfl⟩)

/-- What a modifier of the kind is read as once the value has been written. A token is taken without
white space around it and in capitals, and there is none if nothing is left. -/
def Modifier.Kind.readBack? (kind : Modifier.Kind) (value : Modifier.Value) : Option Modifier.Value :=
  match kind with
  | .token => value.text?.bind (fun held =>
      if (Text.upper (Text.trim held)).isEmpty then none
      else some (.token (Text.upper (Text.trim held))))
  | _ => some value

namespace CodeFields

theorem place_eq_self (fields : CodeFields) (placement : Placement)
    (stands : fields.token? placement.axis = placement.token?) : fields.place placement = fields := by
  apply CodeFields.ext
  funext axis
  by_cases there : axis = placement.axis
  · rw [there, token?_place_self, stands]
  · exact token?_place_of_ne fields placement axis there

end CodeFields

/-! ### Tokens of the slot -/

private theorem slotToken_bare : ∀ scheme ∈ Scheme.all, ∀ axis ∈ Axis.all, axis.inSlot = true →
    ∀ token ∈ (legalTokens axis scheme).tokens,
      Text.upper (Text.trim token) = token ∧ token ≠ "" := by
  decide +kernel

private theorem Axis.placement_of_isLegal (axis : Axis) (inSlot : axis.inSlot = true)
    (token : String) (scheme : Scheme) (legal : isLegal axis token scheme = true) :
    axis.placement token = { axis := axis, token? := some token } := by
  have closed : axis ≠ .functionId := by
    intro isFunction
    rw [isFunction] at inSlot
    cases inSlot
  obtain ⟨bare, something⟩ := slotToken_bare scheme (Scheme.mem_all scheme) axis (Axis.mem_all axis)
    inSlot token (mem_tokens_of_isLegal axis token scheme legal closed)
  unfold placement
  rw [bare, if_neg (mt String.isEmpty_iff.mp something)]

theorem UnitFlags.flag_withFlag_self (flags : UnitFlags) (modifier : Modifier) (set : Bool)
    (isFlag : modifier.kind = .flag) : (Graphic.withFlag flags modifier set).flag modifier = set := by
  cases modifier <;> cases isFlag <;> rfl

theorem Graphic.withFlag_withFlag (flags : UnitFlags) (modifier : Modifier) (first second : Bool) :
    withFlag (withFlag flags modifier first) modifier second = withFlag flags modifier second := by
  cases modifier <;> rfl

theorem Graphic.withFlag_flag (flags : UnitFlags) (modifier : Modifier) (isFlag : modifier.kind = .flag) :
    withFlag flags modifier (flags.flag modifier) = flags := by
  cases modifier <;> cases isFlag <;> rfl

namespace CodeFields

/-! ### Where a flag is shown -/

private theorem shownFlags_flag_of_notInstalled (fields : CodeFields) (modifier : Modifier)
    (isFlag : modifier.kind = .flag)
    (notInstalled : ¬ (modifier = .feintDummy ∧ fields.contains .installation = true)) :
    fields.shownFlags.flag modifier = fields.unitFlags.flag modifier := by
  rw [flag_shownFlags fields modifier isFlag]
  by_cases isFeint : modifier = .feintDummy
  · have missing : fields.token? .installation = none := by
      rw [← Option.not_isSome_iff_eq_none]
      exact fun installed => notInstalled ⟨isFeint, installed⟩
    have silent : (none == some Installation.feintDummy) = false := rfl
    rw [missing, silent, Bool.and_false, Bool.or_false]
  · rw [beq_eq_false_iff_ne.mpr isFeint, Bool.false_and, Bool.or_false]

/-- Beside an installation there is no token of the unit, so the installation says it alone. -/
private theorem shownFlags_feintDummy_of_installed {scheme : Scheme} {fields : CodeFields}
    (writable : Writable scheme fields) (installed : fields.contains .installation = true) :
    fields.shownFlags.feintDummy =
      (fields.token? .installation == some Installation.feintDummy) := by
  have missing : fields.token? .unitEquipment = none := by
    rw [← Option.not_isSome_iff_eq_none]
    intro holds
    exact absurd (writable.together .installation .unitEquipment installed holds) (by decide)
  unfold shownFlags unitFlags
  rw [missing]
  exact Bool.false_or _

/-! ### Written flags are read back -/

private theorem flag_shownFlags_flagPlacement (scheme : Scheme) (fields : CodeFields)
    (modifier : Modifier) (isFlag : modifier.kind = .flag) (set : Bool)
    (writable : Writable scheme (fields.place (fields.flagPlacement modifier set))) :
    (fields.place (fields.flagPlacement modifier set)).shownFlags.flag modifier = set := by
  by_cases installed : modifier = .feintDummy ∧ fields.contains .installation = true
  · have placed : (fields.place (fields.flagPlacement modifier set)).token? .installation =
        some (if set then Installation.feintDummy else Installation.normal) := by
      rw [flagPlacement, if_pos installed]
      rfl
    rw [installed.1] at placed writable ⊢
    refine (shownFlags_feintDummy_of_installed writable
      (contains_of_token? _ .installation _ placed)).trans ?_
    rw [placed]
    cases set <;> decide
  · have isUnit := (fields.flagPlacement_axis_iff modifier set).mpr installed
    have notInstalled : ¬ (modifier = .feintDummy ∧
        (fields.place (fields.flagPlacement modifier set)).contains .installation = true) := by
      rw [contains_place_of_ne fields _ .installation (by rw [isUnit]; decide)]
      exact installed
    rw [shownFlags_flag_of_notInstalled _ modifier isFlag notInstalled,
      fields.flagPlacement_eq_unitPlacement modifier set isUnit, unitFlags_unitPlacement,
      UnitFlags.flag_withFlag_self _ modifier set isFlag]

/-! ### Fields that are read are written as they are -/

section Read

variable {scheme : Scheme} {fields : CodeFields} (writable : Writable scheme fields)
  (capitals : fields.capitals = fields)

include writable capitals

private theorem place_shownFlag (modifier : Modifier) (isFlag : modifier.kind = .flag) :
    fields.place (fields.flagPlacement modifier (fields.shownFlags.flag modifier)) = fields := by
  apply place_eq_self
  by_cases installed : modifier = .feintDummy ∧ fields.contains .installation = true
  · obtain ⟨isFeint, isInstalled⟩ := installed
    obtain ⟨token, present⟩ := Option.isSome_iff_exists.mp isInstalled
    have listed : token = Installation.normal ∨ token = Installation.feintDummy := by
      simpa [isLegal, legalTokens, TokenSet.contains] using
        writable.isLegal_of_capitals capitals .installation token present
    have shown : fields.shownFlags.flag modifier =
        (fields.token? .installation == some Installation.feintDummy) := by
      rw [isFeint]
      exact shownFlags_feintDummy_of_installed writable isInstalled
    rw [flagPlacement, if_pos ⟨isFeint, isInstalled⟩, shown]
    dsimp only
    rw [present]
    rcases listed with isNormal | isDummy
    · rw [isNormal]
      decide
    · rw [isDummy]
      decide
  · rw [shownFlags_flag_of_notInstalled fields modifier isFlag installed, flagPlacement,
      if_neg installed]
    change fields.token? .unitEquipment =
      (Graphic.withFlag fields.unitFlags modifier (fields.unitFlags.flag modifier)).token?
    rw [Graphic.withFlag_flag _ modifier isFlag, unitFlags]
    cases present : fields.token? .unitEquipment with
    | none => rfl
    | some token =>
        exact (UnitFlags.token?_of_isLegal token scheme
          (writable.isLegal_of_capitals capitals .unitEquipment token present)).symm

private theorem place_token (axis : Axis) (inSlot : axis.inSlot = true) (token : String)
    (present : fields.token? axis = some token) :
    fields.place (axis.placement token) = fields := by
  rw [axis.placement_of_isLegal inSlot token scheme
    (writable.isLegal_of_capitals capitals axis token present)]
  exact fields.place_eq_self { axis := axis, token? := some token } present

end Read

/-! ### Of two values the later counts -/

private theorem place_flagPlacement_again (fields : CodeFields) (modifier : Modifier)
    (first second : Bool) : (fields.place (fields.flagPlacement modifier first)).place
        ((fields.place (fields.flagPlacement modifier first)).flagPlacement modifier second) =
      fields.place (fields.flagPlacement modifier second) := by
  by_cases installed : modifier = .feintDummy ∧ fields.contains .installation = true
  · have placed : ∀ set, fields.flagPlacement modifier set =
        { axis := .installation
          token? := some (if set then Installation.feintDummy else Installation.normal) } :=
      fun set => if_pos installed
    have again : (fields.place (fields.flagPlacement modifier first)).flagPlacement modifier second =
        fields.flagPlacement modifier second := by
      rw [placed, placed]
      exact if_pos ⟨installed.1, rfl⟩
    rw [again]
    apply place_place
    rw [placed, placed]
  · have isUnit := fun set => (fields.flagPlacement_axis_iff modifier set).mpr installed
    have unit := fun set => fields.flagPlacement_eq_unitPlacement modifier set (isUnit set)
    have notInstalled : ¬ (modifier = .feintDummy ∧
        (fields.place (fields.unitPlacement modifier first)).contains .installation = true) := by
      rw [contains_place_of_ne fields (fields.unitPlacement modifier first) .installation
        (show Axis.installation ≠ .unitEquipment by decide)]
      exact installed
    have later : (fields.place (fields.unitPlacement modifier first)).flagPlacement modifier second =
        fields.unitPlacement modifier second := by
      rw [flagPlacement, if_neg notInstalled, unitPlacement_place, Graphic.withFlag_withFlag]
      rfl
    rw [unit first, unit second, later]
    exact place_place fields (fields.unitPlacement modifier first)
      (fields.unitPlacement modifier second) rfl

private theorem Places.exists_again {fields : CodeFields} {modifier : Modifier}
    {value : Modifier.Value} {placement : Placement}
    (places : fields.Places modifier value placement) (again : Modifier.Value)
    (taken : modifier.kind.takes again = true) :
    ∃ later alone, (fields.place placement).Places modifier again later ∧
      fields.Places modifier again alone ∧
      (fields.place placement).place later = fields.place alone := by
  cases places with
  | flag set isFlag given =>
      rcases modifier.kind.cases_of_takes again taken with
        ⟨_isFlag, second, isSecond⟩ | ⟨isToken, _⟩ | ⟨isText, _⟩
      · rw [isSecond]
        exact ⟨_, _, .flag second isFlag rfl, .flag second isFlag rfl,
          fields.place_flagPlacement_again modifier set second⟩
      · cases isFlag.symm.trans isToken
      · cases isFlag.symm.trans isText
  | token axis held isToken stored given =>
      rcases modifier.kind.cases_of_takes again taken with
        ⟨isFlag, _⟩ | ⟨_isToken, second, isSecond⟩ | ⟨isText, _⟩
      · cases isToken.symm.trans isFlag
      · exact ⟨_, _, .token axis second isToken stored isSecond,
          .token axis second isToken stored isSecond,
          fields.place_place (axis.placement held) (axis.placement second) rfl⟩
      · cases isToken.symm.trans isText

end CodeFields

namespace Markings

theorem setValue_setValue (markings : Markings) (modifier : Modifier)
    (first second : Modifier.Value) :
    (markings.setValue modifier first).setValue modifier second =
      markings.setValue modifier second := by
  apply Markings.ext
  funext other
  unfold setValue markingOrInitial
  by_cases same : other = modifier
  · rw [same, marking?_put_self, marking?_put_self, marking?_put_self]
    rfl
  · rw [marking?_put_of_ne _ modifier other _ same, marking?_put_of_ne _ modifier other _ same,
      marking?_put_of_ne _ modifier other _ same]

theorem setValue_eq_self (markings : Markings) (modifier : Modifier) (value : Modifier.Value)
    (held : markings.value? modifier = some value) : markings.setValue modifier value = markings := by
  obtain ⟨marking, marked, isHeld⟩ := Option.bind_eq_some_iff.mp held
  apply Markings.ext
  funext other
  unfold setValue markingOrInitial
  by_cases same : other = modifier
  · rw [same, marking?_put_self, marked, Option.getD_some, ← isHeld]
  · exact marking?_put_of_ne _ modifier other _ same

end Markings

namespace Graphic

theorem noted_noted (graphic : Graphic) (modifier : Modifier) (first second : String) :
    (graphic.noted modifier first).noted modifier second = graphic.noted modifier second :=
  congrArg (fun markings => { graphic with markings := markings })
    (graphic.markings.setValue_setValue modifier (.text first) (.text second))

theorem withCode_self (graphic : Graphic)
    (mirrored : graphic.markings.Mirrors graphic.descriptor graphic.fields) :
    graphic.withCode graphic.identifier graphic.fields = graphic :=
  congrArg (fun markings => { graphic with markings := markings }) mirrored.align_eq

/-! ### Readings -/

/-- The same code with the same fields, and the same modifiers with the same values are shown. -/
structure SameReadings (left right : Graphic) : Prop where
  identifier : left.identifier = right.identifier
  fields : left.fields = right.fields
  values : ∀ spelling, left.modifier? spelling = right.modifier? spelling
  shown : ∀ spelling, left.showsModifier spelling = right.showsModifier spelling

theorem SameReadings.refl (graphic : Graphic) : graphic.SameReadings graphic :=
  ⟨rfl, rfl, fun _ => rfl, fun _ => rfl⟩

private theorem sameReadings_withCode (graphic other : Graphic) (identifier : String)
    (fields : CodeFields) (typed : other.descriptor = graphic.descriptor)
    (beside : graphic.SameBeside other) :
    (other.withCode identifier fields).SameReadings (graphic.withCode identifier fields) := by
  have otherMirrors := Markings.mirrors_align other.markings other.descriptor fields
  have mirrors := Markings.mirrors_align graphic.markings graphic.descriptor fields
  refine ⟨rfl, rfl, fun spelling => ?_, fun spelling => ?_⟩
  · refine modifier?_eq ?_ spelling ?_
    · exact typed
    · intro modifier carriedBy
      have carried := (Option.filter_eq_some_iff.mp carriedBy).2
      have otherCarried : other.descriptor.carries modifier = true := by
        rw [typed]
        exact carried
      cases kind : modifier.kind with
      | text =>
          refine (Markings.value?_align_of_text _ _ _ modifier otherCarried kind).trans ?_
          exact (beside.texts modifier carried kind).trans
            (Markings.value?_align_of_text _ _ _ modifier carried kind).symm
      | flag =>
          exact (otherMirrors.flags modifier otherCarried kind).trans
            (mirrors.flags modifier carried kind).symm
      | token =>
          exact (otherMirrors.tokens modifier otherCarried kind).trans
            (mirrors.tokens modifier carried kind).symm
  · refine showsModifier_eq ?_ ?_ spelling
    · exact typed
    · intro modifier carried
      have otherCarried : other.descriptor.carries modifier = true := by
        rw [typed]
        exact carried
      refine (Markings.isVisible_align _ _ _ modifier otherCarried).trans ?_
      exact (beside.shown modifier carried).trans
        (Markings.isVisible_align _ _ _ modifier carried).symm

private theorem run_takeOver_self (graphic : Graphic) (reachable : graphic.Reachable) (axis : Axis)
    (used : graphic.descriptor.scheme.uses axis = true) (inSlot : axis.inSlot = true) :
    Update.run (takeOver graphic.fields) graphic = (.ok (), graphic) := by
  rw [run_takeOver, reachable.encode_eq axis used inSlot]
  dsimp only
  rw [graphic.withCode_self reachable.coherent.mirrored]

section Written

variable (graphic : Graphic) (reachable : graphic.Reachable) (spelling : String)
  (modifier : Modifier) (carried : graphic.carried? spelling = some modifier)

include carried

private theorem exists_code_of_places (value : Modifier.Value) (placement : Placement)
    (places : graphic.fields.Places modifier value placement) (left : Graphic)
    (written : Update.run (writeModifier spelling value) graphic = (.ok (), left)) :
    ∃ identifier, (graphic.fields.place placement).encode = .ok identifier ∧
      graphic.withCode identifier (graphic.fields.place placement) = left := by
  rw [graphic.run_writeModifier_of_places spelling modifier value placement carried places] at written
  exact (run_takeOver_eq_ok_iff _ graphic left).mp written

/-! ### Written twice -/

private theorem outcome_writeModifier_eq_encode (value : Modifier.Value) (placement : Placement)
    (places : graphic.fields.Places modifier value placement) :
    Update.outcome (writeModifier spelling value) graphic =
      ((graphic.fields.place placement).encode.mapError Refusal.unwritable).map (fun _ => ()) := by
  rw [Update.outcome, graphic.run_writeModifier_of_places spelling modifier value placement carried
    places, run_takeOver]
  cases (graphic.fields.place placement).encode <;> rfl

private theorem again_of_written_code (inCode : modifier.kind ≠ .text)
    (value again : Modifier.Value) (taken : modifier.kind.takes value = true)
    (takenAgain : modifier.kind.takes again = true) (left : Graphic)
    (written : Update.run (writeModifier spelling value) graphic = (.ok (), left)) :
    Update.outcome (writeModifier spelling again) left =
        Update.outcome (writeModifier spelling again) graphic ∧
      ∀ twice once, Update.run (writeModifier spelling again) left = (.ok (), twice) →
        Update.run (writeModifier spelling again) graphic = (.ok (), once) →
          twice.SameReadings once := by
  obtain ⟨placement, places⟩ := graphic.fields.exists_places modifier value inCode taken
  obtain ⟨identifier, _encoded, isLeft⟩ :=
    exists_code_of_places graphic spelling modifier carried value placement places left written
  obtain ⟨later, alone, laterPlaces, alonePlaces, sameFields⟩ := places.exists_again again takenAgain
  have typed : left.descriptor = graphic.descriptor :=
    descriptor_of_writeModifier graphic left spelling value written
  have carriedLeft : left.carried? spelling = some modifier :=
    (carried?_eq_of_descriptor typed spelling).trans carried
  have beside : graphic.SameBeside left := by
    rw [← isLeft]
    exact graphic.sameBeside_withCode identifier _
  have leftFields : left.fields = graphic.fields.place placement := by
    rw [← isLeft]
    rfl
  rw [← leftFields] at laterPlaces sameFields
  constructor
  · rw [outcome_writeModifier_eq_encode left spelling modifier carriedLeft again later laterPlaces,
      outcome_writeModifier_eq_encode graphic spelling modifier carried again alone alonePlaces,
      sameFields]
  · intro twice once ranTwice ranOnce
    obtain ⟨secondCode, secondEncoded, isTwice⟩ :=
      exists_code_of_places left spelling modifier carriedLeft again later laterPlaces twice ranTwice
    obtain ⟨code, encoded, isOnce⟩ :=
      exists_code_of_places graphic spelling modifier carried again alone alonePlaces once ranOnce
    rw [sameFields] at secondEncoded isTwice
    rw [← isTwice, ← isOnce, Except.ok.inj (secondEncoded.symm.trans encoded)]
    exact graphic.sameReadings_withCode left code _ typed beside

private theorem again_of_written (value again : Modifier.Value)
    (taken : modifier.kind.takes value = true) (takenAgain : modifier.kind.takes again = true)
    (left : Graphic)
    (written : Update.run (writeModifier spelling value) graphic = (.ok (), left)) :
    Update.outcome (writeModifier spelling again) left =
        Update.outcome (writeModifier spelling again) graphic ∧
      ∀ twice once, Update.run (writeModifier spelling again) left = (.ok (), twice) →
        Update.run (writeModifier spelling again) graphic = (.ok (), once) →
          twice.SameReadings once := by
  by_cases isText : modifier.kind = .text
  · have carriedLeft : left.carried? spelling = some modifier :=
      (carried?_eq_of_descriptor (descriptor_of_writeModifier graphic left spelling value written)
        spelling).trans carried
    refine ⟨?_, ?_⟩
    · rw [left.outcome_writeModifier_of_text spelling modifier again carriedLeft isText,
        graphic.outcome_writeModifier_of_text spelling modifier again carried isText]
    · obtain ⟨spelled, carries⟩ := Option.filter_eq_some_iff.mp carried
      intro twice once ranTwice ranOnce
      obtain ⟨held, noted⟩ := (notes_writeModifier graphic.descriptor spelling modifier value spelled
        isText carries taken).exists_noted
      obtain ⟨second, notedAgain⟩ := (notes_writeModifier graphic.descriptor spelling modifier again
        spelled isText carries takenAgain).exists_noted
      have isLeft := noted graphic left rfl written
      subst isLeft
      rw [notedAgain (graphic.noted modifier held) twice rfl ranTwice,
        notedAgain graphic once rfl ranOnce, graphic.noted_noted modifier held second]
      exact .refl _
  · exact again_of_written_code graphic spelling modifier carried isText value again taken takenAgain
      left written

/-! ### Written, then read -/

private theorem value?_of_written_text (held : String) (isText : modifier.kind = .text)
    (left : Graphic)
    (written : Update.run (writeModifier spelling (.text held)) graphic = (.ok (), left)) :
    left.markings.value? modifier = some (.text held) := by
  rw [run_writeModifier, carried] at written
  dsimp only at written
  rw [isText] at written
  cases written
  exact (Markings.value?_setValue _ modifier modifier _).trans (if_pos rfl)

private theorem value?_of_written_token (value : Modifier.Value) (held : String)
    (isToken : modifier.kind = .token) (given : value.text? = some held) (left : Graphic)
    (written : Update.run (writeModifier spelling value) graphic = (.ok (), left)) :
    left.markings.value? modifier =
      if (Text.upper (Text.trim held)).isEmpty then none
      else some (.token (Text.upper (Text.trim held))) := by
  have carries := (Option.filter_eq_some_iff.mp carried).2
  obtain ⟨axis, stored⟩ :=
    Option.isSome_iff_exists.mp (modifier.axis?_isSome_of_kind (by rw [isToken]; decide))
  obtain ⟨identifier, _encoded, same⟩ :=
    exists_code_of_places graphic spelling modifier carried value _
      (.token axis held isToken stored given) left written
  rw [← same]
  refine ((Markings.mirrors_align _ _ _).tokens modifier carries isToken).trans ?_
  have placed : (graphic.fields.place (axis.placement held)).token? axis =
      (axis.placement held).token? := CodeFields.token?_place_self graphic.fields (axis.placement held)
  rw [stored, Option.bind_some, placed]
  unfold Axis.placement
  dsimp only
  split <;> rfl

include reachable

private theorem value?_of_written_flag (set : Bool) (isFlag : modifier.kind = .flag)
    (left : Graphic)
    (written : Update.run (writeModifier spelling (.flag set)) graphic = (.ok (), left)) :
    left.markings.value? modifier = some (.flag set) := by
  have carries := (Option.filter_eq_some_iff.mp carried).2
  have ready := reachable.coherent.ready
  have places : graphic.fields.Places modifier (.flag set) (graphic.fields.flagPlacement modifier set) :=
    .flag set isFlag rfl
  obtain ⟨identifier, encoded, same⟩ :=
    exists_code_of_places graphic spelling modifier carried _ _ places left written
  have writable := CodeFields.writable_of_encode _ _ identifier
    (CodeFields.scheme?_place_of_inSlot _ places.inSlot ready.named) encoded
  rw [← same]
  refine (Markings.value?_align_of_flag _ _ _ modifier carries isFlag).trans ?_
  rw [CodeFields.flag_shownFlags_flagPlacement _ graphic.fields modifier isFlag set writable]

private theorem modifier?_of_written (value : Modifier.Value)
    (taken : modifier.kind.takes value = true) (left : Graphic)
    (written : Update.run (writeModifier spelling value) graphic = (.ok (), left)) :
    left.modifier? spelling = modifier.kind.readBack? value := by
  have named := carried
  rw [← carried?_eq_of_descriptor
    (descriptor_of_writeModifier graphic left spelling value written)] at named
  rw [modifier?, named, Option.bind_some]
  rcases modifier.kind.cases_of_takes value taken with
    ⟨isFlag, set, given⟩ | ⟨isToken, held, given⟩ | ⟨isText, held, given⟩
  · rw [given] at written ⊢
    rw [isFlag]
    exact value?_of_written_flag graphic reachable spelling modifier carried set isFlag left written
  · rw [isToken, Modifier.Kind.readBack?, given, Option.bind_some]
    exact value?_of_written_token graphic spelling modifier carried value held isToken given left written
  · rw [given] at written ⊢
    rw [isText]
    exact value?_of_written_text graphic spelling modifier carried held isText left written

/-! ### Read, then written -/

private theorem unchanged_of_readBack (value : Modifier.Value)
    (read : graphic.modifier? spelling = some value) :
    Update.run (writeModifier spelling value) graphic = (.ok (), graphic) := by
  have carries := (Option.filter_eq_some_iff.mp carried).2
  have coherent := reachable.coherent
  have ready := coherent.ready
  have capitals := CodeFields.capitals_of_decode _ graphic.fields coherent.readBack
  rw [modifier?, carried, Option.bind_some] at read
  have unplaced : ∀ placement, graphic.fields.Places modifier value placement →
      graphic.fields.place placement = graphic.fields →
        Update.run (writeModifier spelling value) graphic = (.ok (), graphic) := by
    intro placement places same
    rw [graphic.run_writeModifier_of_places spelling modifier value placement carried places, same]
    exact run_takeOver_self graphic reachable placement.axis
      (places.uses ready.writable (Bool.and_eq_true_iff.mp carries).2) places.inSlot
  cases taken : modifier.kind.takes value with
  | false => exact run_writeModifier_of_notTaken spelling modifier value graphic carried taken
  | true =>
      rcases modifier.kind.cases_of_takes value taken with
        ⟨isFlag, set, given⟩ | ⟨isToken, held, given⟩ | ⟨isText, held, given⟩
      · rw [given] at unplaced read ⊢
        rw [coherent.mirrored.flags modifier carries isFlag,
          ← graphic.fields.flag_shownFlags modifier isFlag] at read
        have isShown : graphic.fields.shownFlags.flag modifier = set := by
          simpa using read
        apply unplaced _ (.flag set isFlag rfl)
        rw [← isShown]
        exact CodeFields.place_shownFlag ready.writable capitals modifier isFlag
      · obtain ⟨axis, stored⟩ :=
          Option.isSome_iff_exists.mp (modifier.axis?_isSome_of_kind (by rw [isToken]; decide))
        rw [coherent.mirrored.tokens modifier carries isToken, stored, Option.bind_some] at read
        obtain ⟨token, present, isValue⟩ := Option.map_eq_some_iff.mp read
        rw [← isValue] at given
        cases given
        apply unplaced _ (.token axis held isToken stored (by rw [← isValue]; rfl))
        exact CodeFields.place_token ready.writable capitals axis
          (modifier.inSlot_of_axis? axis stored) held present
      · rw [given] at read ⊢
        rw [run_writeModifier, carried]
        dsimp only
        rw [isText]
        dsimp only
        rw [Markings.setValue_eq_self _ modifier _ read]

end Written

/-- A modifier that a graphic carries is written and read as one would have it, whatever has been done
to the graphic. A value that was granted is read back, a token as it stands in the code. A second value
is granted or refused as it would be without the first, and if it is granted, nothing of the first can
be read any more; if it is refused, the first stays. And to write what is read changes nothing. -/
theorem lens_of_writeModifier (graphic : Graphic) (reachable : graphic.Reachable)
    (spelling : String) (modifier : Modifier)
    (carried : graphic.carried? spelling = some modifier) :
    (∀ value left, modifier.kind.takes value = true →
        Update.run (writeModifier spelling value) graphic = (.ok (), left) →
          left.modifier? spelling = modifier.kind.readBack? value ∧
            ∀ again, modifier.kind.takes again = true →
              Update.outcome (writeModifier spelling again) left =
                  Update.outcome (writeModifier spelling again) graphic ∧
                (∀ twice once, Update.run (writeModifier spelling again) left = (.ok (), twice) →
                  Update.run (writeModifier spelling again) graphic = (.ok (), once) →
                    twice.SameReadings once) ∧
                ∀ reason, Update.outcome (writeModifier spelling again) left = .error reason →
                  Update.after (writeModifier spelling again) left = left) ∧
      ∀ value, graphic.modifier? spelling = some value →
        Update.run (writeModifier spelling value) graphic = (.ok (), graphic) := by
  refine ⟨?_, unchanged_of_readBack graphic reachable spelling modifier carried⟩
  intro value left taken written
  refine ⟨modifier?_of_written graphic reachable spelling modifier carried value taken left written, ?_⟩
  intro again takenAgain
  obtain ⟨sameOutcome, sameReadings⟩ := again_of_written graphic spelling modifier carried value again
    taken takenAgain left written
  refine ⟨sameOutcome, sameReadings, ?_⟩
  intro reason refused
  exact allOrNothing_writeModifier spelling again left _ reason (Prod.ext refused rfl)

/-- An installation is made a dummy and then is none again. The flag is read from where it was put, and
nothing is left of the first value. -/
theorem lens_of_writeModifier_dummyInstallation :
    ∃ made left twice, create Catalog.standard "sfgpuci---h----" [⟨0, 0, 0⟩] none = .ok made ∧
      Update.run (writeModifier "FeintDummy" (.flag true)) made = (.ok (), left) ∧
      left.identifier = "SFGPUCI---HB---" ∧
      left.modifier? "FeintDummy" = some (.flag true) ∧
      Update.run (writeModifier "FeintDummy" (.flag false)) left = (.ok (), twice) ∧
      twice.SameReadings made ∧
      Update.run (writeModifier "FeintDummy" (.flag false)) made = (.ok (), made) := by
  have created := create_of_find? Catalog.standard "sfgpuci---h----" [⟨0, 0, 0⟩] _
    (Catalog.pointType .warfighting (some "G") "UCI---" "Infantry" Catalog.unitModifiers) rfl
    (by decide +kernel) rfl
  obtain ⟨granted, unchanged⟩ := lens_of_writeModifier _ (reachable_of_create _ _ _ _ _ created)
    "FeintDummy" .feintDummy rfl
  have same := unchanged (.flag false) rfl
  obtain ⟨readBack, again⟩ := granted (.flag true) _ rfl rfl
  obtain ⟨_outcome, sameReadings, _refused⟩ := again (.flag false) rfl
  exact ⟨_, _, _, created, rfl, rfl, readBack, rfl, sameReadings _ _ rfl same, same⟩

/-- A second value that is refused does not take the first one back: an echelon that is none is refused
with and without another one before it, and the code keeps the one that it had. -/
theorem identifier_ne_of_refusedAgain :
    ∃ made left reason, create Catalog.standard "SFGPUCI----D---" [⟨0, 0, 0⟩] none = .ok made ∧
      Update.run (writeModifier "Echelon" (.token "F")) made = (.ok (), left) ∧
      Update.outcome (writeModifier "Echelon" (.token "Z")) left = .error reason ∧
      Update.outcome (writeModifier "Echelon" (.token "Z")) made = .error reason ∧
      (Update.after (writeModifier "Echelon" (.token "Z")) left).identifier ≠
        (Update.after (writeModifier "Echelon" (.token "Z")) made).identifier := by
  have created := create_of_find? Catalog.standard "SFGPUCI----D---" [⟨0, 0, 0⟩] _
    (Catalog.pointType .warfighting (some "G") "UCI---" "Infantry" Catalog.unitModifiers) rfl
    (by decide +kernel) rfl
  refine ⟨_, _, .unwritable (.invalidToken .echelon "Z" 12), created, rfl, rfl, rfl, ?_⟩
  decide +kernel

end Graphic

end TacticalSymbols

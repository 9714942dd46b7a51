import TacticalSymbols.Graphic.Basic
import TacticalSymbols.Proofs.Markings

/-!
Markings that mirror the fields of a code. Of the modifiers that the code stores they say what the
fields say, and they speak of no modifier that the type does not carry.
-/

namespace TacticalSymbols

theorem CodeFields.flag_shownFlags (fields : CodeFields) (modifier : Modifier)
    (isFlag : modifier.kind = .flag) :
    fields.shownFlags.flag modifier =
      (fields.unitFlags.flag modifier || (modifier == .feintDummy &&
        fields.token? .installation == some Installation.feintDummy)) := by
  cases modifier with
  | feintDummy => simp [CodeFields.shownFlags, UnitFlags.flag]
  | headquarters => simp [CodeFields.shownFlags, UnitFlags.flag]
  | taskForce => simp [CodeFields.shownFlags, UnitFlags.flag]
  | _ => cases isFlag

namespace Markings

structure Mirrors (markings : Markings) (descriptor : Descriptor) (fields : CodeFields) :
    Prop where
  onlyCarried : ∀ modifier, (markings.marking? modifier).isSome = true →
    descriptor.carries modifier = true
  /-- Every flag has a value, set or not; an installation can be a feint or dummy by itself. -/
  flags : ∀ modifier, descriptor.carries modifier = true → modifier.kind = .flag →
    markings.value? modifier =
      some (.flag (fields.unitFlags.flag modifier || (modifier == .feintDummy &&
        fields.token? .installation == some Installation.feintDummy)))
  tokens : ∀ modifier, descriptor.carries modifier = true → modifier.kind = .token →
    markings.value? modifier = (modifier.axis?.bind fields.token?).map .token

/-! ### Aligning -/

theorem marking?_align (markings : Markings) (descriptor : Descriptor) (fields : CodeFields)
    (modifier : Modifier) :
    (markings.align descriptor fields).marking? modifier =
      if descriptor.carries modifier then aligned fields modifier (markings.marking? modifier)
      else none :=
  rfl

theorem mirrors_align (markings : Markings) (descriptor : Descriptor) (fields : CodeFields) :
    (markings.align descriptor fields).Mirrors descriptor fields := by
  constructor
  · intro modifier present
    rw [marking?_align] at present
    by_cases carried : descriptor.carries modifier = true
    · exact carried
    · rw [if_neg carried] at present
      cases present
  · intro modifier carried isFlag
    unfold value?
    rw [marking?_align, if_pos carried, aligned, isFlag]
    exact congrArg (fun set => some (Modifier.Value.flag set))
      (fields.flag_shownFlags modifier isFlag)
  · intro modifier carried isToken
    unfold value?
    rw [marking?_align, if_pos carried, aligned, isToken]
    dsimp only
    cases stored : modifier.axis?.bind fields.token? with
    | some token => rfl
    | none => cases markings.marking? modifier <;> rfl

/-- Of two alignments only the later counts, if every modifier that the first one gives a
token and the later one does not has a marking already. -/
theorem align_align (markings : Markings) (descriptor : Descriptor) (middle last : CodeFields)
    (traced : ∀ modifier axis, modifier.kind = .token → modifier.axis? = some axis →
      descriptor.carries modifier = true → middle.contains axis = true →
        last.contains axis = true ∨ (markings.marking? modifier).isSome = true) :
    (markings.align descriptor middle).align descriptor last = markings.align descriptor last := by
  apply Markings.ext
  funext modifier
  rw [marking?_align, marking?_align, marking?_align]
  by_cases carried : descriptor.carries modifier = true
  · rw [if_pos carried, if_pos carried, if_pos carried]
    unfold aligned
    cases kind : modifier.kind with
    | text => rfl
    | flag => rfl
    | token =>
        cases stored : modifier.axis? with
        | none => cases markings.marking? modifier <;> rfl
        | some axis =>
            have trace := traced modifier axis kind stored carried
            unfold CodeFields.contains at trace
            dsimp only [Option.bind_some]
            cases inMiddle : middle.token? axis with
            | none =>
                cases last.token? axis <;> cases markings.marking? modifier <;> rfl
            | some token =>
                cases inLast : last.token? axis with
                | some _ => rfl
                -- The value goes again, and the marking stays: it must have been there before.
                | none =>
                    rw [inMiddle, inLast] at trace
                    rcases trace rfl with impossible | marked
                    · cases impossible
                    · obtain ⟨marking, present⟩ := Option.isSome_iff_exists.mp marked
                      rw [present]
                      rfl
  · rw [if_neg carried, if_neg carried]

/-! ### Writes beside the code -/

theorem setValue_comm (markings : Markings) (left right : Modifier)
    (leftValue rightValue : Modifier.Value) (different : left ≠ right) :
    (markings.setValue left leftValue).setValue right rightValue =
      (markings.setValue right rightValue).setValue left leftValue := by
  apply Markings.ext
  funext modifier
  unfold setValue markingOrInitial
  rw [marking?_put_of_ne _ left right _ (Ne.symm different),
    marking?_put_of_ne _ right left _ different]
  by_cases isLeft : modifier = left
  · subst isLeft
    rw [marking?_put_of_ne _ right modifier _ different, marking?_put_self, marking?_put_self]
  · rw [marking?_put_of_ne _ left modifier _ isLeft]
    by_cases isRight : modifier = right
    · rw [isRight, marking?_put_self, marking?_put_self]
    · rw [marking?_put_of_ne _ right modifier _ isRight,
        marking?_put_of_ne _ right modifier _ isRight, marking?_put_of_ne _ left modifier _ isLeft]

theorem align_setValue (markings : Markings) (descriptor : Descriptor) (fields : CodeFields)
    (modifier : Modifier) (value : Modifier.Value) (isText : modifier.kind = .text)
    (carried : descriptor.carries modifier = true) :
    (markings.setValue modifier value).align descriptor fields =
      (markings.align descriptor fields).setValue modifier value := by
  apply Markings.ext
  funext other
  unfold setValue markingOrInitial
  rw [marking?_align, marking?_align, if_pos carried]
  by_cases same : other = modifier
  · subst same
    rw [marking?_put_self, marking?_put_self, if_pos carried, aligned, aligned, isText]
  · rw [marking?_put_of_ne _ modifier other _ same, marking?_put_of_ne _ modifier other _ same,
      marking?_align]

namespace Mirrors

variable {markings : Markings} {descriptor : Descriptor} {fields : CodeFields}
  (mirrors : markings.Mirrors descriptor fields)

include mirrors

theorem isSome_of_contains (modifier : Modifier) (axis : Axis) (isToken : modifier.kind = .token)
    (stored : modifier.axis? = some axis) (carried : descriptor.carries modifier = true)
    (inCode : fields.contains axis = true) : (markings.marking? modifier).isSome = true := by
  obtain ⟨token, present⟩ := Option.isSome_iff_exists.mp inCode
  have valued := mirrors.tokens modifier carried isToken
  rw [stored, Option.bind_some, present, value?] at valued
  obtain ⟨marking, marked, _held⟩ := Option.bind_eq_some_iff.mp valued
  rw [marked]
  rfl

theorem align_eq : markings.align descriptor fields = markings := by
  apply Markings.ext
  funext modifier
  rw [marking?_align]
  by_cases carried : descriptor.carries modifier = true
  · rw [if_pos carried, aligned]
    cases kind : modifier.kind with
    | text => rfl
    | flag =>
        have valued := mirrors.flags modifier carried kind
        rw [← fields.flag_shownFlags modifier kind] at valued
        obtain ⟨marking, marked, held⟩ := Option.bind_eq_some_iff.mp valued
        rw [marked, ← held]
        rfl
    | token =>
        have valued := mirrors.tokens modifier carried kind
        rw [value?] at valued
        dsimp only
        cases present : modifier.axis?.bind fields.token? with
        | some token =>
            rw [present] at valued
            obtain ⟨marking, marked, held⟩ := Option.bind_eq_some_iff.mp valued
            rw [marked]
            dsimp only [Option.getD_some]
            rw [← held]
        | none =>
            rw [present] at valued
            cases marked : markings.marking? modifier with
            | none => rfl
            | some marking =>
                rw [marked] at valued
                dsimp only [Option.map_some]
                rw [← show marking.value? = none from valued]
  · rw [if_neg carried]
    cases marked : markings.marking? modifier with
    | none => rfl
    | some marking =>
        exact absurd (mirrors.onlyCarried modifier (by rw [marked]; rfl)) carried

private theorem onlyCarried_put (modifier : Modifier) (marking : Marking)
    (carried : descriptor.carries modifier = true) (other : Modifier)
    (present : ((markings.put modifier marking).marking? other).isSome = true) :
    descriptor.carries other = true := by
  by_cases same : other = modifier
  · rw [same]
    exact carried
  · rw [marking?_put_of_ne markings modifier other marking same] at present
    exact mirrors.onlyCarried other present

theorem setVisible (modifier : Modifier) (visible : Bool)
    (carried : descriptor.carries modifier = true) :
    (markings.setVisible modifier visible).Mirrors descriptor fields := by
  constructor
  · exact mirrors.onlyCarried_put modifier _ carried
  · intro other otherCarried isFlag
    rw [value?_setVisible]
    exact mirrors.flags other otherCarried isFlag
  · intro other otherCarried isToken
    rw [value?_setVisible]
    exact mirrors.tokens other otherCarried isToken

theorem setValue (modifier : Modifier) (value : Modifier.Value)
    (carried : descriptor.carries modifier = true) (isText : modifier.kind = .text) :
    (markings.setValue modifier value).Mirrors descriptor fields := by
  have different : ∀ other : Modifier, other.kind ≠ .text → other ≠ modifier := by
    intro other notText same
    rw [same] at notText
    exact notText isText
  constructor
  · exact mirrors.onlyCarried_put modifier _ carried
  · intro other otherCarried isFlag
    rw [value?_setValue, if_neg (different other (by rw [isFlag]; decide))]
    exact mirrors.flags other otherCarried isFlag
  · intro other otherCarried isToken
    rw [value?_setValue, if_neg (different other (by rw [isToken]; decide))]
    exact mirrors.tokens other otherCarried isToken

end Mirrors

end Markings

end TacticalSymbols

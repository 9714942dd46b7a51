import TacticalSymbols.Markings

/-!
Markings as two maps. The value of a modifier and whether it is shown stand in one marking, which the
first write of either part makes and only a retention takes away. Nothing of this is seen from outside:
each part is what the last write of that part said, unless something took it back since, and a write to
one part, or for one modifier, changes neither the other part nor another modifier.
-/

namespace TacticalSymbols

namespace Markings

/-! ### One write -/

theorem value?_put_self (markings : Markings) (modifier : Modifier) (marking : Marking) :
    (markings.put modifier marking).value? modifier = marking.value? := by
  unfold value?
  rw [marking?_put_self]
  rfl

theorem value?_put_of_ne (markings : Markings) (modifier other : Modifier) (marking : Marking)
    (different : other ≠ modifier) :
    (markings.put modifier marking).value? other = markings.value? other := by
  unfold value?
  rw [marking?_put_of_ne markings modifier other marking different]

theorem isVisible_put_self (markings : Markings) (modifier : Modifier) (marking : Marking) :
    (markings.put modifier marking).isVisible modifier = marking.visible := by
  unfold isVisible
  rw [marking?_put_self]
  rfl

theorem isVisible_put_of_ne (markings : Markings) (modifier other : Modifier) (marking : Marking)
    (different : other ≠ modifier) :
    (markings.put modifier marking).isVisible other = markings.isVisible other := by
  unfold isVisible
  rw [marking?_put_of_ne markings modifier other marking different]

theorem value?_setVisible (markings : Markings) (modifier other : Modifier) (visible : Bool) :
    (markings.setVisible modifier visible).value? other = markings.value? other := by
  unfold setVisible
  by_cases same : other = modifier
  · subst same
    rw [value?_put_self, markingOrInitial, value?]
    cases markings.marking? other <;> rfl
  · exact value?_put_of_ne markings modifier other _ same

theorem isVisible_setVisible (markings : Markings) (modifier other : Modifier) (visible : Bool) :
    (markings.setVisible modifier visible).isVisible other =
      if other = modifier then visible else markings.isVisible other := by
  unfold setVisible
  by_cases same : other = modifier
  · rw [if_pos same, same, isVisible_put_self]
  · rw [if_neg same, isVisible_put_of_ne markings modifier other _ same]

theorem value?_setValue (markings : Markings) (modifier other : Modifier)
    (value : Modifier.Value) :
    (markings.setValue modifier value).value? other =
      if other = modifier then some value else markings.value? other := by
  unfold setValue
  by_cases same : other = modifier
  · rw [if_pos same, same, value?_put_self]
  · rw [if_neg same, value?_put_of_ne markings modifier other _ same]

theorem isVisible_setValue (markings : Markings) (modifier other : Modifier)
    (value : Modifier.Value) :
    (markings.setValue modifier value).isVisible other = markings.isVisible other := by
  unfold setValue
  by_cases same : other = modifier
  · subst same
    rw [isVisible_put_self, markingOrInitial, isVisible]
    cases markings.marking? other <;> rfl
  · exact isVisible_put_of_ne markings modifier other _ same

private theorem marking?_clearValue (markings : Markings) (modifier other : Modifier) :
    (markings.clearValue modifier).marking? other =
      if other = modifier then
        (markings.marking? other).map (fun marking => { marking with value? := none })
      else markings.marking? other := by
  unfold clearValue
  by_cases same : other = modifier
  · subst same
    rw [if_pos rfl]
    cases held : markings.marking? other with
    | none => exact held
    | some marking => exact marking?_put_self markings other _
  · rw [if_neg same]
    cases markings.marking? modifier with
    | none => rfl
    | some marking => exact marking?_put_of_ne markings modifier other _ same

private theorem value?_clearValue (markings : Markings) (modifier other : Modifier) :
    (markings.clearValue modifier).value? other =
      if other = modifier then none else markings.value? other := by
  unfold value?
  rw [marking?_clearValue]
  by_cases same : other = modifier
  · rw [if_pos same, if_pos same]
    cases markings.marking? other <;> rfl
  · rw [if_neg same, if_neg same]

private theorem isVisible_clearValue (markings : Markings) (modifier other : Modifier) :
    (markings.clearValue modifier).isVisible other = markings.isVisible other := by
  unfold isVisible
  rw [marking?_clearValue]
  by_cases same : other = modifier
  · rw [if_pos same]
    cases markings.marking? other <;> rfl
  · rw [if_neg same]

private theorem value?_retain (markings : Markings) (keep : Modifier → Bool) (modifier : Modifier) :
    (markings.retain keep).value? modifier =
      if keep modifier then markings.value? modifier else none := by
  unfold value?
  rw [marking?_retain]
  split <;> rfl

private theorem isVisible_retain (markings : Markings) (keep : Modifier → Bool)
    (modifier : Modifier) : (markings.retain keep).isVisible modifier =
      if keep modifier then markings.isVisible modifier else true := by
  unfold isVisible
  rw [marking?_retain]
  split <;> rfl

/-! ### What writes say -/

/-- What a write says of the value of a modifier, if it says anything: the value that the modifier has
from then on, or that it has none. A modifier that is dropped has none. -/
def Write.saidValue? (modifier : Modifier) : Write → Option (Option Modifier.Value)
  | .visible _ _ => none
  | .value other held => if modifier = other then some (some held) else none
  | .noValue other => if modifier = other then some none else none
  | .only keep => if keep modifier then none else some none

/-- What a write says of whether a modifier is shown, if it says anything. A modifier that is dropped is
shown again. -/
def Write.saidVisible? (modifier : Modifier) : Write → Option Bool
  | .visible other shown => if modifier = other then some shown else none
  | .value _ _ => none
  | .noValue _ => none
  | .only keep => if keep modifier then none else some true

def Write.modifier? : Write → Option Modifier
  | .visible modifier _ => some modifier
  | .value modifier _ => some modifier
  | .noValue modifier => some modifier
  | .only _ => none

private theorem Write.eq_of_saidValue? (write : Write) (modifier : Modifier)
    (value : Modifier.Value) (said : write.saidValue? modifier = some (some value)) :
    write = .value modifier value := by
  cases write with
  | visible other shown => cases said
  | value other held =>
      obtain ⟨same, told⟩ := Option.ite_none_right_eq_some.mp said
      cases told
      rw [same]
  | noValue other => cases (Option.ite_none_right_eq_some.mp said).2
  | only keep => cases (Option.ite_none_left_eq_some.mp said).2

private theorem Write.eq_of_saidVisible? (write : Write) (modifier : Modifier)
    (said : write.saidVisible? modifier = some false) : write = .visible modifier false := by
  cases write with
  | visible other shown =>
      obtain ⟨same, told⟩ := Option.ite_none_right_eq_some.mp said
      cases told
      rw [same]
  | value other held => cases said
  | noValue other => cases said
  | only keep => cases (Option.ite_none_left_eq_some.mp said).2

private theorem marking?_write_of_ne (markings : Markings) (write : Write)
    (modifier other : Modifier) (isFor : write.modifier? = some modifier)
    (different : other ≠ modifier) :
    (markings.write write).marking? other = markings.marking? other := by
  cases write with
  | visible written visible =>
      cases isFor
      exact marking?_put_of_ne markings modifier other _ different
  | value written value =>
      cases isFor
      exact marking?_put_of_ne markings modifier other _ different
  | noValue written =>
      cases isFor
      rw [Markings.write, marking?_clearValue, if_neg different]
  | only keep => cases isFor

/-! ### Runs of writes -/

section Reading

variable {Read : Type}

/-- A reading of markings is told by what writes say of it: after a write it is what the write says,
and what it was before if the write says nothing. -/
def ToldBy (read : Markings → Read) (said? : Write → Option Read) : Prop :=
  ∀ markings write, read (markings.write write) = (said? write).getD (read markings)

/-- A write stands at the end of a run: it was made, and nothing was said since. -/
def Stands (said? : Write → Option Read) (writes : List Write) (write : Write) : Prop :=
  ∃ before after, writes = before ++ write :: after ∧ ∀ later ∈ after, said? later = none

variable {read : Markings → Read} {said? : Write → Option Read}

private theorem findSome?_eq_some_iff_stands (writes : List Write) (said : Read) :
    writes.reverse.findSome? said? = some said ↔
      ∃ write, Stands said? writes write ∧ said? write = some said := by
  rw [List.findSome?_eq_some_iff]
  constructor
  · rintro ⟨after, write, before, backwards, speaks, silent⟩
    refine ⟨write, ⟨before.reverse, after.reverse, ?_, ?_⟩, speaks⟩
    · have forwards := congrArg List.reverse backwards
      rw [List.reverse_reverse, List.reverse_append, List.reverse_cons, List.append_assoc] at forwards
      exact forwards
    · intro later listed
      exact silent later (List.mem_reverse.mp listed)
  · rintro ⟨write, ⟨before, after, same, silent⟩, speaks⟩
    refine ⟨after.reverse, write, before.reverse, ?_, speaks, ?_⟩
    · rw [same, List.reverse_append, List.reverse_cons, List.append_assoc]
      rfl
    · intro later listed
      exact silent later (List.mem_reverse.mp listed)

/-- Writes that say nothing can be left out. -/
private theorem findSome?_filter (writes : List Write) :
    (writes.filter (fun write => (said? write).isSome)).reverse.findSome? said? =
      writes.reverse.findSome? said? := by
  rw [← List.filter_reverse, ← List.head?_filterMap, ← List.head?_filterMap, List.filterMap_filter]
  congr 2
  funext write
  cases said? write <;> rfl

namespace ToldBy

variable (told : ToldBy read said?)

include told

theorem writeAll (markings : Markings) (writes : List Write) :
    read (markings.writeAll writes) =
      (writes.reverse.findSome? said?).getD (read markings) := by
  induction writes generalizing markings with
  | nil => rfl
  | cons write rest ih =>
      have continued := ih (markings.write write)
      rw [told markings write] at continued
      rw [List.reverse_cons, List.findSome?_append, List.findSome?_singleton, Option.getD_or]
      exact continued

private theorem of_stands (markings : Markings) (writes : List Write) (write : Write) (said : Read)
    (stands : Stands said? writes write) (speaks : said? write = some said) :
    read (markings.writeAll writes) = said := by
  rw [told.writeAll, (findSome?_eq_some_iff_stands writes said).mpr ⟨write, stands, speaks⟩]
  rfl

/-- A run that says at its end nothing but what was there before leaves it there. -/
private theorem of_nothing_new (markings : Markings) (writes : List Write)
    (nothingNew : ∀ write said, Stands said? writes write → said? write = some said →
      said = read markings) :
    read (markings.writeAll writes) = read markings := by
  rw [told.writeAll]
  cases found : writes.reverse.findSome? said? with
  | none => rfl
  | some said =>
      obtain ⟨write, stands, speaks⟩ := (findSome?_eq_some_iff_stands writes said).mp found
      exact nothingNew write said stands speaks

private theorem writeAll_filter (markings : Markings) (writes : List Write) :
    read (markings.writeAll (writes.filter (fun write => (said? write).isSome))) =
      read (markings.writeAll writes) := by
  rw [told.writeAll, told.writeAll, findSome?_filter]

end ToldBy

end Reading

private theorem value?_toldBy (modifier : Modifier) :
    ToldBy (fun markings => markings.value? modifier) (Write.saidValue? modifier) := by
  intro markings write
  cases write with
  | visible other visible => exact value?_setVisible markings other modifier visible
  | value other value =>
      refine (value?_setValue markings other modifier value).trans ?_
      rw [Write.saidValue?]
      split <;> rfl
  | noValue other =>
      refine (value?_clearValue markings other modifier).trans ?_
      rw [Write.saidValue?]
      split <;> rfl
  | only keep =>
      refine (value?_retain markings keep modifier).trans ?_
      rw [Write.saidValue?]
      split <;> rfl

private theorem isVisible_toldBy (modifier : Modifier) :
    ToldBy (fun markings => markings.isVisible modifier) (Write.saidVisible? modifier) := by
  intro markings write
  cases write with
  | visible other visible =>
      refine (isVisible_setVisible markings other modifier visible).trans ?_
      rw [Write.saidVisible?]
      split <;> rfl
  | value other value => exact isVisible_setValue markings other modifier value
  | noValue other => exact isVisible_clearValue markings other modifier
  | only keep =>
      refine (isVisible_retain markings keep modifier).trans ?_
      rw [Write.saidVisible?]
      split <;> rfl

/-! ### The two maps -/

section FromEmpty

variable (writes : List Write) (modifier : Modifier)

private theorem value?_writeAll_of_stands (value : Modifier.Value)
    (stands : Stands (Write.saidValue? modifier) writes (.value modifier value)) :
    (empty.writeAll writes).value? modifier = some value :=
  (value?_toldBy modifier).of_stands empty writes _ _ stands (if_pos rfl)

private theorem value?_writeAll_of_none_stands
    (noneStands : ∀ value, ¬Stands (Write.saidValue? modifier) writes (.value modifier value)) :
    (empty.writeAll writes).value? modifier = none := by
  apply (value?_toldBy modifier).of_nothing_new empty writes
  intro write said stands speaks
  cases said with
  | none => rfl
  | some value =>
      rw [write.eq_of_saidValue? modifier value speaks] at stands
      exact absurd stands (noneStands value)

private theorem isVisible_writeAll_of_stands (visible : Bool)
    (stands : Stands (Write.saidVisible? modifier) writes (.visible modifier visible)) :
    (empty.writeAll writes).isVisible modifier = visible :=
  (isVisible_toldBy modifier).of_stands empty writes _ _ stands (if_pos rfl)

private theorem isVisible_writeAll_of_none_stands
    (noneStands : ∀ visible,
      ¬Stands (Write.saidVisible? modifier) writes (.visible modifier visible)) :
    (empty.writeAll writes).isVisible modifier = true := by
  apply (isVisible_toldBy modifier).of_nothing_new empty writes
  intro write said stands speaks
  cases said with
  | true => rfl
  | false =>
      rw [write.eq_of_saidVisible? modifier speaks] at stands
      exact absurd stands (noneStands false)

end FromEmpty

/-- Whatever is written to markings that were empty, a modifier has the value that was last given it,
if that was neither taken away nor dropped since, and else none; it is shown as was last asked, if it was
not dropped since, and else it is shown. Each of the two is told by its own writes alone: giving a value
or taking it away has nothing shown or hidden, showing or hiding changes no value, and a write for one
modifier leaves the marking of every other. -/
theorem twoMaps_writeAll (writes : List Write) :
    (∀ modifier,
        (∀ value, Stands (Write.saidValue? modifier) writes (.value modifier value) →
          (empty.writeAll writes).value? modifier = some value) ∧
        ((∀ value, ¬Stands (Write.saidValue? modifier) writes (.value modifier value)) →
          (empty.writeAll writes).value? modifier = none) ∧
        (∀ visible, Stands (Write.saidVisible? modifier) writes (.visible modifier visible) →
          (empty.writeAll writes).isVisible modifier = visible) ∧
        ((∀ visible, ¬Stands (Write.saidVisible? modifier) writes (.visible modifier visible)) →
          (empty.writeAll writes).isVisible modifier = true) ∧
        (empty.writeAll (writes.filter fun write =>
            (write.saidValue? modifier).isSome)).value? modifier =
          (empty.writeAll writes).value? modifier ∧
        (empty.writeAll (writes.filter fun write =>
            (write.saidVisible? modifier).isSome)).isVisible modifier =
          (empty.writeAll writes).isVisible modifier) ∧
      (∀ modifier value,
        ((empty.writeAll writes).write (.value modifier value)).isVisible =
          (empty.writeAll writes).isVisible) ∧
      (∀ modifier,
        ((empty.writeAll writes).write (.noValue modifier)).isVisible =
          (empty.writeAll writes).isVisible) ∧
      (∀ modifier visible,
        ((empty.writeAll writes).write (.visible modifier visible)).value? =
          (empty.writeAll writes).value?) ∧
      ∀ write modifier other, write.modifier? = some modifier → other ≠ modifier →
        ((empty.writeAll writes).write write).marking? other =
          (empty.writeAll writes).marking? other := by
  refine ⟨fun modifier => ⟨?_, ?_, ?_, ?_, ?_, ?_⟩, ?_, ?_, ?_, ?_⟩
  · exact value?_writeAll_of_stands writes modifier
  · exact value?_writeAll_of_none_stands writes modifier
  · exact isVisible_writeAll_of_stands writes modifier
  · exact isVisible_writeAll_of_none_stands writes modifier
  · exact (value?_toldBy modifier).writeAll_filter empty writes
  · exact (isVisible_toldBy modifier).writeAll_filter empty writes
  · intro modifier value
    exact funext fun other => isVisible_setValue _ modifier other value
  · intro modifier
    exact funext fun other => isVisible_clearValue _ modifier other
  · intro modifier visible
    exact funext fun other => value?_setVisible _ modifier other visible
  · intro write modifier other isFor different
    exact marking?_write_of_ne _ write modifier other isFor different

/-- The echelon is hidden before it has a value, and stays hidden when the value is taken away. The text
is dropped with its value and is shown again. The mobility has a value and was never shown or hidden. -/
theorem twoMaps_writeAll_hiddenBefore :
    let writes : List Write :=
      [.visible .echelon false, .value .echelon (.token "D"), .value .text (.text "1-6"),
        .visible .text false, .only (· != .text), .value .mobility (.token "MO"), .noValue .echelon]
    ((empty.writeAll writes).value? .echelon = none ∧
        (empty.writeAll writes).isVisible .echelon = false) ∧
      ((empty.writeAll writes).value? .text = none ∧
        (empty.writeAll writes).isVisible .text = true) ∧
      ((empty.writeAll writes).value? .mobility = some (.token "MO") ∧
        (empty.writeAll writes).isVisible .mobility = true) ∧
      ((empty.writeAll writes).write (.noValue .mobility)).marking? .echelon =
        (empty.writeAll writes).marking? .echelon := by
  intro writes
  obtain ⟨parts, _values, _noValues, _shown, others⟩ := twoMaps_writeAll writes
  have hidden : Stands (Write.saidVisible? .echelon) writes (.visible .echelon false) :=
    ⟨[], _, rfl, by decide⟩
  have moved : Stands (Write.saidValue? .mobility) writes (.value .mobility (.token "MO")) :=
    ⟨writes.take 5, _, rfl, by decide⟩
  have cleared : ∀ value, ¬Stands (Write.saidValue? .echelon) writes (.value .echelon value) := by
    intro value stands
    cases (findSome?_eq_some_iff_stands writes (some value)).mpr ⟨_, stands, rfl⟩
  have dropped : ∀ value, ¬Stands (Write.saidValue? .text) writes (.value .text value) := by
    intro value stands
    cases (findSome?_eq_some_iff_stands writes (some value)).mpr ⟨_, stands, rfl⟩
  have shownAgain :
      ∀ visible, ¬Stands (Write.saidVisible? .text) writes (.visible .text visible) := by
    intro visible stands
    -- The retention says that the text is shown, so only showing it could stand, and nothing shows it.
    cases (findSome?_eq_some_iff_stands writes visible).mpr ⟨_, stands, rfl⟩
    obtain ⟨before, after, same, _silent⟩ := stands
    have listed : Write.visible .text true ∈ writes := by
      rw [same]
      exact List.mem_append_right before List.mem_cons_self
    simp [writes] at listed
  have neverShown :
      ∀ visible, ¬Stands (Write.saidVisible? .mobility) writes (.visible .mobility visible) := by
    intro visible stands
    cases (findSome?_eq_some_iff_stands writes visible).mpr ⟨_, stands, rfl⟩
  exact ⟨⟨(parts .echelon).2.1 cleared, (parts .echelon).2.2.1 false hidden⟩,
    ⟨(parts .text).2.1 dropped, (parts .text).2.2.2.1 shownAgain⟩,
    ⟨(parts .mobility).1 _ moved, (parts .mobility).2.2.2.1 neverShown⟩,
    others (.noValue .mobility) .mobility .echelon rfl (by decide)⟩

end Markings

end TacticalSymbols

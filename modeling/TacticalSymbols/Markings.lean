import TacticalSymbols.Modifier

/-!
Markings: the values of modifiers and whether each is shown. A modifier without a marking has no
value and is shown.
-/

namespace TacticalSymbols

structure Marking where
  value? : Option Modifier.Value
  visible : Bool
  deriving DecidableEq, Repr

def Marking.initial : Marking :=
  { value? := none, visible := true }

/-- The markings by modifier. Two of them are equal when they agree on every modifier. -/
@[ext]
structure Markings where
  marking? : Modifier → Option Marking

namespace Markings

def empty : Markings :=
  { marking? := fun _ => none }

def put (markings : Markings) (modifier : Modifier) (marking : Marking) : Markings :=
  { marking? := fun other => if other = modifier then some marking else markings.marking? other }

def markingOrInitial (markings : Markings) (modifier : Modifier) : Marking :=
  (markings.marking? modifier).getD Marking.initial

def isVisible (markings : Markings) (modifier : Modifier) : Bool :=
  (markings.marking? modifier).all (fun marking => marking.visible)

def setVisible (markings : Markings) (modifier : Modifier) (visible : Bool) : Markings :=
  markings.put modifier { markings.markingOrInitial modifier with visible := visible }

def value? (markings : Markings) (modifier : Modifier) : Option Modifier.Value :=
  (markings.marking? modifier).bind (fun marking => marking.value?)

def setValue (markings : Markings) (modifier : Modifier) (value : Modifier.Value) : Markings :=
  markings.put modifier { markings.markingOrInitial modifier with value? := some value }

def clearValue (markings : Markings) (modifier : Modifier) : Markings :=
  match markings.marking? modifier with
  | some marking => markings.put modifier { marking with value? := none }
  | none => markings

def retain (markings : Markings) (keep : Modifier → Bool) : Markings :=
  { marking? := fun modifier => if keep modifier then markings.marking? modifier else none }

def toList (markings : Markings) : List (Modifier × Marking) :=
  Modifier.all.filterMap (fun modifier =>
    (markings.marking? modifier).map (fun marking => (modifier, marking)))

def ofList (list : List (Modifier × Marking)) : Markings :=
  list.foldl (fun markings item => markings.put item.1 item.2) empty

/-- The writes to markings as data, so that runs of them can be spoken of. -/
inductive Write where
  | visible (modifier : Modifier) (visible : Bool)
  | value (modifier : Modifier) (value : Modifier.Value)
  | noValue (modifier : Modifier)
  | only (keep : Modifier → Bool)

def write (markings : Markings) : Write → Markings
  | .visible modifier visible => markings.setVisible modifier visible
  | .value modifier value => markings.setValue modifier value
  | .noValue modifier => markings.clearValue modifier
  | .only keep => markings.retain keep

def writeAll (markings : Markings) (writes : List Write) : Markings :=
  writes.foldl write markings

@[simp] theorem marking?_put_self (markings : Markings) (modifier : Modifier)
    (marking : Marking) : (markings.put modifier marking).marking? modifier = some marking :=
  if_pos rfl

theorem marking?_put_of_ne (markings : Markings) (modifier other : Modifier)
    (marking : Marking) (different : other ≠ modifier) :
    (markings.put modifier marking).marking? other = markings.marking? other :=
  if_neg different

@[simp] theorem marking?_retain (markings : Markings) (keep : Modifier → Bool)
    (modifier : Modifier) :
    (markings.retain keep).marking? modifier =
      if keep modifier then markings.marking? modifier else none :=
  rfl

theorem mem_toList (markings : Markings) (modifier : Modifier) (marking : Marking) :
    (modifier, marking) ∈ markings.toList ↔ markings.marking? modifier = some marking := by
  constructor
  · intro member
    obtain ⟨source, _listed, found⟩ := List.mem_filterMap.mp member
    obtain ⟨held, present, same⟩ := Option.map_eq_some_iff.mp found
    cases same
    exact present
  · intro present
    exact List.mem_filterMap.mpr ⟨modifier, Modifier.mem_all modifier, by rw [present]; rfl⟩

end Markings

end TacticalSymbols

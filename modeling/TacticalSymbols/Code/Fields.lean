import TacticalSymbols.Axis
import TacticalSymbols.LegalTokens
import TacticalSymbols.Scheme

/-!
Symbol codes as fields: a token, or none, on each axis. Any text may stand as a token here; reading
and writing the fifteen characters of a code decide which tokens are legal. The layout of a code says
for each scheme which axes it places among these characters; a position that no axis of the scheme
covers carries nothing.
-/

namespace TacticalSymbols

/-! ### Layout -/

def codeLength : Nat := 15

/-- The axes that a scheme places in its codes, in position order. -/
def Scheme.axes : Scheme → List Axis
  | .warfighting =>
      [.scheme, .standardIdentity, .battleDimension, .status, .functionId, .unitEquipment, .echelon,
        .installation, .mobility, .auxiliaryEquipment, .country, .orderOfBattle]
  | .tacticalGraphics =>
      [.scheme, .standardIdentity, .category, .status, .functionId, .country, .orderOfBattle]
  | .metoc => [.scheme, .status, .functionId]
  | .intelligence =>
      [.scheme, .standardIdentity, .battleDimension, .status, .functionId, .country, .orderOfBattle]
  | .stabilityOperations =>
      [.scheme, .standardIdentity, .category, .status, .functionId, .unitEquipment, .echelon,
        .installation, .country, .orderOfBattle]
  | .emergencyManagement =>
      [.scheme, .standardIdentity, .category, .status, .functionId, .installation, .mobility,
        .country, .orderOfBattle]

def Scheme.uses (scheme : Scheme) (axis : Axis) : Bool :=
  scheme.axes.contains axis

def Span.slice (span : Span) (characters : List Char) : List Char :=
  (characters.drop (span.first - 1)).take span.width

def allFiller (characters : List Char) : Bool :=
  characters.all (· == filler)

/-! ### Fields -/

/-- The fields of a code. They are equal when they agree on every axis. -/
@[ext]
structure CodeFields where
  token? : Axis → Option String

namespace CodeFields

def empty : CodeFields :=
  { token? := fun _ => none }

def contains (fields : CodeFields) (axis : Axis) : Bool :=
  (fields.token? axis).isSome

def set (fields : CodeFields) (axis : Axis) (token : String) : CodeFields :=
  { token? := fun other => if other = axis then some token else fields.token? other }

def remove (fields : CodeFields) (axis : Axis) : CodeFields :=
  { token? := fun other => if other = axis then none else fields.token? other }

def ofScheme (scheme : Scheme) : CodeFields :=
  empty.set .scheme scheme.token

def scheme? (fields : CodeFields) : Option Scheme :=
  (fields.token? .scheme).bind Scheme.ofToken?

/-- The token at position 3: a category, or else a battle dimension. -/
def dimension? (fields : CodeFields) : Option String :=
  fields.token? .category <|> fields.token? .battleDimension

def toList (fields : CodeFields) : List (Axis × String) :=
  Axis.all.filterMap (fun axis => (fields.token? axis).map (fun token => (axis, token)))

def ofList (list : List (Axis × String)) : CodeFields :=
  list.foldl (fun fields item => fields.set item.1 item.2) empty

@[simp] theorem token?_set_self (fields : CodeFields) (axis : Axis) (token : String) :
    (fields.set axis token).token? axis = some token :=
  if_pos rfl

theorem token?_set_of_ne (fields : CodeFields) (axis other : Axis) (token : String)
    (different : other ≠ axis) : (fields.set axis token).token? other = fields.token? other :=
  if_neg different

@[simp] theorem token?_remove_self (fields : CodeFields) (axis : Axis) :
    (fields.remove axis).token? axis = none :=
  if_pos rfl

theorem token?_remove_of_ne (fields : CodeFields) (axis other : Axis) (different : other ≠ axis) :
    (fields.remove axis).token? other = fields.token? other :=
  if_neg different

theorem mem_toList (fields : CodeFields) (axis : Axis) (token : String) :
    (axis, token) ∈ fields.toList ↔ fields.token? axis = some token := by
  constructor
  · intro member
    obtain ⟨source, _listed, found⟩ := List.mem_filterMap.mp member
    obtain ⟨held, present, same⟩ := Option.map_eq_some_iff.mp found
    cases same
    exact present
  · intro present
    exact List.mem_filterMap.mpr ⟨axis, Axis.mem_all axis, by rw [present]; rfl⟩

instance : DecidableEq CodeFields := fun left right =>
  decidable_of_iff (∀ axis ∈ Axis.all, left.token? axis = right.token? axis)
    ⟨fun agree => CodeFields.ext (funext fun axis => agree axis (Axis.mem_all axis)),
      fun same _ _ => same ▸ rfl⟩

end CodeFields

end TacticalSymbols

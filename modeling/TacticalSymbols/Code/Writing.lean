import TacticalSymbols.Code.Fields

/-!
Writing a code. The fields are written in axis order, each after its own checks, and the first field
that fails a check ends the writing. Positions that no field covers hold the filler.
-/

namespace TacticalSymbols

inductive WriteError where
  | missingScheme
  | axisNotUsed (axis : Axis) (scheme : Scheme)
  | invalidToken (axis : Axis) (token : String) (position : Nat)
  /-- Two uses of the modifier slot. -/
  | slotConflict (first second : Axis)
  deriving DecidableEq, Repr

def WriteError.message : WriteError → String
  | missingScheme => "Symbol code has no recognized scheme"
  | axisNotUsed axis scheme => axis.name ++ " is not used by the " ++ scheme.name ++ " scheme"
  | invalidToken axis token position =>
      "Invalid " ++ axis.name ++ " '" ++ token ++ "' at position " ++ toString position
  | slotConflict first second =>
      first.name ++ " and " ++ second.name ++ " both claim positions 11-12"

namespace CodeFields

/-- One character put at one place, counted from 0. -/
structure Cell where
  index : Nat
  character : Char
  deriving DecidableEq, Repr

def cellsOf (axis : Axis) (token : String) : List Cell :=
  token.toList.zipIdx.map (fun item => { index := axis.start - 1 + item.2, character := item.1 })

/-- What a pass over the fields has written, and what ended it if something did. -/
structure Writing where
  cells : List Cell
  /-- The first axis that was written into the modifier slot. -/
  slotHolder? : Option Axis
  failure? : Option WriteError

def fieldError? (scheme : Scheme) (slotHolder? : Option Axis) (axis : Axis) (token : String) :
    Option WriteError :=
  if !scheme.uses axis then some (.axisNotUsed axis scheme)
  else if token.length != axis.width || !isLegal axis token scheme then
    some (.invalidToken axis token axis.start)
  else
    match slotHolder? with
    | none => none
    | some holder =>
        if axis.inSlot && holder.slotUse? != axis.slotUse? then some (.slotConflict holder axis)
        else none

def Writing.next (scheme : Scheme) (writing : Writing) (item : Axis × String) : Writing :=
  if writing.failure?.isSome then writing
  else
    let axis := item.1
    let token := Text.upper item.2
    match fieldError? scheme writing.slotHolder? axis token with
    | some failure => { writing with failure? := some failure }
    | none =>
        { writing with
          cells := writing.cells ++ cellsOf axis token
          slotHolder? :=
            if axis.inSlot then writing.slotHolder? <|> some axis else writing.slotHolder? }

def write (scheme : Scheme) (fields : CodeFields) : Writing :=
  fields.toList.foldl (Writing.next scheme) { cells := [], slotHolder? := none, failure? := none }

/-- The characters of a code in which the cells are written and the rest is filler. -/
def sheet (cells : List Cell) : List Char :=
  cells.foldl (fun characters cell => characters.set cell.index cell.character)
    (List.replicate codeLength filler)

theorem length_sheet (cells : List Cell) : (sheet cells).length = codeLength := by
  have keepsLength : ∀ characters : List Char,
      (cells.foldl (fun characters cell => characters.set cell.index cell.character)
        characters).length = characters.length := by
    induction cells with
    | nil => intro characters; rfl
    | cons cell rest ih =>
        intro characters
        rw [List.foldl_cons, ih, List.length_set]
  rw [sheet, keepsLength, List.length_replicate]

def encode (fields : CodeFields) : Except WriteError String :=
  match fields.scheme? with
  | none => .error .missingScheme
  | some scheme =>
      let writing := write scheme fields
      match writing.failure? with
      | some failure => .error failure
      | none => .ok (String.ofList (sheet writing.cells))

end CodeFields

end TacticalSymbols

import TacticalSymbols.Code.Fields

/-!
Reading the characters of a code. The scheme comes first; then every field of the scheme is read,
and every field that holds an illegal token is reported, so that one reading finds all that is
wrong. A report says what was read whether or not the reading fails.
-/

namespace TacticalSymbols

/-- A token found where its field takes no such token. -/
structure Violation where
  axis : Axis
  token : String
  position : Nat
  /-- The tokens that the field takes; none for an open set or a field that the scheme lacks. -/
  expected : List String
  deriving DecidableEq, Repr

def Violation.describe (violation : Violation) : String :=
  "invalid " ++ violation.axis.name ++ " '" ++ violation.token ++ "' at position " ++
    toString violation.position

inductive ReadError where
  | wrongLength (actual : Nat)
  | unknownScheme (token : String)
  /-- Some fields hold illegal tokens; `valid` holds all the others. -/
  | invalidFields (violations : List Violation) (valid : CodeFields)
  deriving DecidableEq

namespace ReadError

def violations : ReadError → List Violation
  | invalidFields violations _ => violations
  | _ => []

def valid : ReadError → CodeFields
  | invalidFields _ valid => valid
  | _ => CodeFields.empty

def message : ReadError → String
  | wrongLength actual =>
      "Symbol code must be " ++ toString codeLength ++ " characters, got " ++ toString actual
  | unknownScheme token => "Unknown scheme: " ++ token
  | invalidFields violations _ =>
      "Invalid field values: " ++ "; ".intercalate (violations.map Violation.describe)

end ReadError

namespace CodeFields

/-- The first character of the modifier slot. It tells how the slot is used. -/
def slotTag (characters : List Char) : Char :=
  characters.getD (Axis.unitEquipment.start - 1) filler

/-- The axes that a slot with the given first character is read as. -/
def slotAxes (tag : Char) : List Axis :=
  if tag = 'H' then [.installation]
  else if tag = 'M' then [.mobility]
  else if tag = 'N' then [.auxiliaryEquipment]
  else [.unitEquipment, .echelon]

/-- The axes that are read from a code of the scheme, in the order of reading. A scheme with any use
for the slot has the whole slot read, so that a use foreign to the scheme is reported. -/
def axesRead (scheme : Scheme) (tag : Char) : List Axis :=
  scheme.axes.filter (fun axis => axis != .scheme && !axis.inSlot) ++
    (if scheme.axes.any Axis.inSlot then slotAxes tag else [])

structure Reading where
  valid : CodeFields
  violations : List Violation

/-- Takes up what stands at the places of a field. Filler is no token, so it leaves the axis empty. -/
def Reading.accept (scheme : Scheme) (reading : Reading) (axis : Axis) (token : List Char) :
    Reading :=
  if allFiller token then reading
  else if scheme.uses axis && isLegal axis (String.ofList token) scheme then
    { reading with valid := reading.valid.set axis (String.ofList token) }
  else
    let violation : Violation :=
      { axis := axis
        token := String.ofList token
        position := axis.start
        expected := if scheme.uses axis then (legalTokens axis scheme).tokens else [] }
    { reading with violations := reading.violations ++ [violation] }

def Reading.next (scheme : Scheme) (characters : List Char) (reading : Reading) (axis : Axis) :
    Reading :=
  reading.accept scheme axis (axis.span.slice characters)

def readFields (scheme : Scheme) (characters : List Char) : Reading :=
  (axesRead scheme (slotTag characters)).foldl (Reading.next scheme characters)
    { valid := ofScheme scheme, violations := [] }

/-- The fields of a code whose letters are capitals. -/
def ofCapitals (characters : List Char) : Except ReadError CodeFields :=
  if characters.length != codeLength then .error (.wrongLength characters.length)
  else
    let token := String.ofList (Axis.scheme.span.slice characters)
    match Scheme.ofToken? token with
    | none => .error (.unknownScheme token)
    | some scheme =>
        let reading := readFields scheme characters
        if reading.violations.isEmpty then .ok reading.valid
        else .error (.invalidFields reading.violations reading.valid)

/-- The fields of a code. The case of ASCII letters does not matter. -/
def decode (text : String) : Except ReadError CodeFields :=
  ofCapitals (text.toList.map Char.toUpper)

end CodeFields

/-! ### Reports -/

structure Report where
  isValid : Bool
  code : String
  scheme? : Option Scheme
  fields : CodeFields
  violations : List Violation
  error? : Option String

def Report.on (code : String) : Report :=
  match CodeFields.decode code with
  | .ok fields =>
      { isValid := true
        code := code
        scheme? := fields.scheme?
        fields := fields
        violations := []
        error? := none }
  | .error failure =>
      { isValid := false
        code := code
        scheme? := failure.valid.scheme?
        fields := failure.valid
        violations := failure.violations
        error? := some failure.message }

end TacticalSymbols

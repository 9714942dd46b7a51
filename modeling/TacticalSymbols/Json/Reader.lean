import TacticalSymbols.Json.Token

/-!
The value of a JSON text. The tokens are taken one by one; the containers that are still open wait
in a list, so that depth costs no more than length.
-/

namespace TacticalSymbols.Json

/-- An open container: what it holds so far, the last first, and the name whose value is being
read. -/
inductive Enclosing where
  | array (reversed : List Json)
  | object (reversed : List (Option String × Json)) (name : Option String)

inductive Expecting where
  | value
  | firstItem
  | afterItem (reversed : List Json)
  | name (reversed : List (Option String × Json)) (mayClose : Bool)
  | colon (reversed : List (Option String × Json)) (name : Option String)
  | afterMember (reversed : List (Option String × Json))
  | nothing (value : Json)

structure Progress where
  enclosing : List Enclosing
  expecting : Expecting

namespace Progress

/-- Hands a complete value to the innermost open container. -/
def place (value : Json) : List Enclosing → Progress
  | [] => { enclosing := [], expecting := .nothing value }
  | .array reversed :: outer => { enclosing := outer, expecting := .afterItem (value :: reversed) }
  | .object reversed name :: outer =>
      { enclosing := outer, expecting := .afterMember ((name, value) :: reversed) }

def begin? (enclosing : List Enclosing) : Token → Option Progress
  | .scalar value => some (place value enclosing)
  | .openArray => some { enclosing := enclosing, expecting := .firstItem }
  | .openObject => some { enclosing := enclosing, expecting := .name [] true }
  | _ => none

def next? (progress : Progress) (token : Token) : Option Progress :=
  let enclosing := progress.enclosing
  match progress.expecting, token with
  | .value, token => begin? enclosing token
  | .firstItem, .closeArray => some (place (.array []) enclosing)
  | .firstItem, token => begin? (.array [] :: enclosing) token
  | .afterItem reversed, .comma =>
      some { enclosing := .array reversed :: enclosing, expecting := .value }
  | .afterItem reversed, .closeArray => some (place (.array reversed.reverse) enclosing)
  | .name reversed _, .scalar (.string name) =>
      some { enclosing := enclosing, expecting := .colon reversed name }
  | .name reversed true, .closeObject => some (place (.object reversed.reverse) enclosing)
  | .colon reversed name, .colon =>
      some { enclosing := .object reversed name :: enclosing, expecting := .value }
  | .afterMember reversed, .comma =>
      some { enclosing := enclosing, expecting := .name reversed false }
  | .afterMember reversed, .closeObject => some (place (.object reversed.reverse) enclosing)
  | _, _ => none

end Progress

def ofTokens? (tokens : List Token) : Option Json :=
  match tokens.foldlM Progress.next? { enclosing := [], expecting := .value } with
  | some { enclosing := [], expecting := .nothing value } => some value
  | _ => none

/-- The value of a JSON text: strict, with nothing but white space around it. -/
def parse? (text : String) : Option Json :=
  (tokens? text).bind ofTokens?

end TacticalSymbols.Json

import TacticalSymbols.Text

/-!
Semantic versions. Precedence compares the three numbers and then the pre-release identifiers. The
full order goes on to the build metadata, so that only equal versions are equal in it.
-/

namespace TacticalSymbols

structure Version where
  major : Nat
  minor : Nat
  patch : Nat
  /-- The pre-release identifiers; none for a release. -/
  preRelease : List String
  build : List String
  deriving DecidableEq, Repr

namespace Version

def splitAt (separator : Char) : List Char → List (List Char)
  | [] => [[]]
  | character :: rest =>
      if character = separator then [] :: splitAt separator rest
      else
        match splitAt separator rest with
        | [] => [[character]]
        | first :: others => (character :: first) :: others

/-- The text in front of the first separator, and what follows it if there is one. -/
def cutAt (separator : Char) (characters : List Char) : List Char × Option (List Char) :=
  match characters.dropWhile (· != separator) with
  | [] => (characters, none)
  | _ :: rest => (characters.takeWhile (· != separator), some rest)

/-- One of the three numbers: no superfluous zero, and within 64 bits. -/
def number? (digits : List Char) : Option Nat :=
  if Text.isWholeNumber digits && decide (Text.digitsValue digits < UInt64.size) then
    some (Text.digitsValue digits)
  else none

def isIdentifier (characters : List Char) : Bool :=
  !characters.isEmpty &&
    characters.all (fun character => character.isAlphanum || character == '-')

/-- An identifier of a pre-release: one of digits alone is a number, without superfluous zeros. -/
def isPreReleaseIdentifier (characters : List Char) : Bool :=
  isIdentifier characters && (!characters.all Char.isDigit || Text.isWholeNumber characters)

/-- Identifiers joined by points, where any are given. -/
def identifiers? (accepts : List Char → Bool) : Option (List Char) → Option (List String)
  | none => some []
  | some characters =>
      let parts := splitAt '.' characters
      if parts.all accepts then some (parts.map String.ofList) else none

def parse? (text : String) : Option Version := do
  let (front, build) := cutAt '+' text.toList
  let (core, preRelease) := cutAt '-' front
  match splitAt '.' core with
  | [major, minor, patch] =>
      return {
        major := ← number? major
        minor := ← number? minor
        patch := ← number? patch
        preRelease := ← identifiers? isPreReleaseIdentifier preRelease
        build := ← identifiers? isIdentifier build }
  | _ => none

/-- Compares element by element; a list comes before its continuations. -/
def compareLists (compareItems : String → String → Ordering) : List String → List String → Ordering
  | [], [] => .eq
  | [], _ :: _ => .lt
  | _ :: _, [] => .gt
  | left :: lefts, right :: rights =>
      (compareItems left right).then (compareLists compareItems lefts rights)

def isNumeric (identifier : String) : Bool :=
  identifier.toList.all Char.isDigit

/-- Numbers come before words; numbers compare by value and words by their characters. -/
def compareIdentifiers (left right : String) : Ordering :=
  match isNumeric left, isNumeric right with
  | true, true => compare (Text.digitsValue left.toList) (Text.digitsValue right.toList)
  | true, false => .lt
  | false, true => .gt
  | false, false => compare left right

/-- As for other identifiers, and of two spellings of one number the longer comes last. -/
def compareBuildIdentifiers (left right : String) : Ordering :=
  (compareIdentifiers left right).then
    (if isNumeric left && isNumeric right then compare left.length right.length else .eq)

/-- A pre-release comes before the release that it leads to. -/
def comparePreReleases (left right : List String) : Ordering :=
  match left, right with
  | [], [] => .eq
  | [], _ :: _ => .gt
  | _ :: _, [] => .lt
  | left, right => compareLists compareIdentifiers left right

def precedence (left right : Version) : Ordering :=
  (compare left.major right.major).then
    ((compare left.minor right.minor).then
      ((compare left.patch right.patch).then
        (comparePreReleases left.preRelease right.preRelease)))

/-- The full order: precedence first, and then build metadata. -/
def order (left right : Version) : Ordering :=
  (precedence left right).then (compareLists compareBuildIdentifiers left.build right.build)

end Version

end TacticalSymbols

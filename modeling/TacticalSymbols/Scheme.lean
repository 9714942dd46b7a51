import TacticalSymbols.Text

/-!
Coding schemes. The first character of a symbol code names its scheme, and the scheme decides which
fields the rest of the code holds and which tokens each field takes.
-/

namespace TacticalSymbols

inductive Scheme where
  | warfighting
  | tacticalGraphics
  | metoc
  | intelligence
  | stabilityOperations
  | emergencyManagement
  deriving DecidableEq, Repr

namespace Scheme

def all : List Scheme :=
  [warfighting, tacticalGraphics, metoc, intelligence, stabilityOperations, emergencyManagement]

theorem mem_all (scheme : Scheme) : scheme ∈ all := by
  cases scheme <;> decide

def token : Scheme → String
  | warfighting => "S"
  | tacticalGraphics => "G"
  | metoc => "W"
  | intelligence => "I"
  | stabilityOperations => "O"
  | emergencyManagement => "E"

def key : Scheme → String
  | warfighting => "warfighting"
  | tacticalGraphics => "tactical_graphics"
  | metoc => "metoc"
  | intelligence => "intelligence"
  | stabilityOperations => "stability_operations"
  | emergencyManagement => "emergency_management"

def name : Scheme → String
  | warfighting => "Warfighting"
  | tacticalGraphics => "Tactical Graphics"
  | metoc => "Meteorological and Oceanographic"
  | intelligence => "Signals Intelligence"
  | stabilityOperations => "Stability Operations"
  | emergencyManagement => "Emergency Management"

def ofToken? (text : String) : Option Scheme :=
  all.find? (fun scheme => Text.sameLetters scheme.token text)

/-- The scheme that a person names: its token, or its word in any letter case and with any
separators. -/
def named? (text : String) : Option Scheme :=
  ofToken? text <|> all.find? (fun scheme => Text.bareName scheme.key == Text.bareName text)

end Scheme

end TacticalSymbols

import TacticalSymbols.Axis
import TacticalSymbols.Scheme

/-!
The tokens that each field takes. For some axes the set depends on the scheme. The tables say
nothing about whether a scheme uses an axis at all: that is its layout.
-/

namespace TacticalSymbols

namespace Country

def codes : List String :=
  ["AD", "AE", "AF", "AG", "AI", "AL", "AM", "AO", "AQ", "AR", "AS", "AT", "AU", "AW",
    "AX", "AZ", "BA", "BB", "BD", "BE", "BF", "BG", "BH", "BI", "BJ", "BL", "BM", "BN",
    "BO", "BQ", "BR", "BS", "BT", "BV", "BW", "BY", "BZ", "CA", "CC", "CD", "CF", "CG",
    "CH", "CI", "CK", "CL", "CM", "CN", "CO", "CR", "CU", "CV", "CW", "CX", "CY", "CZ",
    "DE", "DJ", "DK", "DM", "DO", "DZ", "EC", "EE", "EG", "EH", "ER", "ES", "ET", "FI",
    "FJ", "FK", "FM", "FO", "FR", "GA", "GB", "GD", "GE", "GF", "GG", "GH", "GI", "GL",
    "GM", "GN", "GP", "GQ", "GR", "GS", "GT", "GU", "GW", "GY", "HK", "HM", "HN", "HR",
    "HT", "HU", "ID", "IE", "IL", "IM", "IN", "IO", "IQ", "IR", "IS", "IT", "JE", "JM",
    "JO", "JP", "KE", "KG", "KH", "KI", "KM", "KN", "KP", "KR", "KW", "KY", "KZ", "LA",
    "LB", "LC", "LI", "LK", "LR", "LS", "LT", "LU", "LV", "LY", "MA", "MC", "MD", "ME",
    "MF", "MG", "MH", "MK", "ML", "MM", "MN", "MO", "MP", "MQ", "MR", "MS", "MT", "MU",
    "MV", "MW", "MX", "MY", "MZ", "NA", "NC", "NE", "NF", "NG", "NI", "NL", "NO", "NP",
    "NR", "NU", "NZ", "OM", "PA", "PE", "PF", "PG", "PH", "PK", "PL", "PM", "PN", "PR",
    "PS", "PT", "PW", "PY", "QA", "RE", "RO", "RS", "RU", "RW", "SA", "SB", "SC", "SD",
    "SE", "SG", "SH", "SI", "SJ", "SK", "SL", "SM", "SN", "SO", "SR", "SS", "ST", "SV",
    "SX", "SY", "SZ", "TC", "TD", "TF", "TG", "TH", "TJ", "TK", "TL", "TM", "TN", "TO",
    "TR", "TT", "TV", "TW", "TZ", "UA", "UG", "UM", "US", "UY", "UZ", "VA", "VC", "VE",
    "VG", "VI", "VN", "VU", "WF", "WS", "YE", "YT", "ZA", "ZM", "ZW"]

end Country

/-- Fills every position of a code that holds no token. -/
def filler : Char := '-'

/-- The tokens of one field: a finite list, or the open set of function ids. -/
inductive TokenSet where
  | listed (tokens : List String)
  | functionIds
  deriving DecidableEq, Repr

namespace TokenSet

def isFunctionCharacter (character : Char) : Bool :=
  character.isUpper || character.isDigit || character == filler

/-- A function id takes six bytes of capitals, digits and fillers, and is not all filler. -/
def isFunctionId (token : String) : Bool :=
  token.utf8ByteSize == Axis.functionId.width && token.toList.all isFunctionCharacter &&
    token.toList.any (· != filler)

def contains : TokenSet → String → Bool
  | listed tokens, token => tokens.contains token
  | functionIds, token => isFunctionId token

def tokens : TokenSet → List String
  | listed tokens => tokens
  | functionIds => []

def isOpen : TokenSet → Bool
  | listed _ => false
  | functionIds => true

end TokenSet

namespace Installation

def normal : String := "H-"

def feintDummy : String := "HB"

end Installation

private def battleDimensions : Scheme → List String
  | .intelligence => ["P", "A", "G", "S", "U", "X", "Z"]
  | _ => ["P", "A", "G", "S", "U", "F", "X", "Z"]

private def categories : Scheme → List String
  | .tacticalGraphics => ["T", "G", "M", "F", "S", "O"]
  | .stabilityOperations => ["V", "L", "O", "I", "P", "G", "R"]
  | .emergencyManagement => ["I", "N", "O", "F"]
  | .warfighting | .metoc | .intelligence => []

private def statuses : Scheme → List String
  | .warfighting | .intelligence | .stabilityOperations => ["A", "P", "C", "D", "X", "F"]
  | .tacticalGraphics | .metoc => ["A", "S", "P", "K"]
  | .emergencyManagement => ["A", "P"]

private def ordersOfBattle : Scheme → List String
  | .tacticalGraphics => ["X"]
  | .metoc => []
  | _ => ["A", "E", "C", "G", "N", "S"]

def legalTokens (axis : Axis) (scheme : Scheme) : TokenSet :=
  match axis with
  | .scheme => .listed ["S", "G", "W", "I", "O", "E"]
  | .standardIdentity =>
      .listed ["P", "U", "A", "F", "N", "S", "H", "G", "W", "M", "D", "L", "J", "K"]
  | .battleDimension => .listed (battleDimensions scheme)
  | .category => .listed (categories scheme)
  | .status => .listed (statuses scheme)
  | .functionId => .functionIds
  | .unitEquipment => .listed ["A", "B", "C", "D", "E", "F", "G"]
  | .echelon => .listed ["A", "B", "C", "D", "E", "F", "G", "H", "I", "J", "K", "L", "M", "N"]
  | .installation => .listed [Installation.normal, Installation.feintDummy]
  | .mobility => .listed ["MO", "MP", "MQ", "MR", "MS", "MT", "MU", "MV", "MW", "MX", "MY"]
  | .auxiliaryEquipment => .listed ["NS", "NL"]
  | .country => .listed Country.codes
  | .orderOfBattle => .listed (ordersOfBattle scheme)

/-- Whether the axis takes the token under the scheme. Letter case counts. -/
def isLegal (axis : Axis) (token : String) (scheme : Scheme) : Bool :=
  (legalTokens axis scheme).contains token

/-- The axes whose tokens are not the same under every scheme. -/
def Axis.dependsOnScheme : Axis → Bool
  | .battleDimension | .category | .status | .orderOfBattle => true
  | _ => false

/-- Every listed token of an axis under some scheme, each once, in the order of first listing. -/
def anyLegalTokens (axis : Axis) : List String :=
  (Scheme.all.flatMap (fun scheme => (legalTokens axis scheme).tokens)).eraseDups

end TacticalSymbols

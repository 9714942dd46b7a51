import TacticalSymbols.Catalog.Basic

/-!
The graphic types that every catalog of the standard set starts with.
-/

namespace TacticalSymbols.Catalog

def unitModifiers : List Modifier :=
  [.feintDummy, .headquarters, .taskForce, .echelon, .installation, .mobility, .auxiliaryEquipment,
    .text, .additionalInformation, .quantity, .type, .directionOfMovement, .dateTime, .altitude]

def lineModifiers : List Modifier :=
  [.text, .hostileEnemy, .dateTime]

def areaModifiers : List Modifier :=
  [.text, .additionalInformation, .hostileEnemy, .dateTime]

def pointModifiers : List Modifier :=
  [.text, .additionalInformation, .altitude, .dateTime]

/-- A type whose id is the mask of its codes: a star stands where a position may hold anything. -/
def graphicType (scheme : Scheme) (dimension? : Option String) (functionId name : String)
    (geometry : Geometry) (points : PointRule) (modifiers : List Modifier) : Descriptor :=
  { id := scheme.token ++ "*" ++ dimension?.getD "*" ++ "*" ++ functionId
    name := name
    scheme := scheme
    dimension? := dimension?
    functionId := functionId
    geometry := geometry
    points := points
    modifiers := modifiers }

def lineType (scheme : Scheme) (dimension? : Option String) (functionId name : String)
    (modifiers : List Modifier) : Descriptor :=
  graphicType scheme dimension? functionId name .line (.atLeast 2) modifiers

def areaType (scheme : Scheme) (dimension? : Option String) (functionId name : String)
    (modifiers : List Modifier) : Descriptor :=
  graphicType scheme dimension? functionId name .area (.atLeast 3) modifiers

def pointType (scheme : Scheme) (dimension? : Option String) (functionId name : String)
    (modifiers : List Modifier) : Descriptor :=
  graphicType scheme dimension? functionId name .point (.exactly 1) modifiers

def standardTypes : List Descriptor :=
  [
    lineType .tacticalGraphics (some "G") "GLP---" "Phase Line" lineModifiers,
    lineType .tacticalGraphics (some "G") "GLB---" "Boundary" lineModifiers,
    lineType .tacticalGraphics (some "G") "GLF---" "Forward Line of Own Troops" [.hostileEnemy],
    lineType .tacticalGraphics (some "G") "GLC---" "Line of Contact" [.hostileEnemy],
    areaType .tacticalGraphics (some "G") "GAG---" "General Area" areaModifiers,
    areaType .tacticalGraphics (some "G") "GAA---" "Assembly Area" areaModifiers,
    pointType .tacticalGraphics (some "G") "GPRI--" "Point of Interest" pointModifiers,
    pointType .tacticalGraphics (some "G") "APP---" "Air Control Point" pointModifiers,
    pointType .tacticalGraphics (some "G") "APD---" "Down Aircrew Pickup Point" pointModifiers,
    lineType .tacticalGraphics (some "G") "ALC---" "Air Corridor" pointModifiers,
    graphicType .tacticalGraphics (some "G") "SLA---" "Ambush" .line (.exactly 3) [],
    lineType .tacticalGraphics (some "M") "OGL---" "Obstacle Line" lineModifiers,
    pointType .tacticalGraphics (some "M") "NZ----" "Nuclear Detonation Ground Zero" pointModifiers,
    pointType .tacticalGraphics (some "F") "PTS---" "Point Target" pointModifiers,
    lineType .tacticalGraphics (some "F") "LT----" "Linear Target" lineModifiers,
    areaType .tacticalGraphics (some "F") "AT----" "Area Target" areaModifiers,
    pointType .tacticalGraphics (some "S") "PX----" "Ambulance Exchange Point" pointModifiers,
    pointType .warfighting (some "G") "UCI---" "Infantry" unitModifiers,
    pointType .warfighting (some "G") "UCA---" "Armour" unitModifiers,
    pointType .warfighting (some "G") "UCF---" "Field Artillery" unitModifiers,
    pointType .warfighting (some "G") "EVAT--" "Tank" unitModifiers,
    pointType .warfighting (some "G") "IR----" "Raw Material Production/Storage" unitModifiers,
    pointType .warfighting (some "A") "MF----" "Military Fixed Wing" unitModifiers,
    pointType .warfighting (some "U") "S-----" "Submarine" unitModifiers,
    pointType .stabilityOperations (some "V") "A-----" "Arson/Fire" unitModifiers,
    pointType .emergencyManagement (some "I") "A-----" "Aviation Incident" unitModifiers,
    pointType .metoc none "PL----" "Low Pressure Center" [.text]
  ]

def standard : Catalog :=
  empty.insertAll standardTypes

end TacticalSymbols.Catalog

import DatapackAuthoring.Fault
import DatapackAuthoring.Value.Equality

namespace DatapackAuthoring

open Number

/-- Fails for a value that cannot be looked up in a set. -/
def Value.hashed (value : Value) : Except Fault Unit :=
  match value.unhashable? with
  | some type => .error (.unhashable type)
  | none => .ok ()

def Value.isAmong (value : Value) (words : List String) : Except Fault Bool := do
  value.hashed
  return value.asText?.any words.contains

/-- The numbers zero and one; no and yes are no numbers here. -/
def isSingleLimit : Value → Bool
  | .int n => n == 0 || n == 1
  | .float (.finite negative size) =>
    signedUnits negative size == 0 || signedUnits negative size == unitsPerOne
  | _ => false

def limitsToSingle (target : String) (limit : Value) : Bool :=
  (isSingleGlyph target && limit.isAbsent) || isSingleLimit limit

def Value.limitsToSingle (target limit : Value) : Except Fault Bool := do
  target.hashed
  return (target.asText?.any isSingleGlyph && limit.isAbsent) || isSingleLimit limit

def playerTypes : List String := ["minecraft:player", "player"]

def foreignTypes : List Value → Except Fault (List Value)
  | [] => .ok []
  | type :: rest => do
    let player ← type.isAmong playerTypes
    let others ← foreignTypes rest
    return if player then others else type :: others

/-- The first type that is not a player ends the search. -/
def onlyPlayerTypes : List Value → Except Fault Bool
  | [] => .ok true
  | type :: rest => do
    if ← type.isAmong playerTypes then onlyPlayerTypes rest else return false

end DatapackAuthoring

/-!
The five targets that select entities, their glyphs, and what each can match. A text that is one
of the glyphs counts as its target, whether or not it is still known as one.
-/
namespace DatapackAuthoring

inductive Target where
  | self
  | nearestPlayer
  | randomPlayer
  | allPlayers
  | allEntities
deriving DecidableEq

namespace Target

def glyph : Target → String
  | self => "@s"
  | nearestPlayer => "@p"
  | randomPlayer => "@r"
  | allPlayers => "@a"
  | allEntities => "@e"

def name : Target → String
  | self => "SELF"
  | nearestPlayer => "NEAREST_PLAYER"
  | randomPlayer => "RANDOM_PLAYER"
  | allPlayers => "ALL_PLAYERS"
  | allEntities => "ALL_ENTITIES"

def all : List Target := [self, nearestPlayer, randomPlayer, allPlayers, allEntities]

def isSingle : Target → Bool
  | self | nearestPlayer | randomPlayer => true
  | allPlayers | allEntities => false

def isPlayer : Target → Bool
  | nearestPlayer | randomPlayer | allPlayers => true
  | self | allEntities => false

def ofGlyph? (text : String) : Option Target := all.find? (·.glyph == text)

end Target

def isSingleGlyph (text : String) : Bool := (Target.ofGlyph? text).any Target.isSingle

def isPlayerGlyph (text : String) : Bool := (Target.ofGlyph? text).any Target.isPlayer

/-- What was written for a value: a text of its own, or a target that stands for its glyph. -/
inductive Wording where
  | free (text : String)
  | glyph (target : Target)
deriving DecidableEq

def Wording.text : Wording → String
  | free text => text
  | glyph target => target.glyph

end DatapackAuthoring

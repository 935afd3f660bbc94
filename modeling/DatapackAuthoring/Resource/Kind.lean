namespace DatapackAuthoring

inductive ResourceKind where
  | function
  | advancement
  | predicate
  | tag
  | lootTable
  | recipe
deriving DecidableEq

namespace ResourceKind

def directory : ResourceKind → String
  | function => "functions"
  | advancement => "advancements"
  | predicate => "predicates"
  | tag => "tags"
  | lootTable => "loot_tables"
  | recipe => "recipes"

def name : ResourceKind → String
  | function => "FUNCTION"
  | advancement => "ADVANCEMENT"
  | predicate => "PREDICATE"
  | tag => "TAG"
  | lootTable => "LOOT_TABLE"
  | recipe => "RECIPE"

def all : List ResourceKind := [function, advancement, predicate, tag, lootTable, recipe]

end ResourceKind

inductive TagType where
  | blocks
  | entityTypes
  | fluids
  | functions
  | items
  | gameEvents
deriving DecidableEq

namespace TagType

def directory : TagType → String
  | blocks => "blocks"
  | entityTypes => "entity_types"
  | fluids => "fluids"
  | functions => "functions"
  | items => "items"
  | gameEvents => "game_events"

def name : TagType → String
  | blocks => "BLOCKS"
  | entityTypes => "ENTITY_TYPES"
  | fluids => "FLUIDS"
  | functions => "FUNCTIONS"
  | items => "ITEMS"
  | gameEvents => "GAME_EVENTS"

def all : List TagType := [blocks, entityTypes, fluids, functions, items, gameEvents]

def ofDirectory? (text : String) : Option TagType := all.find? (·.directory == text)

end TagType

end DatapackAuthoring

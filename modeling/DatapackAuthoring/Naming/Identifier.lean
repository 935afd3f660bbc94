import DatapackAuthoring.Value.Basic
/-!
Identifiers of resources. An identifier that took its namespace from the default is implicit and
is written as its path alone; the host puts the namespace back.
-/
namespace DatapackAuthoring

structure Identifier where
  ns : String
  path : String
  explicit : Bool
deriving DecidableEq

namespace Identifier

def full (identifier : Identifier) : String := identifier.ns ++ ":" ++ identifier.path

def text (identifier : Identifier) : String :=
  if identifier.explicit then identifier.full else identifier.path

def toValue (identifier : Identifier) : Value :=
  .identifier (.text identifier.ns) (.text identifier.path) (.bool identifier.explicit)

end Identifier

end DatapackAuthoring

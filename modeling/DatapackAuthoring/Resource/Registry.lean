import DatapackAuthoring.Naming.Resolve
import DatapackAuthoring.Resource.Basic
import DatapackAuthoring.Selector.Capability
import DatapackAuthoring.Text.LowerCase
/-!
The registry: resources in the order of their registration, at most one for each kind, tag type
and full identifier. A bare name takes the default namespace, so it shares its key with the same
name written out.
-/
namespace DatapackAuthoring

inductive LogLine where
  | registered (kind full : String)
  | created (defaultNs defaultDirectory : String)
deriving DecidableEq

def LogLine.text : LogLine → String
  | registered kind full => "DEBUG packsmith.datapack.registry Registered " ++ kind ++ " " ++ full
  | created defaultNs defaultDirectory =>
    "DEBUG packsmith.datapack.datapack Datapack created (default namespace " ++
      Text.quote defaultNs ++ ", default directory " ++ Text.quote defaultDirectory ++ ")"

structure Key where
  kind : Value
  tagType : Value
  full : String

def Key.same (a b : Key) : Bool :=
  a.kind.coincides b.kind && a.tagType.coincides b.tagType && a.full == b.full

structure Registry where
  defaultNs : Value
  entries : List (Key × Resource)

structure Registration where
  registry : Registry
  log : List LogLine
  result : Except Fault Resource

namespace Registry

def empty (defaultNs : Value) : Registry := ⟨defaultNs, []⟩

def resources (registry : Registry) : List Resource := registry.entries.map Prod.snd

def size (registry : Registry) : Nat := registry.entries.length

/-- The full form of an identifier; a text is parsed first. -/
def fullOf (registry : Registry) (identifier : Value) : Except Fault String :=
  if identifier.asText?.isSome then
    (Identifier.parse identifier registry.defaultNs).map Identifier.full
  else identifier.fullName

def key (registry : Registry) (kind identifier tagType : Value) : Except Fault Key := do
  let full ← registry.fullOf identifier
  kind.hashed
  tagType.hashed
  return { kind, tagType, full }

def lookup (registry : Registry) (key : Key) : Option Resource :=
  (registry.entries.find? fun entry => entry.1.same key).map Prod.snd

def get (registry : Registry) (kind identifier tagType : Value) :
    Except Fault (Option Resource) := do
  let key ← registry.key kind identifier tagType
  return registry.lookup key

def contains (registry : Registry) : Value → Except Fault Bool
  | .resource kind identifier _ tagType => do
    let key ← registry.key kind identifier tagType
    return (registry.lookup key).isSome
  | _ => .ok false

def ofKind (registry : Registry) (kind : Value) : List Resource :=
  registry.resources.filter fun resource => resource.kind.same kind

def append (registry : Registry) (key : Key) (resource : Resource) : Registry :=
  { registry with entries := registry.entries ++ [(key, resource)] }

@[simp] theorem resources_append (registry : Registry) (key : Key) (resource : Resource) :
    (registry.append key resource).resources = registry.resources ++ [resource] := by
  simp [append, resources]

@[simp] theorem size_append (registry : Registry) (key : Key) (resource : Resource) :
    (registry.append key resource).size = registry.size + 1 := by
  simp [append, size]

def designation (resource : Resource) : Except Fault (String × String) := do
  let kind ← resource.kind.memberName
  let full ← resource.identifier.fullName
  return (Text.lowerCase kind, full)

/-- Adds a resource unless its key is taken. It is stored before the log line is made, so one
    that cannot be designated stays, although the registration fails. -/
def add (registry : Registry) (key : Key) (resource : Resource) : Registration :=
  if (registry.lookup key).isSome then
    match designation resource with
    | .ok (kind, full) => ⟨registry, [], .error (.duplicateResource kind full)⟩
    | .error fault => ⟨registry, [], .error fault⟩
  else
    match designation resource with
    | .ok (kind, full) => ⟨registry.append key resource, [.registered kind full], .ok resource⟩
    | .error fault => ⟨registry.append key resource, [], .error fault⟩

def registerResource (registry : Registry) (resource : Resource) : Registration :=
  match registry.key resource.kind resource.identifier resource.tagType with
  | .error fault => ⟨registry, [], .error fault⟩
  | .ok key => registry.add key resource

/-- Of other values a condition has a kind, though no identifier. -/
def register (registry : Registry) : Value → Registration
  | .resource kind identifier payload tagType =>
    registry.registerResource ⟨kind, identifier, payload, tagType⟩
  | .condition word subject =>
    ⟨registry, [], .error (.noAttribute (Value.condition word subject).typeName "identifier")⟩
  | other => ⟨registry, [], .error (.noAttribute other.typeName "kind")⟩

end Registry

end DatapackAuthoring

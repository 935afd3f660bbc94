import DatapackAuthoring.Resource.Registry
/-!
A catalog: a registry together with the resources that were successfully registered in it,
numbered in that order. Registrations change it, queries do not.
-/
namespace DatapackAuthoring

structure Catalog where
  registry : Registry
  made : List Resource

inductive Query where
  | get (kind identifier tagType : Value)
  | ofKind (kind : Value)
  | contains (value : Value)
  | listing
  | literal (value : Value)

inductive Answer where
  | base (context : Context)
  | identifier (identifier : Identifier)
  | resource (resource : Resource)
  | number (index : Option Nat)
  | names (full : List String)
  | flag (flag : Bool)
  /-- Kind, tag type and full identifier of each resource. -/
  | listing (rows : List (String × Option String × String))
  | text (text : String)

structure StepResult (State : Type) where
  state : State
  log : List LogLine
  result : Except Fault Answer

namespace Catalog

def empty (defaultNs : Value) : Catalog := ⟨.empty defaultNs, []⟩

def keyOf? (catalog : Catalog) (resource : Resource) : Option Key :=
  (catalog.registry.key resource.kind resource.identifier resource.tagType).toOption

/-- The number of the resource with the same key. One that stayed in the registry although its
    registration failed has none. -/
def numberOf (catalog : Catalog) (resource : Resource) : Except Fault Nat :=
  let index := (catalog.keyOf? resource).bind fun key =>
    catalog.made.findIdx? fun other => (catalog.keyOf? other).any key.same
  match index with
  | some index => .ok index
  | none => .error .noSuchIndex

def record (catalog : Catalog) (registration : Registration) : StepResult Catalog :=
  match registration.result with
  | .ok resource =>
    { state := ⟨registration.registry, catalog.made ++ [resource]⟩
      log := registration.log
      result := .ok (.resource resource) }
  | .error fault =>
    { state := ⟨registration.registry, catalog.made⟩
      log := registration.log
      result := .error fault }

def register (catalog : Catalog) (resource : Value) : StepResult Catalog :=
  catalog.record (catalog.registry.register resource)

def row (resource : Resource) : Except Fault (String × Option String × String) := do
  let kind ← resource.kind.memberName
  let type ←
    if resource.tagType.isTruthy then some <$> resource.tagType.memberName else pure none
  let full ← resource.identifier.fullName
  return (kind, type, full)

def answer (catalog : Catalog) : Query → Except Fault Answer
  | .get kind identifier tagType => do
    match ← catalog.registry.get kind identifier tagType with
    | none => return .number none
    | some resource => return .number (some (← catalog.numberOf resource))
  | .ofKind kind => do
    let names ← (catalog.registry.ofKind kind).mapM fun resource => resource.identifier.fullName
    return .names names
  | .contains value => do
    let found ← catalog.registry.contains value
    return .flag found
  | .listing => do
    let rows ← catalog.registry.resources.mapM row
    return .listing rows
  | .literal value => do
    let shown ← value.literal
    return .text shown

end Catalog

end DatapackAuthoring

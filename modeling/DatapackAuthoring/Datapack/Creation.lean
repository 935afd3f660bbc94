import DatapackAuthoring.Resource.Registry
/-!
The making of resources. A request says what is to be made; its content is converted first, then
its name is resolved under the context it is made in, then the resource is registered.
-/
namespace DatapackAuthoring

inductive Request where
  | function (commands : Value)
  | tag (type values replace : Value)
  /-- Advancements, predicates, loot tables and recipes take their content as it is. -/
  | data (kind : ResourceKind) (payload : Value)

structure Draft where
  kind : ResourceKind
  tagType : Option TagType
  payload : Value

def Draft.tagValue (draft : Draft) : Value :=
  match draft.tagType with
  | some t => .tagType t
  | none => .absent

def Draft.named (draft : Draft) (identifier : Identifier) : Resource :=
  { kind := .kind draft.kind, identifier := identifier.toValue, payload := draft.payload,
    tagType := draft.tagValue }

def commandLines (commands : Value) : Except Fault Value := do
  let commands ← commands.elements
  let lines ← commands.mapM Value.wording
  return .tuple (lines.map .ofWording)

def tagPayload (values replace : Value) : Except Fault Value := do
  let values ← values.elements
  let members ← values.mapM Value.tagMember
  return .map false [(.text "replace", replace), (.text "values", .list members)]

namespace Request

/-- Of two faults in a tag the type is reported before its values. -/
def draft : Request → Except Fault Draft
  | function commands => do
    let payload ← commandLines commands
    return ⟨.function, none, payload⟩
  | tag type values replace => do
    let type ← TagType.ofValue type
    let payload ← tagPayload values replace
    return ⟨.tag, some type, payload⟩
  | data kind payload => .ok ⟨kind, none, payload⟩

end Request

def Registry.create (registry : Registry) (context : Context) (name : Value) (request : Request) :
    Registration :=
  match request.draft with
  | .error fault => ⟨registry, [], .error fault⟩
  | .ok draft =>
    match context.resolve name with
    | .error fault => ⟨registry, [], .error fault⟩
    | .ok identifier => registry.registerResource (draft.named identifier)

end DatapackAuthoring

import DatapackAuthoring.Fault
import DatapackAuthoring.Resource.Kind
import DatapackAuthoring.Value.Plain
/-!
Resources and the entries of tags. A resource pairs an identifier with content that nobody looks
into. Its fields are taken as given, so each reading of one may find a value that lacks it.
-/
namespace DatapackAuthoring

structure Resource where
  kind : Value
  identifier : Value
  payload : Value
  /-- Absent except for tags. -/
  tagType : Value

namespace Resource

def toValue (resource : Resource) : Value :=
  .resource resource.kind resource.identifier resource.payload resource.tagType

def name (resource : Resource) : Written := resource.identifier.plain

end Resource

def Value.memberName : Value → Written
  | .kind k => .ok k.name
  | .tagType t => .ok t.name
  | .target t => .ok t.name
  | .resource _ name _ _ => name.plain
  | other => .error (.noAttribute other.typeName "name")

def Value.memberValue : Value → Except Fault Value
  | .kind k => .ok (.text k.directory)
  | .tagType t => .ok (.text t.directory)
  | .target t => .ok (.text t.glyph)
  | .condition _ subject => .ok subject
  | other => .error (.noAttribute other.typeName "value")

def Value.fullName : Value → Written
  | .identifier ns path _ => do
    let ns ← ns.plain
    let path ← path.plain
    return ns ++ ":" ++ path
  | other => .error (.noAttribute other.typeName "full")

def tagEntryJson (id required : Value) : Value :=
  if required.isTruthy then id
  else .map false [(.text "id", id), (.text "required", .bool false)]

def Value.tagMember : Value → Except Fault Value
  | .tagEntry id required => .ok (tagEntryJson id required)
  | other => other.wording.map .ofWording

theorem tagEntryJson_inj {id other required wanted : Value} (named : id.asText?.isSome = true)
    (otherNamed : other.asText?.isSome = true) :
    tagEntryJson id required = tagEntryJson other wanted ↔
      id = other ∧ required.isTruthy = wanted.isTruthy := by
  unfold tagEntryJson
  cases required.isTruthy <;> cases wanted.isTruthy
  · simp
  · suffices _ ≠ other by simpa
    rintro rfl
    cases otherNamed
  · suffices id ≠ _ by simpa
    rintro rfl
    cases named
  · simp

theorem Value.asText?_tagMember (value : Value)
    (single : ∀ id required, value ≠ .tagEntry id required) :
    value.tagMember.map asText? = value.plain.map some := by
  unfold tagMember
  split
  · exact absurd rfl (single _ _)
  · rw [← text_wording]
    cases value.wording with
    | error fault => rfl
    | ok wording => simp [Except.map]

def TagType.ofValue (value : Value) : Except Fault TagType :=
  match value with
  | .tagType t => .ok t
  | _ =>
    match value.asText?.bind TagType.ofDirectory? with
    | some t => .ok t
    | none => do
      let shown ← value.literal
      throw (.unknownTagType shown)

end DatapackAuthoring

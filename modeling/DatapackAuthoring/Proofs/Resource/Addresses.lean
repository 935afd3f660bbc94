import DatapackAuthoring.Proofs.Outcome
import DatapackAuthoring.Resource.Registry
/-!
Addresses of resources: a kind, a tag type and a full identifier. The registry finds its entries
by keys whose parts may be any values; where a resource has an address, its key is the address.
-/
namespace DatapackAuthoring

@[ext]
structure Address where
  kind : ResourceKind
  tagType : Option TagType
  full : String
deriving DecidableEq

namespace Address

def tagValue (address : Address) : Value :=
  match address.tagType with
  | some t => .tagType t
  | none => .absent

def kindWord (address : Address) : String := Text.lowerCase address.kind.name

def key (address : Address) : Key := ⟨.kind address.kind, address.tagValue, address.full⟩

theorem key_injective {first second : Address} (same : first.key = second.key) :
    first = second := by
  obtain ⟨kind, tagType, full⟩ := first
  obtain ⟨kind', tagType', full'⟩ := second
  simp only [key, Key.mk.injEq, Value.kind.injEq] at same
  obtain ⟨rfl, types, rfl⟩ := same
  cases tagType <;> cases tagType' <;> simp_all [tagValue]

end Address

/-- A resource whose kind is a kind, whose tag type is a tag type or absent, and whose identifier
    has a full form. -/
structure Addressed where
  resource : Resource
  address : Address
  kind_eq : resource.kind = .kind address.kind
  tagType_eq : resource.tagType = address.tagValue
  full_eq : resource.identifier.fullName = .ok address.full

namespace Value

def asKind? : Value → Option ResourceKind
  | kind k => some k
  | _ => none

def asOptionalTagType? : Value → Option (Option TagType)
  | absent => some none
  | tagType t => some (some t)
  | _ => none

/-- The address that three values ask for. There is none if they are no kind or no tag type. -/
def askedAddress? (kind tagType : Value) (full : String) : Option Address :=
  match kind.asKind?, tagType.asOptionalTagType? with
  | some kind, some tagType => some ⟨kind, tagType, full⟩
  | _, _ => none

theorem coincides_kind (k : ResourceKind) (value : Value) :
    (kind k).coincides value = (some k == value.asKind?) := by
  cases value with
  | kind l => exact Option.some_beq_some.symm
  | _ => rfl

end Value

theorem Address.coincides_tagValue (address : Address) (value : Value) :
    address.tagValue.coincides value = (some address.tagType == value.asOptionalTagType?) := by
  unfold tagValue
  cases address.tagType with
  | none => cases value <;> rfl
  | some t =>
    cases value with
    | tagType u => exact Option.some_beq_some.symm
    | _ => rfl

theorem Address.hashed_tagValue (address : Address) : address.tagValue.hashed = .ok () := by
  unfold tagValue
  cases address.tagType <;> rfl

@[simp] theorem Identifier.fullName_toValue (identifier : Identifier) :
    identifier.toValue.fullName = .ok identifier.full := rfl

@[simp] theorem Identifier.asText?_toValue (identifier : Identifier) :
    identifier.toValue.asText? = none := rfl

theorem Identifier.toValue_injective {first second : Identifier}
    (same : first.toValue = second.toValue) : first = second := by
  obtain ⟨ns, path, explicit⟩ := first
  obtain ⟨ns', path', explicit'⟩ := second
  simpa [toValue] using same

theorem Value.asText?_of_fullName {identifier : Value} {full : String}
    (named : identifier.fullName = .ok full) : identifier.asText? = none := by
  cases identifier with
  | identifier ns path explicit => rfl
  | _ => simp [fullName] at named

namespace Addressed

variable (entry : Addressed)

def key : Key := ⟨entry.resource.kind, entry.resource.tagType, entry.address.full⟩

theorem key_eq : entry.key = entry.address.key := by
  rw [key, Address.key, entry.kind_eq, entry.tagType_eq]

theorem same_key (kind tagType : Value) (full : String) :
    entry.key.same ⟨kind, tagType, full⟩ =
      (some entry.address == Value.askedAddress? kind tagType full) := by
  unfold Key.same key Value.askedAddress?
  rw [entry.kind_eq, entry.tagType_eq, Value.coincides_kind, Address.coincides_tagValue]
  cases kind.asKind? with
  | none => rfl
  | some k =>
    cases tagType.asOptionalTagType? with
    | none => simp
    | some t =>
      rw [Bool.eq_iff_iff]
      simp [Address.ext_iff, and_assoc]

theorem askedAddress?_self :
    Value.askedAddress? entry.resource.kind entry.resource.tagType entry.address.full =
      some entry.address := by
  rw [entry.kind_eq, entry.tagType_eq]
  unfold Value.askedAddress? Address.tagValue
  obtain ⟨kind, tagType, full⟩ := entry.address
  cases tagType <;> rfl

theorem same_key_self : entry.key.same entry.key = true := by
  refine (entry.same_key _ _ _).trans ?_
  rw [entry.askedAddress?_self, beq_self_eq_true]

theorem fullOf_identifier (registry : Registry) :
    registry.fullOf entry.resource.identifier = .ok entry.address.full := by
  rw [Registry.fullOf, Value.asText?_of_fullName entry.full_eq]
  exact entry.full_eq

theorem registry_key {registry : Registry} {name : Value}
    (named : registry.fullOf name = .ok entry.address.full) :
    registry.key entry.resource.kind name entry.resource.tagType = .ok entry.key := by
  have kindHashed : entry.resource.kind.hashed = .ok () := by
    rw [entry.kind_eq]
    rfl
  have typeHashed : entry.resource.tagType.hashed = .ok () := by
    rw [entry.tagType_eq, Address.hashed_tagValue]
  simp [Registry.key, named, kindHashed, typeHashed, key]

theorem designation_eq :
    Registry.designation entry.resource = .ok (entry.address.kindWord, entry.address.full) := by
  unfold Registry.designation
  rw [entry.kind_eq, entry.full_eq]
  rfl

theorem registerResource_taken {registry : Registry}
    (taken : (registry.lookup entry.key).isSome = true) :
    registry.registerResource entry.resource =
      ⟨registry, [], .error (.duplicateResource entry.address.kindWord entry.address.full)⟩ := by
  rw [Registry.registerResource, entry.registry_key (entry.fullOf_identifier registry)]
  simp only [Registry.add, if_pos taken, entry.designation_eq]

theorem registerResource_fresh {registry : Registry}
    (fresh : ¬(registry.lookup entry.key).isSome = true) :
    registry.registerResource entry.resource =
      ⟨registry.append entry.key entry.resource,
        [.registered entry.address.kindWord entry.address.full], .ok entry.resource⟩ := by
  rw [Registry.registerResource, entry.registry_key (entry.fullOf_identifier registry)]
  simp only [Registry.add, if_neg fresh, entry.designation_eq]

end Addressed

end DatapackAuthoring

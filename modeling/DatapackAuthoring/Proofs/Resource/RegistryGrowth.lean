import DatapackAuthoring.Datapack.Creation
import DatapackAuthoring.Proofs.Naming.WrittenIdentifiers
import DatapackAuthoring.Proofs.Resource.Addresses

namespace DatapackAuthoring

namespace Registry

structure GrowsTo (earlier later : Registry) : Prop where
  defaultNs_eq : later.defaultNs = earlier.defaultNs
  entries_prefix : earlier.entries <+: later.entries

namespace GrowsTo

theorem refl (registry : Registry) : registry.GrowsTo registry := ⟨rfl, List.prefix_rfl⟩

theorem trans {first second third : Registry} (early : first.GrowsTo second)
    (late : second.GrowsTo third) : first.GrowsTo third :=
  ⟨late.defaultNs_eq.trans early.defaultNs_eq, early.entries_prefix.trans late.entries_prefix⟩

variable {earlier later : Registry}

theorem fullOf_eq (grows : earlier.GrowsTo later) (identifier : Value) :
    later.fullOf identifier = earlier.fullOf identifier := by
  rw [fullOf, fullOf, grows.defaultNs_eq]

theorem key_eq (grows : earlier.GrowsTo later) (kind identifier tagType : Value) :
    later.key kind identifier tagType = earlier.key kind identifier tagType := by
  rw [key, key, grows.fullOf_eq]

theorem lookup_eq_some (grows : earlier.GrowsTo later) {key : Key} {resource : Resource}
    (found : earlier.lookup key = some resource) : later.lookup key = some resource := by
  obtain ⟨more, whole⟩ := grows.entries_prefix
  unfold lookup at found ⊢
  obtain ⟨entry, first, same⟩ := Option.map_eq_some_iff.mp found
  rw [← whole, List.find?_append, first]
  exact congrArg some same

/-- No later entry replaces one that is found, or hides it. -/
theorem get_eq_some (grows : earlier.GrowsTo later) {kind identifier tagType : Value}
    {resource : Resource} (found : earlier.get kind identifier tagType = .ok (some resource)) :
    later.get kind identifier tagType = .ok (some resource) := by
  obtain ⟨key, keyed, looked⟩ := bind_eq_ok_iff.mp found
  have stays := grows.lookup_eq_some (Except.ok.inj looked)
  rw [get, grows.key_eq, keyed, ok_bind, stays]
  rfl

end GrowsTo

variable (registry : Registry)

theorem growsTo_append (key : Key) (resource : Resource) :
    registry.GrowsTo (registry.append key resource) := ⟨rfl, List.prefix_append _ _⟩

theorem growsTo_add (key : Key) (resource : Resource) :
    registry.GrowsTo (registry.add key resource).registry := by
  unfold add
  split
  · split
    · exact .refl registry
    · exact .refl registry
  · split
    · exact registry.growsTo_append key resource
    · exact registry.growsTo_append key resource

theorem growsTo_registerResource (resource : Resource) :
    registry.GrowsTo (registry.registerResource resource).registry := by
  unfold registerResource
  split
  · exact .refl registry
  · exact registry.growsTo_add _ resource

theorem growsTo_register (value : Value) :
    registry.GrowsTo (registry.register value).registry := by
  cases value with
  | resource kind identifier payload tagType => exact registry.growsTo_registerResource _
  | _ => exact .refl registry

theorem growsTo_create (context : Context) (name : Value) (request : Request) :
    registry.GrowsTo (registry.create context name request).registry := by
  unfold create
  split
  · exact .refl registry
  · split
    · exact .refl registry
    · exact registry.growsTo_registerResource _

end Registry

def Draft.addressed (draft : Draft) (identifier : Identifier) : Addressed where
  resource := draft.named identifier
  address := ⟨draft.kind, draft.tagType, identifier.full⟩
  kind_eq := rfl
  tagType_eq := rfl
  full_eq := rfl

namespace Registry

variable {registry : Registry}

theorem lookup_append_key {key : Key} (reflexive : key.same key = true)
    (fresh : registry.lookup key = none) (resource : Resource) :
    (registry.append key resource).lookup key = some resource := by
  have first : (registry.entries.find? fun other => other.1.same key) = none :=
    Option.map_eq_none_iff.mp fresh
  unfold lookup append
  rw [List.find?_append, first]
  simp [reflexive]

theorem registerResource_eq_ok (entry : Addressed) {resource : Resource}
    (made : (registry.registerResource entry.resource).result = .ok resource) :
    resource = entry.resource ∧ registry.lookup entry.key = none ∧
      (registry.registerResource entry.resource).registry =
        registry.append entry.key entry.resource := by
  by_cases taken : (registry.lookup entry.key).isSome = true
  · rw [entry.registerResource_taken taken] at made
    cases made
  · rw [entry.registerResource_fresh taken] at made ⊢
    exact ⟨(Except.ok.inj made).symm, by simpa using taken, rfl⟩

theorem create_eq_ok {context : Context} {name : Value} {request : Request} {resource : Resource}
    (made : (registry.create context name request).result = .ok resource) :
    ∃ (draft : Draft) (identifier : Identifier), context.resolve name = .ok identifier ∧
      resource = draft.named identifier ∧
      registry.lookup (draft.addressed identifier).key = none ∧
      (registry.create context name request).registry =
        registry.append (draft.addressed identifier).key resource := by
  unfold create at made ⊢
  cases drafted : request.draft with
  | error fault => simp [drafted] at made
  | ok draft =>
    cases resolved : context.resolve name with
    | error fault => simp [drafted, resolved] at made
    | ok identifier =>
      simp only [drafted, resolved] at made ⊢
      obtain ⟨rfl, fresh, after⟩ := registerResource_eq_ok (draft.addressed identifier) made
      exact ⟨draft, identifier, rfl, rfl, fresh, after⟩

theorem fullOf_names {context : Context} {name : Value} {identifier : Identifier}
    (resolved : context.resolve name = .ok identifier)
    (aligned : registry.defaultNs = context.defaultNs) :
    ∀ s ∈ [.text identifier.text, .text identifier.full, identifier.toValue],
      registry.fullOf s = .ok identifier.full := by
  have yields := Context.yields_of_resolve resolved
  have short := Identifier.parse_text yields.accepted yields.implicit
  have full := Identifier.parse_full yields.accepted registry.defaultNs
  intro s member
  simp only [List.mem_cons, List.not_mem_nil, or_false] at member
  rcases member with rfl | rfl | rfl
  · -- The short name is the one that depends on the default namespace.
    simp [fullOf, aligned, short, Except.map]
  · rw [fullOf, Value.asText?_text, full]
    rfl
  · simp [fullOf]

theorem get_created {context : Context} {name : Value} {request : Request} {resource : Resource}
    (made : (registry.create context name request).result = .ok resource)
    (aligned : registry.defaultNs = context.defaultNs) :
    ∃ identifier : Identifier, resource.identifier = identifier.toValue ∧
      ∀ s ∈ [.text identifier.text, .text identifier.full, identifier.toValue],
        (registry.create context name request).registry.get resource.kind s resource.tagType =
          .ok (some resource) := by
  obtain ⟨draft, identifier, resolved, rfl, fresh, after⟩ := create_eq_ok made
  refine ⟨identifier, rfl, ?_⟩
  intro s member
  have grows := registry.growsTo_create context name request
  have named := (grows.fullOf_eq s).trans (fullOf_names resolved aligned s member)
  have keyed := (draft.addressed identifier).registry_key named
  have found : (registry.create context name request).registry.lookup
      (draft.addressed identifier).key = some (draft.named identifier) := by
    rw [after]
    exact lookup_append_key (draft.addressed identifier).same_key_self fresh _
  exact bind_eq_ok_iff.mpr ⟨_, keyed, congrArg Except.ok found⟩

end Registry

end DatapackAuthoring

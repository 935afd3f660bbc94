import DatapackAuthoring.Proofs.Resource.Addresses
/-!
What a registration can do. The resource gets its key, the key is looked up, the resource is
stored, and last the log line is made. A resource that has a key may still have no log line, and
then it stays behind although its registration failed. This cannot happen where the kind has a
name and the identifier is no text: what their key is made of is all that the log line needs.
-/
namespace DatapackAuthoring

namespace Resource

def keyIn (resource : Resource) (registry : Registry) : Except Fault Key :=
  registry.key resource.kind resource.identifier resource.tagType

/-- The resource has no key, or its key is taken. -/
def NoFreeKey (resource : Resource) (registry : Registry) : Prop :=
  ∀ key, resource.keyIn registry = .ok key → (registry.lookup key).isSome = true

structure Nameable (resource : Resource) : Prop where
  kind_named : ∃ name, resource.kind.memberName = .ok name
  identifier_not_text : resource.identifier.asText? = none

end Resource

inductive Registration.Way (registry : Registry) (resource : Resource) : Registration → Prop where
  | unkeyed {fault : Fault} (bad : resource.keyIn registry = .error fault) :
      Way registry resource ⟨registry, [], .error fault⟩
  | taken {key : Key} {fault : Fault} (own : resource.keyIn registry = .ok key)
      (found : (registry.lookup key).isSome = true) :
      Way registry resource ⟨registry, [], .error fault⟩
  | stored {key : Key} {kind full : String} (own : resource.keyIn registry = .ok key)
      (fresh : registry.lookup key = none)
      (designated : Registry.designation resource = .ok (kind, full)) :
      Way registry resource
        ⟨registry.append key resource, [.registered kind full], .ok resource⟩
  | leftBehind {key : Key} {fault : Fault} (own : resource.keyIn registry = .ok key)
      (fresh : registry.lookup key = none)
      (undesignated : Registry.designation resource = .error fault) :
      Way registry resource ⟨registry.append key resource, [], .error fault⟩

theorem Registry.way_registerResource (registry : Registry) (resource : Resource) :
    Registration.Way registry resource (registry.registerResource resource) := by
  unfold registerResource
  cases own : registry.key resource.kind resource.identifier resource.tagType with
  | error fault => exact .unkeyed own
  | ok key =>
    simp only [add]
    cases found : registry.lookup key with
    | some other =>
      have taken : (registry.lookup key).isSome = true := by rw [found]; rfl
      rw [Option.isSome_some, if_pos rfl]
      split
      · exact .taken own taken
      · exact .taken own taken
    | none =>
      rw [Option.isSome_none, if_neg Bool.false_ne_true]
      split
      · exact .stored own found ‹_›
      · exact .leftBehind own found ‹_›

/- Keys of what is registered. -/

theorem Value.coincides_kind_iff (value : Value) (k : ResourceKind) :
    value.coincides (kind k) = true ↔ value = kind k := by
  cases value with
  | kind l => simp [coincides, atomsCoincide]
  | float x => cases x <;> exact iff_of_false Bool.false_ne_true nofun
  | _ => exact iff_of_false Bool.false_ne_true nofun

theorem Address.coincides_tagValue_iff (value : Value) (address : Address) :
    value.coincides address.tagValue = true ↔ value = address.tagValue := by
  unfold tagValue
  cases address.tagType with
  | none =>
    cases value with
    | absent => exact iff_of_true rfl rfl
    | float x => cases x <;> exact iff_of_false Bool.false_ne_true nofun
    | _ => exact iff_of_false Bool.false_ne_true nofun
  | some t =>
    cases value with
    | tagType u => simp [Value.coincides, Value.atomsCoincide]
    | float x => cases x <;> exact iff_of_false Bool.false_ne_true nofun
    | _ => exact iff_of_false Bool.false_ne_true nofun

/-- Keys may be made of any values, but only one coincides with the key of an address. -/
theorem Address.same_key_iff (address : Address) (key : Key) :
    key.same address.key = true ↔ key = address.key := by
  obtain ⟨kind, tagType, full⟩ := key
  simp only [Key.same, Address.key, Bool.and_eq_true, beq_iff_eq, Key.mk.injEq, and_assoc]
  rw [Value.coincides_kind_iff, Address.coincides_tagValue_iff]

theorem Addressed.same_key_iff (entry : Addressed) (key : Key) :
    key.same entry.key = true ↔ key = entry.key := by
  rw [entry.key_eq, entry.address.same_key_iff]

namespace Registry

def Keyed (registry : Registry) : Prop :=
  ∀ entry ∈ registry.entries, entry.2.keyIn registry = .ok entry.1

def Holds (registry : Registry) (key : Key) : Prop :=
  ∃ resource ∈ registry.resources, resource.keyIn registry = .ok key

theorem keyed_empty (defaultNs : Value) : (empty defaultNs).Keyed := by
  intro entry member
  cases member

namespace Keyed

variable {registry : Registry}

theorem append (keyed : registry.Keyed) {resource : Resource} {key : Key}
    (own : resource.keyIn registry = .ok key) : (registry.append key resource).Keyed := by
  intro entry member
  rcases List.mem_append.mp member with old | final
  · exact keyed entry old
  · rw [List.mem_singleton.mp final]
    exact own

theorem registerResource (keyed : registry.Keyed) (resource : Resource) :
    (registry.registerResource resource).registry.Keyed := by
  have way := registry.way_registerResource resource
  generalize registry.registerResource resource = after at way ⊢
  cases way with
  | unkeyed bad => exact keyed
  | taken own found => exact keyed
  | stored own fresh designated => exact keyed.append own
  | leftBehind own fresh undesignated => exact keyed.append own

theorem register (keyed : registry.Keyed) (value : Value) :
    (registry.register value).registry.Keyed := by
  cases value with
  | resource kind identifier payload tagType => exact keyed.registerResource _
  | _ => exact keyed

theorem lookup_isSome_iff (keyed : registry.Keyed) (entry : Addressed) :
    (registry.lookup entry.key).isSome = true ↔ registry.Holds entry.key := by
  unfold lookup
  rw [Option.isSome_map, List.find?_isSome]
  constructor
  · rintro ⟨other, member, same⟩
    rw [entry.same_key_iff] at same
    exact ⟨other.2, List.mem_map_of_mem member, same ▸ keyed other member⟩
  · rintro ⟨resource, member, own⟩
    obtain ⟨other, inside, rfl⟩ := List.mem_map.mp member
    have same : other.1 = entry.key := Except.ok.inj ((keyed other inside).symm.trans own)
    exact ⟨other, inside, (entry.same_key_iff _).mpr same⟩

end Keyed

end Registry

/- All or nothing. -/

/-- The resource was added at the end and returned, or nothing was changed. -/
def AllOrNothing (before : Registry) (resource : Resource) (after : Registration) : Prop :=
  (after.result = .ok resource ∧
    ∃ key, resource.keyIn before = .ok key ∧ after.registry = before.append key resource) ∨
  (∃ fault, after.result = .error fault ∧ after.registry = before)

namespace Registration

variable {registry : Registry} {resource : Resource}

theorem designated_of_nameable (nameable : resource.Nameable) {key : Key}
    (own : resource.keyIn registry = .ok key) :
    ∃ kind full, Registry.designation resource = .ok (kind, full) := by
  obtain ⟨name, named⟩ := nameable.kind_named
  obtain ⟨full, found, -⟩ := bind_eq_ok_iff.mp own
  have fullName : resource.identifier.fullName = .ok full := by
    simpa [Registry.fullOf, nameable.identifier_not_text] using found
  exact ⟨Text.lowerCase name, full, by simp [Registry.designation, named, fullName]⟩

theorem nameable_of_designated {kind full : String}
    (designated : Registry.designation resource = .ok (kind, full)) : resource.Nameable := by
  obtain ⟨name, named, rest⟩ := bind_eq_ok_iff.mp designated
  obtain ⟨whole, fullName, -⟩ := bind_eq_ok_iff.mp rest
  exact ⟨⟨name, named⟩, Value.asText?_of_fullName fullName⟩

theorem append_ne_self (key : Key) : registry.append key resource ≠ registry := by
  intro same
  have longer := congrArg Registry.size same
  rw [Registry.size_append] at longer
  omega

theorem Way.allOrNothing_iff {after : Registration} (way : Way registry resource after) :
    AllOrNothing registry resource after ↔ resource.Nameable ∨ resource.NoFreeKey registry := by
  cases way with
  | unkeyed bad =>
    refine iff_of_true (.inr ⟨_, rfl, rfl⟩) (.inr ?_)
    intro key own
    simp [bad] at own
  | taken own found =>
    refine iff_of_true (.inr ⟨_, rfl, rfl⟩) (.inr ?_)
    intro other otherwise
    rwa [← Except.ok.inj (own.symm.trans otherwise)]
  | stored own fresh designated =>
    exact iff_of_true (.inl ⟨rfl, _, own, rfl⟩) (.inl (nameable_of_designated designated))
  | leftBehind own fresh undesignated =>
    refine iff_of_false ?_ ?_
    · rintro (⟨made, -⟩ | ⟨fault, -, same⟩)
      · cases made
      · exact append_ne_self _ same
    · rintro (nameable | unfree)
      · obtain ⟨kind, full, designated⟩ := designated_of_nameable nameable own
        simp [undesignated] at designated
      · simpa [fresh] using unfree _ own

theorem Way.allOrNothing_or {after : Registration} (way : Way registry resource after) :
    AllOrNothing registry resource after ∨
      ∃ key fault, resource.keyIn registry = .ok key ∧
        after = ⟨registry.append key resource, [], .error fault⟩ := by
  cases way with
  | unkeyed bad => exact .inl (.inr ⟨_, rfl, rfl⟩)
  | taken own found => exact .inl (.inr ⟨_, rfl, rfl⟩)
  | stored own fresh designated => exact .inl (.inl ⟨rfl, _, own, rfl⟩)
  | leftBehind own fresh undesignated => exact .inr ⟨_, _, own, rfl⟩

end Registration

/-- A registration adds the resource and returns it or changes nothing, if the kind has a name and
    the identifier is no text, and also if the resource has no key that is free. In all other
    cases it fails and leaves the resource behind, at the end of what was there before. -/
theorem registration_all_or_nothing_iff (registry : Registry) (resource : Resource) :
    let after := registry.register resource.toValue
    (AllOrNothing registry resource after ↔
      resource.Nameable ∨ resource.NoFreeKey registry) ∧
    (AllOrNothing registry resource after ∨
      ∃ key fault, resource.keyIn registry = .ok key ∧
        after = ⟨registry.append key resource, [], .error fault⟩) := by
  intro after
  have way : Registration.Way registry resource after := registry.way_registerResource resource
  exact ⟨way.allOrNothing_iff, way.allOrNothing_or⟩

/-- A function whose identifier is a text is parsed for its key. It is refused for its lack of a
    full form, and yet it is in the registry afterwards. -/
theorem textual_identifier_left_behind :
    let registry := Registry.empty (.text "minecraft")
    let resource : Resource := ⟨.kind .function, .text "a:b", .absent, .absent⟩
    let after := registry.register resource.toValue
    after.result = .error (.noAttribute "str" "full") ∧ after.registry.size = 1 ∧
      ¬AllOrNothing registry resource after := by
  intro registry resource after
  refine ⟨rfl, rfl, ?_⟩
  rintro (⟨made, -⟩ | ⟨fault, -, same⟩)
  · cases made
  · exact Registration.append_ne_self _ same

end DatapackAuthoring

import DatapackAuthoring.Proofs.Resource.Ledger
/-!
The registry against the ledger. The two machines stay in step: every command gets one response
from both, and leaves the registry with the entries of the ledger under their keys.
-/
namespace DatapackAuthoring

theorem Ledger.at?_eq_some_iff {ledger : Ledger} (apart : ledger.addresses.Nodup)
    (address : Address) (resource : Resource) :
    ledger.at? address = some resource ↔
      ∃ entry ∈ ledger, entry.address = address ∧ entry.resource = resource := by
  -- On the entries: either the first is at the address and no later one is, or it is skipped.
  induction ledger with
  | nil => simp [at?]
  | cons first rest ih =>
    obtain ⟨fresh, apart⟩ : first.address ∉ addresses rest ∧ (addresses rest).Nodup :=
      List.nodup_cons.mp apart
    by_cases here : first.address = address
    · have nowhere : ∀ entry ∈ rest, entry.address ≠ address := by
        intro entry member other
        exact fresh (here ▸ other ▸ List.mem_map_of_mem member)
      constructor
      · intro found
        refine ⟨first, by simp, here, ?_⟩
        simpa [at?, here] using found
      · rintro ⟨entry, member, same, rfl⟩
        rcases List.mem_cons.mp member with rfl | later
        · simp [at?, here]
        · exact absurd same (nowhere entry later)
    · have skipped : at? (first :: rest) address = at? rest address := by simp [at?, here]
      rw [skipped, ih apart]
      simp [here]

namespace Registry

def perform (registry : Registry) : Command → Registry × Response
  | .register entry =>
    let registration := registry.register entry.resource.toValue
    (registration.registry, ⟨registration.log, registration.result.map .registered⟩)
  | .get kind identifier tagType =>
    (registry, ⟨[], (registry.get kind identifier tagType).map .found⟩)
  | .ofKind kind => (registry, ⟨[], .ok (.resources (registry.ofKind kind))⟩)
  | .contains value => (registry, ⟨[], (registry.contains value).map .flag⟩)
  | .listing => (registry, ⟨[], .ok (.resources registry.resources)⟩)
  | .size => (registry, ⟨[], .ok (.number registry.size)⟩)

/-- The registry holds the entries of a ledger in their order, no two at one address. -/
structure Represents (registry : Registry) (defaultNs : Value) (ledger : Ledger) : Prop where
  defaultNs_eq : registry.defaultNs = defaultNs
  entries_eq : registry.entries = ledger.map fun entry => (entry.key, entry.resource)
  apart : ledger.addresses.Nodup

theorem represents_empty (defaultNs : Value) : (empty defaultNs).Represents defaultNs [] :=
  ⟨rfl, rfl, List.nodup_nil⟩

namespace Represents

variable {registry : Registry} {defaultNs : Value} {ledger : Ledger}

theorem resources_eq (same : registry.Represents defaultNs ledger) :
    registry.resources = ledger.resources := by
  rw [resources, same.entries_eq, List.map_map]
  rfl

theorem size_eq (same : registry.Represents defaultNs ledger) :
    registry.size = ledger.length := by
  rw [size, same.entries_eq, List.length_map]

theorem lookup_eq (same : registry.Represents defaultNs ledger) (kind tagType : Value)
    (full : String) :
    registry.lookup ⟨kind, tagType, full⟩ =
      (Value.askedAddress? kind tagType full).bind ledger.at? := by
  unfold lookup Ledger.at?
  rw [same.entries_eq, List.find?_map, Option.map_map]
  simp only [Function.comp_def, Addressed.same_key]
  cases Value.askedAddress? kind tagType full with
  | none => simp
  | some address => simp [BEq.comm]

theorem get_eq (same : registry.Represents defaultNs ledger) (kind identifier tagType : Value) :
    registry.get kind identifier tagType = ledger.get defaultNs kind identifier tagType := by
  unfold get key fullOf Ledger.get Ledger.getIdentified
  rw [same.defaultNs_eq]
  cases text : identifier.asText? with
  | none => simp [same.lookup_eq]
  | some s =>
    cases Identifier.parse identifier defaultNs with
    | error fault => rfl
    | ok parsed => simp [Except.map, same.lookup_eq]

theorem contains_eq (same : registry.Represents defaultNs ledger) (value : Value) :
    registry.contains value = ledger.contains defaultNs value := by
  cases value with
  | resource kind identifier payload tagType =>
    show _ = (ledger.get defaultNs kind identifier tagType).map Option.isSome
    rw [← same.get_eq, get, contains]
    cases registry.key kind identifier tagType <;> rfl
  | _ => rfl

theorem ofKind_eq (same : registry.Represents defaultNs ledger) (kind : Value) :
    registry.ofKind kind = ledger.ofKind kind := by
  unfold ofKind Ledger.ofKind
  rw [same.resources_eq, Ledger.resources, Ledger.resources, List.filter_map]
  congr 2
  funext entry
  rw [Function.comp_apply, entry.kind_eq, Value.same, Value.coincides_kind]
  exact BEq.comm

theorem taken_iff (same : registry.Represents defaultNs ledger) (entry : Addressed) :
    (registry.lookup entry.key).isSome = true ↔ entry.address ∈ ledger.addresses := by
  rw [Addressed.key, same.lookup_eq, entry.askedAddress?_self]
  simp [Ledger.at?, Ledger.addresses]

theorem append (same : registry.Represents defaultNs ledger) (entry : Addressed)
    (fresh : entry.address ∉ ledger.addresses) :
    (registry.append entry.key entry.resource).Represents defaultNs (ledger ++ [entry]) := by
  constructor
  · exact same.defaultNs_eq
  · simp [Registry.append, same.entries_eq]
  · rw [Ledger.addresses, List.map_append, List.nodup_append]
    refine ⟨same.apart, by simp, ?_⟩
    rintro address member other final rfl
    obtain rfl : address = entry.address := by simpa using final
    exact fresh member

theorem register (same : registry.Represents defaultNs ledger) (entry : Addressed) :
    (registry.perform (.register entry)).2 = (ledger.register entry).2 ∧
      (registry.perform (.register entry)).1.Represents defaultNs (ledger.register entry).1 := by
  have asked : registry.register entry.resource.toValue =
      registry.registerResource entry.resource := rfl
  by_cases taken : entry.address ∈ ledger.addresses
  · have found := (same.taken_iff entry).mpr taken
    simp only [perform, asked, entry.registerResource_taken found, Ledger.register, if_pos taken]
    exact ⟨rfl, same⟩
  · have fresh : ¬(registry.lookup entry.key).isSome = true :=
      fun found => taken ((same.taken_iff entry).mp found)
    simp only [perform, asked, entry.registerResource_fresh fresh, Ledger.register, if_neg taken]
    exact ⟨rfl, same.append entry taken⟩

theorem step (same : registry.Represents defaultNs ledger) (command : Command) :
    (registry.perform command).2 = (ledger.perform defaultNs command).2 ∧
      (registry.perform command).1.Represents defaultNs (ledger.perform defaultNs command).1 := by
  cases command with
  | register entry => exact same.register entry
  | get kind identifier tagType =>
    refine ⟨?_, same⟩
    simp only [perform, Ledger.perform, same.get_eq]
  | ofKind kind =>
    refine ⟨?_, same⟩
    simp only [perform, Ledger.perform, same.ofKind_eq]
  | contains value =>
    refine ⟨?_, same⟩
    simp only [perform, Ledger.perform, same.contains_eq]
  | listing =>
    refine ⟨?_, same⟩
    simp only [perform, Ledger.perform, same.resources_eq]
  | size =>
    refine ⟨?_, same⟩
    simp only [perform, Ledger.perform, same.size_eq]

theorem run (same : registry.Represents defaultNs ledger) (commands : List Command) :
    (runCommands perform registry commands).2 =
        (runCommands (Ledger.perform defaultNs) ledger commands).2 ∧
      (runCommands perform registry commands).1.Represents defaultNs
        (runCommands (Ledger.perform defaultNs) ledger commands).1 := by
  -- Both machines move on, so the claim is for all states that represent each other.
  induction commands generalizing registry ledger with
  | nil => exact ⟨rfl, same⟩
  | cons first rest ih =>
    obtain ⟨response, next⟩ := same.step first
    obtain ⟨responses, last⟩ := ih next
    simp only [runCommands]
    exact ⟨by rw [response, responses], last⟩

end Represents

end Registry

/-- From the start, every run of commands gets the same responses from a registry as from a
    ledger. At the end the registry holds the resources of the ledger, no two of these have one
    address, and so each is what is found at its own. -/
theorem registry_runs_as_ledger (defaultNs : Value) (commands : List Command) :
    let registry := runCommands Registry.perform (.empty defaultNs) commands
    let ledger := runCommands (Ledger.perform defaultNs) [] commands
    registry.2 = ledger.2 ∧ registry.1.resources = ledger.1.resources ∧
      ledger.1.addresses.Nodup ∧
      ∀ address resource, ledger.1.at? address = some resource ↔
        ∃ entry ∈ ledger.1, entry.address = address ∧ entry.resource = resource := by
  obtain ⟨responses, same⟩ := (Registry.represents_empty defaultNs).run commands
  exact ⟨responses, same.resources_eq, same.apart, Ledger.at?_eq_some_iff same.apart⟩

end DatapackAuthoring

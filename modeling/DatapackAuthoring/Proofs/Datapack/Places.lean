import DatapackAuthoring.Proofs.Datapack.CreationOutcomes
import DatapackAuthoring.Proofs.Naming.ResolvedParts
/-!
Where the host puts a resource: under a kind, a tag type and a namespace, at a directory and a name
in it. A registry knows nothing but the text that the namespace and the path make up; since there
is no colon in a namespace and no slash in a segment, that text still tells all resources apart
that have different places.
-/
namespace DatapackAuthoring

structure Place where
  kind : ResourceKind
  tagType : Option TagType
  ns : String
  path : Directory
  plain : ':' ∉ ns.toList
deriving DecidableEq

namespace Place

def full (place : Place) : String := place.ns ++ ":" ++ place.path.text

def address (place : Place) : Address := ⟨place.kind, place.tagType, place.full⟩

def key (place : Place) : Key := place.address.key

theorem full_injective {first second : Place} (same : first.full = second.full) :
    first.ns = second.ns ∧ first.path = second.path := by
  have parts := splitNamespace_append first.plain first.path.text
  have others := splitNamespace_append second.plain second.path.text
  have cuts : splitNamespace first.full = splitNamespace second.full := by rw [same]
  rw [full, full, parts, others] at cuts
  simp only [Prod.mk.injEq, Option.some.injEq] at cuts
  exact ⟨cuts.1, Directory.text_injective cuts.2⟩

theorem key_injective {first second : Place} (same : first.key = second.key) :
    first = second := by
  have keys := Address.key_injective same
  simp only [address, Address.mk.injEq] at keys
  obtain ⟨kinds, types, texts⟩ := keys
  obtain ⟨names, paths⟩ := full_injective texts
  cases first
  cases second
  simp_all

end Place

namespace Request

/-- The place that a name stands for, if the content can be converted and the name resolves. -/
def place? (request : Request) (context : Context) (name : Value) : Option Place := do
  let draft ← request.draft.toOption
  let _ ← (context.resolve name).toOption
  let text ← name.asText?
  let ns ← (context.nsOf text).asText?
  if plain : ':' ∉ ns.toList then
    some ⟨draft.kind, draft.tagType, ns, context.directoryOfName text, plain⟩
  else none

/-- The resource that is made, unless its key is taken. -/
def resource? (request : Request) (context : Context) (name : Value) : Option Resource := do
  let draft ← request.draft.toOption
  let identifier ← (context.resolve name).toOption
  return draft.named identifier

variable {request : Request} {context : Context} {name : Value} {draft : Draft}
  {identifier : Identifier}

theorem exists_place_of_resolve (drafted : request.draft = .ok draft)
    (resolved : context.resolve name = .ok identifier) :
    ∃ place, request.place? context name = some place ∧
      place.address = (draft.addressed identifier).address := by
  obtain ⟨text, named, composes⟩ := Context.exists_composes_of_resolve resolved
  have plain := (Context.yields_of_resolve resolved).accepted.ns_no_colon
  refine ⟨⟨draft.kind, draft.tagType, identifier.ns, context.directoryOfName text, plain⟩, ?_, ?_⟩
  · simp [place?, drafted, resolved, named, composes.ns, plain, Except.toOption]
  · simp only [Place.address, Place.full, ← composes.path]
    rfl

theorem exists_of_place? {place : Place}
    (asked : request.place? context name = some place) :
    ∃ draft identifier, request.draft = .ok draft ∧ context.resolve name = .ok identifier := by
  unfold place? at asked
  cases drafted : request.draft with
  | error fault => simp [drafted, Except.toOption] at asked
  | ok draft =>
    cases resolved : context.resolve name with
    | error fault => simp [drafted, resolved, Except.toOption] at asked
    | ok identifier => exact ⟨draft, identifier, rfl, rfl⟩

theorem place?_isSome_iff : (request.place? context name).isSome = true ↔
    ∃ draft identifier, request.draft = .ok draft ∧ context.resolve name = .ok identifier := by
  constructor
  · intro some
    obtain ⟨place, asked⟩ := Option.isSome_iff_exists.mp some
    exact exists_of_place? asked
  · rintro ⟨draft, identifier, drafted, resolved⟩
    obtain ⟨place, asked, -⟩ := exists_place_of_resolve drafted resolved
    exact Option.isSome_iff_exists.mpr ⟨place, asked⟩

end Request

namespace Registry

variable (registry : Registry)

def keys : List Key := registry.entries.map Prod.fst

@[simp] theorem keys_append (key : Key) (resource : Resource) :
    (registry.append key resource).keys = registry.keys ++ [key] := by
  simp [append, keys]

theorem lookup_isSome_iff_mem (address : Address) :
    (registry.lookup address.key).isSome = true ↔ address.key ∈ registry.keys := by
  rw [lookup, keys, Option.isSome_map, List.find?_isSome, List.mem_map]
  simp only [address.same_key_iff]

theorem lookup_of_not_mem {place : Place} (free : place.key ∉ registry.keys) :
    registry.lookup place.key = none := by
  have missing := mt (registry.lookup_isSome_iff_mem place.address).mp free
  simpa [Place.key] using missing

theorem create_of_place? {request : Request} {context : Context} {name : Value}
    {place : Place} (asked : request.place? context name = some place) :
    ∃ resource, request.resource? context name = some resource ∧
      (place.key ∈ registry.keys → registry.create context name request =
        ⟨registry, [], .error (.duplicateResource place.address.kindWord place.full)⟩) ∧
      (place.key ∉ registry.keys → registry.create context name request =
        ⟨registry.append place.key resource,
          [.registered place.address.kindWord place.full], .ok resource⟩) := by
  obtain ⟨draft, identifier, drafted, resolved⟩ := Request.exists_of_place? asked
  obtain ⟨other, found, same⟩ := Request.exists_place_of_resolve drafted resolved
  obtain rfl : other = place := Option.some.inj (found.symm.trans asked)
  have created : registry.create context name request =
      registry.registerResource (draft.addressed identifier).resource := by
    simp only [create, drafted, resolved]
    rfl
  have keyed : (draft.addressed identifier).key = other.key := by
    rw [Addressed.key_eq, ← same, Place.key]
  have held := registry.lookup_isSome_iff_mem other.address
  rw [← Place.key, ← keyed] at held
  refine ⟨draft.named identifier, ?_, ?_, ?_⟩
  · simp [Request.resource?, drafted, resolved, Except.toOption]
  · intro taken
    rw [created, Addressed.registerResource_taken _ (held.mpr (keyed ▸ taken)), ← same]
    rfl
  · intro free
    rw [created, Addressed.registerResource_fresh _ fun found => free (keyed ▸ held.mp found),
      keyed, ← same]
    rfl

theorem create_of_no_place {request : Request} {context : Context} {name : Value}
    (nowhere : request.place? context name = none) :
    (registry.create context name request).registry = registry := by
  unfold create
  cases drafted : request.draft with
  | error fault => rfl
  | ok draft =>
    cases resolved : context.resolve name with
    | error fault => rfl
    | ok identifier =>
      obtain ⟨place, asked, -⟩ := Request.exists_place_of_resolve drafted resolved
      rw [nowhere] at asked
      cases asked

end Registry

end DatapackAuthoring

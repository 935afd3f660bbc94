import DatapackAuthoring.Proofs.Datapack.Collisions
import DatapackAuthoring.Proofs.Datapack.OpenedBases
/-!
Rendered names. A registry keeps full identifiers apart, while commands and tags carry the names,
and an implicit name leaves its namespace out. So two resources can be written alike, though only
if both are implicit, with one path under two default namespaces. A base path that is opened in the
datapack takes its default namespace from there; a second default has to be brought in.
-/
namespace DatapackAuthoring

theorem Identifier.full_eq_or_implicit {one other : Identifier}
    (accepted : Accepted one.ns one.path) (valid : Accepted other.ns other.path)
    (same : one.text = other.text) :
    one.full = other.full ∨
      (one.explicit = false ∧ other.explicit = false ∧ one.path = other.path) := by
  obtain ⟨ns, path, explicit⟩ := one
  obtain ⟨ns', path', explicit'⟩ := other
  have colon : ∀ first second : String, ':' ∈ (first ++ ":" ++ second).toList := by
    intro first second
    simp
  cases explicit <;> cases explicit'
  · exact .inr ⟨rfl, rfl, same⟩
  · rw [text_implicit, text_explicit] at same
    exact absurd (same ▸ colon ns' path') accepted.path_no_colon
  · rw [text_explicit, text_implicit] at same
    exact absurd (same ▸ colon ns path) valid.path_no_colon
  · exact .inl same

theorem Draft.tagValue_injective {one other : Draft} (same : one.tagValue = other.tagValue) :
    one.tagType = other.tagType := by
  unfold tagValue at same
  cases first : one.tagType <;> cases second : other.tagType <;> simp_all

theorem Resource.name_named (draft : Draft) (identifier : Identifier) :
    (draft.named identifier).name = .ok identifier.text := identifier.plain_toValue

theorem Registry.entries_create (registry : Registry) (context : Context) (name : Value)
    (request : Request) :
    (registry.create context name request).registry.entries = registry.entries ∨
    ∃ (draft : Draft) (identifier : Identifier), context.resolve name = .ok identifier ∧
      (registry.create context name request).registry.entries =
        registry.entries ++ [((draft.addressed identifier).key, draft.named identifier)] := by
  rcases registry.create_all_or_nothing context name request with
    ⟨fault, refused⟩ | ⟨key, resource, kind, full, made⟩
  · left
    rw [refused]
  · right
    have went : (registry.create context name request).result = .ok resource := by rw [made]
    obtain ⟨draft, identifier, resolved, rfl, -, after⟩ := create_eq_ok went
    exact ⟨draft, identifier, resolved, by rw [after]; rfl⟩

namespace Session

/-- The entry of a resource that was made under a base path: its identifier was accepted, and what
    it leaves out is the default namespace of a base path. -/
structure MadeAs (session : Session) (entry : Key × Resource) (draft : Draft)
    (identifier : Identifier) : Prop where
  key_eq : entry.1 = (draft.addressed identifier).key
  resource_eq : entry.2 = draft.named identifier
  accepted : Accepted identifier.ns identifier.path
  default_of_implicit : identifier.explicit = false →
    ∃ context ∈ session.bases, context.defaultNs.asText? = some identifier.ns

def AllMade (session : Session) : Prop :=
  ∀ entry ∈ session.catalog.registry.entries,
    ∃ draft identifier, session.MadeAs entry draft identifier

namespace AllMade

variable {session later : Session}

theorem of_grown (made : session.AllMade) (bases : session.bases <+: later.bases)
    (entries : later.catalog.registry.entries = session.catalog.registry.entries) :
    later.AllMade := by
  intro entry member
  obtain ⟨draft, identifier, as⟩ := made entry (entries ▸ member)
  refine ⟨draft, identifier, as.key_eq, as.resource_eq, as.accepted, ?_⟩
  intro implicit
  obtain ⟨context, known, default⟩ := as.default_of_implicit implicit
  exact ⟨context, bases.subset known, default⟩

theorem create (made : session.AllMade) {index : Nat} {context : Context}
    (known : session.base index = .ok context) (name : Value) (request : Request) :
    (session.step (.create index name request)).state.AllMade := by
  have bases := session.bases_create index name request
  have registry := registry_create known name request
  rcases session.catalog.registry.entries_create context name request with
    same | ⟨draft, identifier, resolved, longer⟩
  · exact made.of_grown (session.bases_prefix_step _) (by rw [registry, same])
  · have yields := Context.yields_of_resolve resolved
    intro entry member
    rw [registry, longer] at member
    rcases List.mem_append.mp member with old | final
    · obtain ⟨draft, identifier, as⟩ := made entry old
      exact ⟨draft, identifier, as.key_eq, as.resource_eq, as.accepted, bases ▸
        as.default_of_implicit⟩
    · obtain rfl := List.mem_singleton.mp final
      refine ⟨draft, identifier, rfl, rfl, yields.accepted, ?_⟩
      intro implicit
      exact ⟨context, bases ▸ mem_of_base known, yields.implicit implicit⟩

theorem step (made : session.AllMade) {step : Step} (inner : ∀ value, step ≠ .register value) :
    (session.step step).state.AllMade := by
  cases called : step.call? with
  | none =>
    have registry : (session.step step).state.catalog.registry = session.catalog.registry :=
      registry_of_no_call called inner
    exact made.of_grown (session.bases_prefix_step step) (by rw [registry])
  | some call =>
    obtain rfl := eq_step_of_call? called
    cases known : session.base call.base with
    | ok context => exact made.create known call.name call.request
    | error fault =>
      have unchanged : (session.step call.step).state = session := by
        simp [Call.step, Session.step, known]
      rwa [unchanged]

theorem run (made : session.AllMade) {steps : List Step}
    (inner : ∀ value, .register value ∉ steps) : (session.run steps).1.AllMade := by
  induction steps generalizing session with
  | nil => exact made
  | cons first rest ih =>
    simp only [List.mem_cons, not_or, forall_and] at inner
    exact ih (made.step fun value => Ne.symm (inner.1 value)) inner.2

end AllMade

theorem allMade_of_start {settings : Settings} {session : Session} {log : List LogLine}
    (started : start settings = .ok (session, log)) : session.AllMade := by
  rw [eq_of_start started]
  intro entry member
  cases member

/-- Two identifiers that are written alike and are not the same: both are implicit, with one path
    in the default namespaces of two base paths. -/
structure OneBareName (session : Session) (one other : Identifier) : Prop where
  implicit_one : one.explicit = false
  implicit_other : other.explicit = false
  path_eq : one.path = other.path
  ns_ne : one.ns ≠ other.ns
  default_one : ∃ context ∈ session.bases, context.defaultNs.asText? = some one.ns
  default_other : ∃ context ∈ session.bases, context.defaultNs.asText? = some other.ns

theorem oneBareName_of_name {session : Session} {entry others : Key × Resource}
    {draft sketch : Draft} {identifier counterpart : Identifier}
    (one : session.MadeAs entry draft identifier)
    (other : session.MadeAs others sketch counterpart) (apart : entry.1 ≠ others.1)
    (kinds : entry.2.kind = others.2.kind) (types : entry.2.tagType = others.2.tagType)
    (names : entry.2.name = others.2.name) : session.OneBareName identifier counterpart := by
  rw [one.resource_eq, other.resource_eq] at kinds types names
  rw [Resource.name_named, Resource.name_named] at names
  have kind : draft.kind = sketch.kind := Value.kind.inj kinds
  have type : draft.tagType = sketch.tagType := Draft.tagValue_injective types
  have full : identifier.full ≠ counterpart.full := by
    intro same
    apply apart
    rw [one.key_eq, other.key_eq, Addressed.key_eq, Addressed.key_eq]
    simp [Draft.addressed, kind, type, same]
  obtain ⟨implicit, bare, path⟩ :=
    (Identifier.full_eq_or_implicit one.accepted other.accepted (Except.ok.inj names)).resolve_left
      full
  refine ⟨implicit, bare, path, ?_, one.default_of_implicit implicit,
    other.default_of_implicit bare⟩
  intro ns
  exact full (by rw [Identifier.full, Identifier.full, ns, path])

theorem defaults_step {session : Session} {P : Value → Prop}
    (own : P (.text session.settings.defaultNs))
    (all : ∀ context ∈ session.bases, P context.defaultNs)
    {step : Step} (brought : ∀ context, step = .contextBase context → P context.defaultNs) :
    ∀ context ∈ (session.step step).state.bases, P context.defaultNs := by
  have opened : ∀ made : Except Fault Context,
      (∀ context, made = .ok context → P context.defaultNs) →
      ∀ context ∈ (session.opened made).state.bases, P context.defaultNs := by
    intro made new context member
    rw [bases_opened] at member
    rcases List.mem_append.mp member with old | final
    · exact all context old
    · cases made with
      | error fault => cases final
      | ok other =>
        obtain rfl : context = other := by simpa [Except.toOption] using final
        exact new context rfl
  cases step with
  | basePath ns directory =>
    apply opened
    intro context made
    rw [Context.defaultNs_make made]
    exact own
  | contextBase context =>
    apply opened
    intro other same
    obtain rfl : context = other := Except.ok.inj same
    exact brought context rfl
  | child index directory =>
    apply opened
    intro below made
    obtain ⟨context, known, extended⟩ := bind_eq_ok_iff.mp made
    rw [Context.defaultNs_child extended]
    exact all context (mem_of_base known)
  | getName index name => exact all
  | create index name request => rwa [bases_create]
  | register resource => exact all
  | ask query => exact all

theorem defaults_run {session : Session} {P : Value → Prop}
    (own : P (.text session.settings.defaultNs))
    (all : ∀ context ∈ session.bases, P context.defaultNs)
    {steps : List Step} (brought : ∀ context, .contextBase context ∈ steps → P context.defaultNs) :
    ∀ context ∈ (session.run steps).1.bases, P context.defaultNs := by
  induction steps generalizing session with
  | nil => exact all
  | cons first rest ih =>
    have here : ∀ context, first = .contextBase context → P context.defaultNs := by
      intro context same
      exact brought context (by simp [same])
    refine ih ?_ (defaults_step own all here) ?_
    · rwa [settings_step]
    · intro context member
      exact brought context (List.mem_cons_of_mem _ member)

theorem asText?_defaultNs_run {settings : Settings} {session : Session} {log : List LogLine}
    {steps : List Step} (started : start settings = .ok (session, log))
    (brought : ∀ context, .contextBase context ∈ steps →
      context.defaultNs.asText? = some settings.defaultNs) :
    ∀ context ∈ (session.run steps).1.bases,
      context.defaultNs.asText? = some settings.defaultNs := by
  obtain rfl := eq_of_start started
  refine defaults_run (P := fun default => default.asText? = some settings.defaultNs) rfl ?_ brought
  intro context member
  rw [List.mem_singleton.mp member]
  rfl

theorem not_oneBareName {session : Session} {defaultNs : String}
    (all : ∀ context ∈ session.bases, context.defaultNs.asText? = some defaultNs)
    (one other : Identifier) : ¬session.OneBareName one other := by
  have own : ∀ ns : String, (∃ context ∈ session.bases, context.defaultNs.asText? = some ns) →
      ns = defaultNs := by
    rintro ns ⟨context, known, default⟩
    exact Option.some.inj (default.symm.trans (all context known))
  intro bare
  exact bare.ns_ne ((own _ bare.default_one).trans (own _ bare.default_other).symm)

theorem pairwise_oneBareName {session : Session} (made : session.AllMade)
    (apart : session.catalog.registry.keys.Nodup) :
    session.catalog.registry.resources.Pairwise fun one other =>
      one.kind = other.kind → one.tagType = other.tagType → one.name = other.name →
        ∃ identifier counterpart : Identifier, one.identifier = identifier.toValue ∧
          other.identifier = counterpart.toValue ∧
          session.OneBareName identifier counterpart := by
  rw [Registry.resources, List.pairwise_map]
  refine List.Pairwise.imp_of_mem ?_ (List.pairwise_map.mp apart)
  intro entry others first second keys kinds types names
  obtain ⟨draft, identifier, one⟩ := made entry first
  obtain ⟨sketch, counterpart, other⟩ := made others second
  refine ⟨identifier, counterpart, ?_, ?_, oneBareName_of_name one other keys kinds types names⟩
  · rw [one.resource_eq]
    rfl
  · rw [other.resource_eq]
    rfl

end Session

/-- In a session that makes its resources under base paths, also under such as are brought in from
    outside, every resource has a name. Two of one kind and tag type share a name only if both are
    implicit, with one path in the default namespaces of two base paths. So no two do where each
    base path that is brought in has the default namespace of the datapack. -/
theorem rendered_names_apart_under_one_default (settings : Settings) (session : Session)
    (log : List LogLine) (steps : List Step)
    (started : Session.start settings = .ok (session, log))
    (inner : ∀ value, .register value ∉ steps) :
    let present := (session.run steps).1
    let resources := present.catalog.registry.resources
    (∀ resource ∈ resources, ∃ name, resource.name = .ok name) ∧
    (resources.Pairwise fun one other =>
      one.kind = other.kind → one.tagType = other.tagType → one.name = other.name →
        ∃ identifier counterpart : Identifier, one.identifier = identifier.toValue ∧
          other.identifier = counterpart.toValue ∧
          present.OneBareName identifier counterpart) ∧
    ((∀ context, .contextBase context ∈ steps →
        context.defaultNs.asText? = some settings.defaultNs) →
      resources.Pairwise fun one other =>
        one.kind = other.kind → one.tagType = other.tagType → one.name ≠ other.name) := by
  intro present resources
  have made : present.AllMade := (Session.allMade_of_start started).run inner
  have apart : present.catalog.registry.keys.Nodup :=
    Session.nodup_keys_run inner (by simp [Session.keys_of_start started])
  have shared := Session.pairwise_oneBareName made apart
  refine ⟨?_, shared, ?_⟩
  · intro resource member
    obtain ⟨entry, inside, rfl⟩ := List.mem_map.mp member
    obtain ⟨draft, identifier, as⟩ := made entry inside
    exact ⟨identifier.text, by rw [as.resource_eq, Resource.name_named]⟩
  · intro brought
    refine shared.imp ?_
    intro one other alike kinds types names
    obtain ⟨identifier, counterpart, -, -, bare⟩ := alike kinds types names
    exact Session.not_oneBareName (Session.asText?_defaultNs_run started brought) _ _ bare

theorem names_under_a_context_of_one_default :
    let session : Session :=
      ⟨⟨"pack", ""⟩, .empty (.text "pack"), [⟨.absent, .ofText "", .text "pack"⟩]⟩
    let hello : Request := .function (.list [.text "say hi"])
    let steps : List Step :=
      [.contextBase ⟨.absent, .ofText "lib", .text "pack"⟩, .create 0 (.text "go") hello,
        .create 1 (.text "go") hello]
    let resources := (session.run steps).1.catalog.registry.resources
    resources.map Resource.name = [.ok "go", .ok "lib/go"] ∧
      resources.Pairwise fun one other =>
        one.kind = other.kind → one.tagType = other.tagType → one.name ≠ other.name := by
  intro session hello steps resources
  have inner : ∀ value, .register value ∉ steps := by simp [steps]
  obtain ⟨-, -, apart⟩ :=
    rendered_names_apart_under_one_default ⟨"pack", ""⟩ session [.created "pack" ""] steps rfl inner
  have both : resources =
      [⟨.kind .function, .identifier (.text "pack") (.text "go") (.bool false),
          .tuple [.text "say hi"], .absent⟩,
        ⟨.kind .function, .identifier (.text "pack") (.text "lib/go") (.bool false),
          .tuple [.text "say hi"], .absent⟩] := rfl
  refine ⟨by rw [both]; rfl, apart ?_⟩
  intro context member
  obtain rfl : context = ⟨.absent, .ofText "lib", .text "pack"⟩ := by simpa [steps] using member
  rfl

/-- A base path is brought in whose context has another default namespace. A function made under it
    has the name of one that the root has made. -/
theorem two_functions_of_one_name :
    let session : Session :=
      ⟨⟨"minecraft", ""⟩, .empty (.text "minecraft"), [⟨.absent, .ofText "", .text "minecraft"⟩]⟩
    let hello : Request := .function (.list [.text "say hi"])
    let steps : List Step :=
      [.contextBase ⟨.absent, .empty, .text "other"⟩, .create 0 (.text "foo") hello,
        .create 1 (.text "foo") hello]
    let resources := (session.run steps).1.catalog.registry.resources
    Session.start ⟨"minecraft", ""⟩ = .ok (session, [.created "minecraft" ""]) ∧
      resources.map Resource.name = [.ok "foo", .ok "foo"] ∧
      ¬resources.Pairwise fun one other =>
        one.kind = other.kind → one.tagType = other.tagType → one.name ≠ other.name := by
  intro session hello steps resources
  have both : resources =
      [⟨.kind .function, .identifier (.text "minecraft") (.text "foo") (.bool false),
          .tuple [.text "say hi"], .absent⟩,
        ⟨.kind .function, .identifier (.text "other") (.text "foo") (.bool false),
          .tuple [.text "say hi"], .absent⟩] := rfl
  refine ⟨rfl, by rw [both]; rfl, ?_⟩
  intro apart
  rw [both] at apart
  exact List.rel_of_pairwise_cons apart (List.mem_singleton.mpr rfl) rfl rfl rfl

end DatapackAuthoring

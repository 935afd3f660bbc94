import DatapackAuthoring.Datapack.Session
import DatapackAuthoring.Proofs.Resource.RegistryGrowth
/-!
Names in a session. Commands, tags and other resources refer to a resource by its name alone, so
the name has to lead back to it for as long as the session lasts. One default namespace is kept in
three places, the settings, the registry and every base path; as long as these agree, what is
resolved under a base path is parsed the same way by the registry.
-/
namespace DatapackAuthoring

@[simp] theorem Catalog.registry_record (catalog : Catalog) (registration : Registration) :
    (catalog.record registration).state.registry = registration.registry := by
  unfold record
  cases registration.result <;> rfl

theorem Catalog.result_of_record {catalog : Catalog} {registration : Registration}
    {resource : Resource} (made : (catalog.record registration).result = .ok (.resource resource)) :
    registration.result = .ok resource := by
  unfold record at made
  cases answered : registration.result with
  | error fault => simp [answered] at made
  | ok other => simpa [answered] using made

theorem Context.defaultNs_make {ns directory defaultNs : Value} {context : Context}
    (made : Context.make ns directory defaultNs = .ok context) : context.defaultNs = defaultNs := by
  obtain ⟨segments, -, whole⟩ := bind_eq_ok_iff.mp made
  exact (Except.ok.inj whole) ▸ rfl

theorem Context.defaultNs_child {context below : Context} {directory : Value}
    (made : context.child directory = .ok below) : below.defaultNs = context.defaultNs := by
  obtain ⟨segments, -, whole⟩ := bind_eq_ok_iff.mp made
  exact (Except.ok.inj whole) ▸ rfl

namespace Session

theorem mem_of_base {session : Session} {index : Nat} {context : Context}
    (known : session.base index = .ok context) : context ∈ session.bases := by
  unfold base at known
  cases found : session.bases[index]? with
  | none => simp [found] at known
  | some other =>
    obtain rfl : other = context := by simpa [found] using known
    exact List.mem_of_getElem? found

@[simp] theorem catalog_opened (session : Session) (made : Except Fault Context) :
    (session.opened made).state.catalog = session.catalog := by
  cases made <;> rfl

theorem bases_create (session : Session) (index : Nat) (name : Value) (request : Request) :
    (session.step (.create index name request)).state.bases = session.bases := by
  simp only [step]
  split
  · rfl
  · rfl

theorem growsTo_step (session : Session) (step : Step) :
    session.catalog.registry.GrowsTo (session.step step).state.catalog.registry := by
  cases step with
  | basePath ns directory =>
    rw [Session.step, catalog_opened]
    exact .refl _
  | contextBase context => exact .refl _
  | child index directory =>
    rw [Session.step, catalog_opened]
    exact .refl _
  | getName index name => exact .refl _
  | create index name request =>
    cases known : session.base index with
    | error fault =>
      simp only [Session.step, known]
      exact .refl _
    | ok context =>
      simp only [Session.step, known, changed, Catalog.registry_record]
      exact session.catalog.registry.growsTo_create context name request
  | register resource =>
    simp only [Session.step, changed, Catalog.register, Catalog.registry_record]
    exact session.catalog.registry.growsTo_register resource
  | ask query => exact .refl _

theorem growsTo_run (session : Session) (steps : List Step) :
    session.catalog.registry.GrowsTo (session.run steps).1.catalog.registry := by
  induction steps generalizing session with
  | nil => exact .refl _
  | cons first rest ih => exact (session.growsTo_step first).trans (ih _)

structure Aligned (session : Session) (defaultNs : Value) : Prop where
  settings_eq : .text session.settings.defaultNs = defaultNs
  registry_eq : session.catalog.registry.defaultNs = defaultNs
  bases_eq : ∀ context ∈ session.bases, context.defaultNs = defaultNs

theorem aligned_of_start {settings : Settings} {session : Session} {log : List LogLine}
    (started : start settings = .ok (session, log)) :
    session.Aligned (.text settings.defaultNs) := by
  obtain ⟨root, rooted, whole⟩ := bind_eq_ok_iff.mp started
  obtain ⟨rfl, -⟩ := Prod.mk.inj (Except.ok.inj whole)
  refine ⟨rfl, rfl, ?_⟩
  intro context member
  obtain rfl := List.mem_singleton.mp member
  exact Context.defaultNs_make rooted

namespace Aligned

variable {session : Session} {defaultNs : Value}

theorem opened (aligned : session.Aligned defaultNs) {made : Except Fault Context}
    (agrees : ∀ context, made = .ok context → context.defaultNs = defaultNs) :
    (session.opened made).state.Aligned defaultNs := by
  cases made with
  | error fault => exact aligned
  | ok new =>
    refine ⟨aligned.settings_eq, aligned.registry_eq, ?_⟩
    intro context member
    rcases List.mem_append.mp member with old | final
    · exact aligned.bases_eq context old
    · rw [List.mem_singleton.mp final]
      exact agrees new rfl

theorem changed (aligned : session.Aligned defaultNs) {registration : Registration}
    (grows : session.catalog.registry.GrowsTo registration.registry) :
    (session.changed (session.catalog.record registration)).state.Aligned defaultNs := by
  refine ⟨aligned.settings_eq, ?_, aligned.bases_eq⟩
  rw [Session.changed, Catalog.registry_record, grows.defaultNs_eq]
  exact aligned.registry_eq

/-- A step keeps the three in agreement, unless a base path is brought in from outside. -/
theorem step (aligned : session.Aligned defaultNs) {step : Step}
    (inner : ∀ context, step ≠ .contextBase context) :
    (session.step step).state.Aligned defaultNs := by
  cases step with
  | basePath ns directory =>
    refine aligned.opened ?_
    intro context made
    rw [Context.defaultNs_make made, aligned.settings_eq]
  | contextBase context => exact absurd rfl (inner context)
  | child index directory =>
    refine aligned.opened ?_
    intro below made
    obtain ⟨context, known, extended⟩ := bind_eq_ok_iff.mp made
    rw [Context.defaultNs_child extended]
    exact aligned.bases_eq context (mem_of_base known)
  | getName index name => exact aligned
  | create index name request =>
    cases known : session.base index with
    | error fault =>
      simp only [Session.step, known]
      exact aligned
    | ok context =>
      simp only [Session.step, known]
      exact aligned.changed (Registry.growsTo_create _ context name request)
  | register resource => exact aligned.changed (Registry.growsTo_register _ resource)
  | ask query => exact aligned

theorem run (aligned : session.Aligned defaultNs) {steps : List Step}
    (inner : ∀ context, .contextBase context ∉ steps) :
    (session.run steps).1.Aligned defaultNs := by
  induction steps generalizing session with
  | nil => exact aligned
  | cons first rest ih =>
    have here : ∀ context, first ≠ .contextBase context := by
      intro context same
      exact inner context (by simp [same])
    have later : ∀ context, .contextBase context ∉ rest := by
      intro context member
      exact inner context (List.mem_cons_of_mem _ member)
    exact ih (aligned.step here) later

end Aligned

theorem get_of_create {session : Session} {defaultNs : Value} (aligned : session.Aligned defaultNs)
    {index : Nat} {name : Value} {request : Request} {resource : Resource}
    (made : (session.step (.create index name request)).result = .ok (.resource resource)) :
    ∃ identifier : Identifier, resource.identifier = identifier.toValue ∧
      ∀ s ∈ [.text identifier.text, .text identifier.full, identifier.toValue],
        (session.step (.create index name request)).state.catalog.registry.get resource.kind s
          resource.tagType = .ok (some resource) := by
  cases known : session.base index with
  | error fault => simp [step, known] at made
  | ok context =>
    simp only [step, known, changed, Catalog.registry_record] at made ⊢
    have agrees := aligned.bases_eq context (mem_of_base known)
    exact Registry.get_created (Catalog.result_of_record made)
      (aligned.registry_eq.trans agrees.symm)

end Session

theorem Identifier.plain_toValue (identifier : Identifier) :
    identifier.toValue.plain = .ok identifier.text := by
  obtain ⟨ns, path, explicit⟩ := identifier
  cases explicit <;> rfl

/-- In a session whose base paths come from the datapack and from each other, a resource that was
    made has a name and a full name, and from then on each of the two and its identifier lead the
    registry back to it, whatever happens afterwards. -/
theorem names_lead_back (settings : Settings) (session : Session) (log : List LogLine)
    (before after : List Step) (index : Nat) (name : Value) (request : Request)
    (resource : Resource)
    (started : Session.start settings = .ok (session, log))
    (inner : ∀ context, .contextBase context ∉ before)
    (made : ((session.run before).1.step (.create index name request)).result =
      .ok (.resource resource)) :
    let present := ((session.run before).1.step (.create index name request)).state
    ∃ short full, resource.name = .ok short ∧ resource.identifier.fullName = .ok full ∧
      ∀ s ∈ [.text short, .text full, resource.identifier],
        (present.run after).1.catalog.registry.get resource.kind s resource.tagType =
          .ok (some resource) := by
  have aligned := (Session.aligned_of_start started).run inner
  obtain ⟨identifier, same, found⟩ := Session.get_of_create aligned made
  refine ⟨identifier.text, identifier.full, ?_, ?_, ?_⟩
  · rw [Resource.name, same, Identifier.plain_toValue]
  · rw [same, Identifier.fullName_toValue]
  · -- What is found at once is found ever after, since the registry only grows.
    intro s member
    rw [same] at member
    exact (Session.growsTo_run _ after).get_eq_some (found s member)

theorem tool_leads_back :
    let session : Session :=
      ⟨⟨"pack", "lib"⟩, .empty (.text "pack"), [⟨.absent, .ofText "lib", .text "pack"⟩]⟩
    let request : Request := .function (.list [.text "say hi"])
    let resource : Resource :=
      ⟨.kind .function, .identifier (.text "pack") (.text "lib/tools/go") (.bool false),
        .tuple [.text "say hi"], .absent⟩
    let present := ((session.run [.child 0 (.text "/tools")]).1.step
      (.create 1 (.text "go") request)).state
    ∀ s ∈ [.text "lib/tools/go", .text "pack:lib/tools/go", resource.identifier],
      (present.run [.create 1 (.text "go") request]).1.catalog.registry.get (.kind .function) s
        .absent = .ok (some resource) := by
  intro session request resource present
  obtain ⟨short, full, named, fullyNamed, found⟩ :=
    names_lead_back ⟨"pack", "lib"⟩ session [.created "pack" "lib"] [.child 0 (.text "/tools")]
      [.create 1 (.text "go") request] 1 (.text "go") request resource rfl (by simp) rfl
  obtain rfl : "lib/tools/go" = short := Except.ok.inj named
  obtain rfl : "pack:lib/tools/go" = full := Except.ok.inj fullyNamed
  exact found

/- What functions and tags hold of what they list. -/

theorem lines_of_commandLines {commands payload : Value}
    (made : commandLines commands = .ok payload) :
    ∃ items lines, commands.elements = .ok items ∧ payload = .tuple lines ∧
      List.Forall₂ (fun item line => item.plain.map some = .ok line.asText?) items lines := by
  obtain ⟨items, walked, made⟩ := bind_eq_ok_iff.mp made
  obtain ⟨wordings, written, made⟩ := bind_eq_ok_iff.mp made
  refine ⟨items, wordings.map .ofWording, walked, (Except.ok.inj made).symm, ?_⟩
  rw [List.forall₂_map_right_iff]
  refine (forall₂_of_mapM written).imp ?_
  intro item wording worded
  rw [← Value.text_wording, worded, Value.asText?_ofWording]
  rfl

theorem members_of_tagPayload {values replace payload : Value}
    (made : tagPayload values replace = .ok payload) :
    ∃ items members, values.elements = .ok items ∧
      payload = .map false [(.text "replace", replace), (.text "values", .list members)] ∧
      List.Forall₂ (fun item member => item.tagMember = .ok member) items members := by
  obtain ⟨items, walked, made⟩ := bind_eq_ok_iff.mp made
  obtain ⟨members, listed, made⟩ := bind_eq_ok_iff.mp made
  exact ⟨items, members, walked, (Except.ok.inj made).symm, forall₂_of_mapM listed⟩

def Registry.LeadsTo (registry : Registry) (shown : Value) (resource : Resource) : Prop :=
  ∃ s, shown.asText? = some s ∧
    registry.get resource.kind (.text s) resource.tagType = .ok (some resource)

/-- Wherever a function or a tag lists a resource that was made before, it holds a text that leads
    back to the resource, then and later. -/
theorem listings_lead_back (settings : Settings) (session : Session) (log : List LogLine)
    (before after : List Step) (index : Nat) (name : Value) (request : Request)
    (resource : Resource)
    (started : Session.start settings = .ok (session, log))
    (inner : ∀ context, .contextBase context ∉ before)
    (made : ((session.run before).1.step (.create index name request)).result =
      .ok (.resource resource)) :
    let present := ((session.run before).1.step (.create index name request)).state
    let registry := (present.run after).1.catalog.registry
    (∀ commands payload, commandLines commands = .ok payload →
      ∃ items lines, commands.elements = .ok items ∧ payload = .tuple lines ∧
        List.Forall₂ (fun item line => item = resource.toValue → registry.LeadsTo line resource)
          items lines) ∧
    (∀ values replace payload, tagPayload values replace = .ok payload →
      ∃ items members, values.elements = .ok items ∧
        payload = .map false [(.text "replace", replace), (.text "values", .list members)] ∧
        List.Forall₂ (fun item member => item = resource.toValue →
          registry.LeadsTo member resource) items members) := by
  intro present registry
  have aligned := (Session.aligned_of_start started).run inner
  obtain ⟨identifier, same, found⟩ := Session.get_of_create aligned made
  have named : resource.toValue.plain = .ok identifier.text := by
    rw [← identifier.plain_toValue, ← same]
    rfl
  have leads {shown : Value} (text : shown.asText? = some identifier.text) :
      registry.LeadsTo shown resource :=
    ⟨_, text, (Session.growsTo_run _ after).get_eq_some (found _ (.head _))⟩
  constructor
  · intro commands payload converted
    obtain ⟨items, lines, walked, whole, each⟩ := lines_of_commandLines converted
    refine ⟨items, lines, walked, whole, each.imp ?_⟩
    rintro item line shown rfl
    rw [named] at shown
    exact leads (Except.ok.inj shown).symm
  · intro values replace payload converted
    obtain ⟨items, members, walked, whole, each⟩ := members_of_tagPayload converted
    refine ⟨items, members, walked, whole, each.imp ?_⟩
    rintro item member listed rfl
    have text := resource.toValue.asText?_tagMember (by simp [Resource.toValue])
    rw [named, listed] at text
    exact leads (Except.ok.inj text)

end DatapackAuthoring

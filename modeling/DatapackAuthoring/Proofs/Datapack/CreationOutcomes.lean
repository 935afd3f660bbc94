import DatapackAuthoring.Proofs.Datapack.NamesLeadBack
import DatapackAuthoring.Proofs.Resource.Registrations
/-!
What a creation can come to. Four things are asked of it, one after the other: a tag type that is
known, a content that can be converted, a name that resolves, and a key that no resource has. The
first that is missing is the fault, and then the session is what it was; otherwise the registry
has one resource more. What resolution lets through are two texts, so nothing can go wrong after
the resource is stored.
-/
namespace DatapackAuthoring

attribute [local instance (2000)] instPowNat

/- What stops the conversion of content: something that cannot be walked through, or the first of
its items that cannot be converted. -/

section Conversion

variable {values : Value} {fault : Fault}

theorem converted_eq_error_iff {α : Type} {convert : Value → Except Fault α} {whole : List α → Value} :
    (do
      let items ← values.elements
      let results ← items.mapM convert
      return whole results) = .error fault ↔
    values.elements = .error fault ∨
      ∃ before item after, values.elements = .ok (before ++ item :: after) ∧
        (∀ earlier ∈ before, ∃ result, convert earlier = .ok result) ∧
        convert item = .error fault := by
  cases values.elements with
  | error other => simp
  | ok items =>
    rw [ok_bind, bind_eq_error_iff, mapM_eq_error_iff]
    simp

theorem commandLines_eq_error_iff :
    commandLines values = .error fault ↔ values.elements = .error fault ∨
      ∃ before item after, values.elements = .ok (before ++ item :: after) ∧
        (∀ earlier ∈ before, ∃ text, earlier.plain = .ok text) ∧ item.plain = .error fault := by
  have written (item : Value) :
      (∃ text, item.plain = .ok text) ↔ ∃ wording, item.wording = .ok wording := by
    rw [← Value.text_wording]
    cases item.wording with
    | error fault => simp [Except.map]
    | ok wording => simp [Except.map]
  rw [commandLines, converted_eq_error_iff]
  simp only [written, Value.plain_eq_error_iff]

theorem tagPayload_eq_error_iff {replace : Value} :
    tagPayload values replace = .error fault ↔ values.elements = .error fault ∨
      ∃ before item after, values.elements = .ok (before ++ item :: after) ∧
        (∀ earlier ∈ before, ∃ member, earlier.tagMember = .ok member) ∧
        item.tagMember = .error fault :=
  converted_eq_error_iff

end Conversion

namespace Request

def kind : Request → ResourceKind
  | function _ => .function
  | tag .. => .tag
  | data kind _ => kind

def tagType : Request → Except Fault (Option TagType)
  | tag type _ _ => (TagType.ofValue type).map some
  | _ => .ok none

def payload : Request → Except Fault Value
  | function commands => commandLines commands
  | tag _ values replace => tagPayload values replace
  | data _ payload => .ok payload

theorem draft_eq (request : Request) :
    request.draft = do
      let type ← request.tagType
      let payload ← request.payload
      return ⟨request.kind, type, payload⟩ := by
  cases request with
  | function commands => rfl
  | tag type values replace =>
    simp only [draft, tagType, payload, kind]
    cases TagType.ofValue type with
    | error fault => rfl
    | ok type => rfl
  | data kind payload => rfl

end Request

/-- What a creation comes to in a registry, the first fault deciding. -/
inductive Creation (registry : Registry) (context : Context) (name : Value) (request : Request) :
    Except Fault Resource → Prop where
  | unknownTagType {fault : Fault} (type : request.tagType = .error fault) :
      Creation registry context name request (.error fault)
  | unconverted {type : Option TagType} {fault : Fault} (known : request.tagType = .ok type)
      (content : request.payload = .error fault) :
      Creation registry context name request (.error fault)
  | unnamed {type : Option TagType} {payload : Value} {fault : Fault}
      (known : request.tagType = .ok type) (converted : request.payload = .ok payload)
      (unresolved : context.resolve name = .error fault) :
      Creation registry context name request (.error fault)
  | duplicate {type : Option TagType} {payload : Value} {identifier : Identifier}
      (known : request.tagType = .ok type) (converted : request.payload = .ok payload)
      (resolved : context.resolve name = .ok identifier)
      (held : registry.Holds (Draft.addressed ⟨request.kind, type, payload⟩ identifier).key) :
      Creation registry context name request
        (.error (.duplicateResource (Text.lowerCase request.kind.name) identifier.full))
  | made {type : Option TagType} {payload : Value} {identifier : Identifier}
      (known : request.tagType = .ok type) (converted : request.payload = .ok payload)
      (resolved : context.resolve name = .ok identifier)
      (free : ¬registry.Holds (Draft.addressed ⟨request.kind, type, payload⟩ identifier).key) :
      Creation registry context name request
        (.ok (Draft.named ⟨request.kind, type, payload⟩ identifier))

theorem creation_unique {registry : Registry} {context : Context} {name : Value}
    {request : Request} {first second : Except Fault Resource}
    (one : Creation registry context name request first)
    (other : Creation registry context name request second) : first = second := by
  cases one <;> cases other <;> simp_all

namespace Registry

variable {registry : Registry}

theorem creation_create (keyed : registry.Keyed) (context : Context) (name : Value)
    (request : Request) :
    Creation registry context name request (registry.create context name request).result := by
  unfold create
  rw [request.draft_eq]
  cases known : request.tagType with
  | error fault => exact .unknownTagType known
  | ok type =>
    cases converted : request.payload with
    | error fault => exact .unconverted known converted
    | ok payload =>
      cases resolved : context.resolve name with
      | error fault => exact .unnamed known converted resolved
      | ok identifier =>
        let draft : Draft := ⟨request.kind, type, payload⟩
        have held := keyed.lookup_isSome_iff (draft.addressed identifier)
        simp only [ok_bind, pure_eq_ok]
        by_cases taken : (registry.lookup (draft.addressed identifier).key).isSome = true
        · have refused := (draft.addressed identifier).registerResource_taken taken
          rw [show registry.registerResource (draft.named identifier) = _ from refused]
          exact .duplicate known converted resolved (held.mp taken)
        · have stored := (draft.addressed identifier).registerResource_fresh taken
          rw [show registry.registerResource (draft.named identifier) = _ from stored]
          exact .made known converted resolved fun other => taken (held.mpr other)

/-- A creation leaves the registry alone and logs nothing, or adds one resource and logs one
    line. -/
theorem create_all_or_nothing (registry : Registry) (context : Context) (name : Value)
    (request : Request) :
    (∃ fault, registry.create context name request = ⟨registry, [], .error fault⟩) ∨
    ∃ key resource kind full, registry.create context name request =
      ⟨registry.append key resource, [.registered kind full], .ok resource⟩ := by
  unfold create
  cases request.draft with
  | error fault => exact .inl ⟨fault, rfl⟩
  | ok draft =>
    cases context.resolve name with
    | error fault => exact .inl ⟨fault, rfl⟩
    | ok identifier =>
      let entry := draft.addressed identifier
      by_cases taken : (registry.lookup entry.key).isSome = true
      · exact .inl ⟨_, entry.registerResource_taken taken⟩
      · exact .inr ⟨_, _, _, _, entry.registerResource_fresh taken⟩

theorem Keyed.create (keyed : registry.Keyed) (context : Context) (name : Value)
    (request : Request) : (registry.create context name request).registry.Keyed := by
  unfold Registry.create
  split
  · exact keyed
  · split
    · exact keyed
    · exact keyed.registerResource _

end Registry

namespace Session

theorem step_create {session : Session} {index : Nat} {context : Context}
    (known : session.base index = .ok context) (name : Value) (request : Request) :
    session.step (.create index name request) =
      session.changed
        (session.catalog.record (session.catalog.registry.create context name request)) := by
  simp only [step, known]

theorem registry_create {session : Session} {index : Nat} {context : Context}
    (known : session.base index = .ok context) (name : Value) (request : Request) :
    (session.step (.create index name request)).state.catalog.registry =
      (session.catalog.registry.create context name request).registry := by
  rw [step_create known, changed, Catalog.registry_record]

theorem keyed_of_start {settings : Settings} {session : Session} {log : List LogLine}
    (started : start settings = .ok (session, log)) : session.catalog.registry.Keyed := by
  obtain ⟨root, -, whole⟩ := bind_eq_ok_iff.mp started
  obtain ⟨rfl, -⟩ := Prod.mk.inj (Except.ok.inj whole)
  exact Registry.keyed_empty _

theorem keyed_step {session : Session} (keyed : session.catalog.registry.Keyed) (step : Step) :
    (session.step step).state.catalog.registry.Keyed := by
  cases step with
  | basePath ns directory =>
    rw [Session.step, catalog_opened]
    exact keyed
  | contextBase context => exact keyed
  | child index directory =>
    rw [Session.step, catalog_opened]
    exact keyed
  | getName index name => exact keyed
  | create index name request =>
    cases known : session.base index with
    | error fault =>
      simp only [Session.step, known]
      exact keyed
    | ok context =>
      rw [registry_create known]
      exact keyed.create context name request
  | register resource =>
    simp only [Session.step, changed, Catalog.register, Catalog.registry_record]
    exact keyed.register resource
  | ask query => exact keyed

theorem keyed_run {session : Session} (keyed : session.catalog.registry.Keyed)
    (steps : List Step) : (session.run steps).1.catalog.registry.Keyed := by
  induction steps generalizing session with
  | nil => exact keyed
  | cons first rest ih => exact ih (keyed_step keyed first)

theorem result_create {session : Session} {index : Nat} {context : Context}
    (known : session.base index = .ok context) (name : Value) (request : Request) :
    (session.step (.create index name request)).result =
      (session.catalog.registry.create context name request).result.map .resource := by
  rw [step_create known, changed, Catalog.record]
  cases (session.catalog.registry.create context name request).result with
  | error fault => rfl
  | ok resource => rfl

end Session

theorem Answer.map_resource_injective {first second : Except Fault Resource}
    (same : first.map Answer.resource = second.map Answer.resource) : first = second := by
  cases first <;> cases second <;> simp_all [Except.map]

/-- In every session that a datapack can come to, a creation under any of its base paths answers
    what the first fault decides. Either the session is as it was before and nothing was logged,
    or the resource stands at the end of the registry and one line was logged. -/
theorem creations_all_or_nothing (settings : Settings) (session : Session) (log : List LogLine)
    (steps : List Step) (index : Nat) (context : Context) (name : Value) (request : Request)
    (started : Session.start settings = .ok (session, log))
    (known : (session.run steps).1.base index = .ok context) :
    let before := (session.run steps).1
    let after := before.step (.create index name request)
    (∀ result, after.result = result.map Answer.resource ↔
      Creation before.catalog.registry context name request result) ∧
    ((∃ fault, after = ⟨before, [], .error fault⟩) ∨
      ∃ resource kind full, after.result = .ok (.resource resource) ∧
        after.log = [.registered kind full] ∧
        after.state.catalog.registry.resources =
          before.catalog.registry.resources ++ [resource] ∧
        after.state.catalog.registry.size = before.catalog.registry.size + 1) := by
  intro before after
  have keyed : before.catalog.registry.Keyed :=
    Session.keyed_run (Session.keyed_of_start started) steps
  have creation := Registry.creation_create keyed context name request
  constructor
  · intro result
    have answered : after.result = _ := Session.result_create known name request
    rw [answered]
    constructor
    · intro same
      rw [← Answer.map_resource_injective same]
      exact creation
    · intro other
      rw [creation_unique other creation]
  · have stepped : after = _ := Session.step_create known name request
    rcases before.catalog.registry.create_all_or_nothing context name request with
      ⟨fault, refused⟩ | ⟨key, resource, kind, full, made⟩
    · refine .inl ⟨fault, ?_⟩
      rw [stepped, refused]
      rfl
    · refine .inr ⟨resource, kind, full, ?_⟩
      rw [stepped, made]
      refine ⟨rfl, rfl, ?_, ?_⟩
      · exact Registry.resources_append _ key resource
      · exact Registry.size_append _ key resource

/-- A tag of an unknown type, with values that cannot be walked through, under a name in upper
    case: the type is reported. A function with a number of 5001 digits for a command, under that
    name: the number is reported. The function made before stays alone. -/
theorem three_faults_report_the_first :
    let session : Session :=
      ⟨⟨"pack", "lib"⟩, .empty (.text "pack"), [⟨.absent, .ofText "lib", .text "pack"⟩]⟩
    let before := (session.run [.child 0 (.text "tools"),
      .create 1 (.text "go") (.function (.list [.text "say hi"]))]).1
    let tag : Request := .tag (.text "colours") (.int 3) .absent
    let function : Request := .function (.list [.text "say", .int (10 ^ (5000 : Nat) : Nat)])
    before.step (.create 1 (.text "GO") tag) =
        ⟨before, [], .error (.unknownTagType "'colours'")⟩ ∧
      before.step (.create 1 (.text "GO") function) = ⟨before, [], .error .tooManyDigits⟩ ∧
      before.catalog.registry.size = 1 := by
  intro session before tag function
  let context : Context := ⟨.absent, .ofText "lib" ++ .ofText "tools", .text "pack"⟩
  have refused {request : Request} {fault : Fault}
      (creation : Creation before.catalog.registry context (.text "GO") request (.error fault)) :
      before.step (.create 1 (.text "GO") request) = ⟨before, [], .error fault⟩ := by
    obtain ⟨answers, changes⟩ :=
      creations_all_or_nothing ⟨"pack", "lib"⟩ session [.created "pack" "lib"]
        [.child 0 (.text "tools"), .create 1 (.text "go") (.function (.list [.text "say hi"]))] 1
        context (.text "GO") request rfl rfl
    have failed := (answers (.error fault)).mpr creation
    rcases changes with ⟨other, whole⟩ | ⟨resource, kind, full, made, -⟩
    · rw [whole] at failed
      exact Except.error.inj failed ▸ whole
    · cases failed.symm.trans made
  have long : (Value.int (10 ^ (5000 : Nat) : Nat)).plain = .error .tooManyDigits :=
    Value.literal_eq_error_iff.mpr ⟨@Number.isOverlong_ten_pow 5000 (by decide), rfl⟩
  have unconverted : function.payload = .error .tooManyDigits :=
    commandLines_eq_error_iff.mpr
      (.inr ⟨[.text "say"], _, [], rfl, by simp [Value.plain], long⟩)
  exact ⟨refused (.unknownTagType rfl), refused (.unconverted rfl unconverted), rfl⟩

end DatapackAuthoring

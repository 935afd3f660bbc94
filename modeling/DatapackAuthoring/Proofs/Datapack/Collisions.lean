import DatapackAuthoring.Proofs.Datapack.Places

namespace DatapackAuthoring

structure Call where
  base : Nat
  name : Value
  request : Request

def Call.step (call : Call) : Step := .create call.base call.name call.request

def Step.call? : Step → Option Call
  | .create base name request => some ⟨base, name, request⟩
  | _ => none

namespace Session

def place? (session : Session) (call : Call) : Option Place := do
  let context ← (session.base call.base).toOption
  call.request.place? context call.name

def resource? (session : Session) (call : Call) : Option Resource := do
  let context ← (session.base call.base).toOption
  call.request.resource? context call.name

def places (session : Session) : List Step → List Place
  | [] => []
  | first :: rest =>
    (first.call?.bind session.place?).toList ++ (session.step first).state.places rest

variable {session : Session}

theorem place?_isSome_iff (call : Call) : (session.place? call).isSome = true ↔
    ∃ context draft identifier, session.base call.base = .ok context ∧
      call.request.draft = .ok draft ∧ context.resolve call.name = .ok identifier := by
  unfold place?
  cases known : session.base call.base with
  | error fault => simp [Except.toOption]
  | ok context => simp [Except.toOption, Request.place?_isSome_iff]

theorem step_of_place? {call : Call} {place : Place} (asked : session.place? call = some place) :
    ∃ resource, session.resource? call = some resource ∧
      (place.key ∈ session.catalog.registry.keys → session.step call.step =
        ⟨session, [], .error (.duplicateResource place.address.kindWord place.full)⟩) ∧
      (place.key ∉ session.catalog.registry.keys →
        (session.step call.step).result = .ok (.resource resource) ∧
        (session.step call.step).state.catalog.registry =
          session.catalog.registry.append place.key resource) := by
  cases known : session.base call.base with
  | error fault => simp [place?, known, Except.toOption] at asked
  | ok context =>
    have here : call.request.place? context call.name = some place := by
      simpa [place?, known, Except.toOption] using asked
    obtain ⟨resource, content, refused, made⟩ :=
      session.catalog.registry.create_of_place? here
    have stepped : session.step call.step = _ := step_create known call.name call.request
    refine ⟨resource, by simpa [resource?, known, Except.toOption] using content, ?_, ?_⟩
    · intro taken
      rw [stepped, refused taken]
      rfl
    · intro free
      rw [stepped, made free]
      exact ⟨rfl, rfl⟩

theorem registry_of_no_place {call : Call} (nowhere : session.place? call = none) :
    (session.step call.step).state.catalog.registry = session.catalog.registry := by
  cases known : session.base call.base with
  | error fault => simp [Call.step, step, known]
  | ok context =>
    have here : call.request.place? context call.name = none := by
      simpa [place?, known, Except.toOption] using nowhere
    rw [Call.step, registry_create known]
    exact session.catalog.registry.create_of_no_place here

theorem registry_of_no_call {step : Step} (other : step.call? = none)
    (inner : ∀ value, step ≠ .register value) :
    (session.step step).state.catalog.registry = session.catalog.registry := by
  cases step with
  | basePath ns directory => rw [Session.step, catalog_opened]
  | contextBase context => rfl
  | child index directory => rw [Session.step, catalog_opened]
  | getName index name => rfl
  | create index name request => cases other
  | register value => exact absurd rfl (inner value)
  | ask query => rfl

theorem eq_step_of_call? {step : Step} {call : Call} (same : step.call? = some call) :
    step = call.step := by
  cases step with
  | create index name request =>
    obtain rfl := Option.some.inj same
    rfl
  | _ => cases same

/- One step: the keys afterwards are those before and that of the place which is asked for. -/

theorem mem_keys_call (call : Call) (key : Key) :
    key ∈ (session.step call.step).state.catalog.registry.keys ↔
      key ∈ session.catalog.registry.keys ∨ ∃ place ∈ session.place? call, place.key = key := by
  cases asked : session.place? call with
  | none => simp [registry_of_no_place asked]
  | some place =>
    obtain ⟨resource, -, refused, made⟩ := step_of_place? asked
    by_cases taken : place.key ∈ session.catalog.registry.keys
    · rw [refused taken]
      constructor
      · exact .inl
      · rintro (old | ⟨other, same, rfl⟩)
        · exact old
        · rwa [← Option.some.inj same]
    · rw [(made taken).2]
      simp [eq_comm]

theorem nodup_keys_call (call : Call) (apart : session.catalog.registry.keys.Nodup) :
    (session.step call.step).state.catalog.registry.keys.Nodup := by
  cases asked : session.place? call with
  | none => rwa [registry_of_no_place asked]
  | some place =>
    obtain ⟨resource, -, refused, made⟩ := step_of_place? asked
    by_cases taken : place.key ∈ session.catalog.registry.keys
    · rwa [refused taken]
    · rw [(made taken).2, Registry.keys_append, List.nodup_append]
      refine ⟨apart, by simp, ?_⟩
      rintro key member other final rfl
      exact taken (List.mem_singleton.mp final ▸ member)

variable {steps : List Step}

theorem mem_keys_run (inner : ∀ value, .register value ∉ steps) (key : Key) :
    key ∈ (session.run steps).1.catalog.registry.keys ↔
      key ∈ session.catalog.registry.keys ∨ ∃ place ∈ session.places steps, place.key = key := by
  induction steps generalizing session with
  | nil => simp [run, places]
  | cons first rest ih =>
    simp only [List.mem_cons, not_or, forall_and] at inner
    rw [run, ih inner.2, places]
    cases called : first.call? with
    | none =>
      rw [registry_of_no_call called fun value => Ne.symm (inner.1 value)]
      simp
    | some call =>
      obtain rfl := eq_step_of_call? called
      rw [mem_keys_call, Option.bind_some]
      simp [or_and_right, exists_or, or_assoc]

theorem nodup_keys_run (inner : ∀ value, .register value ∉ steps)
    (apart : session.catalog.registry.keys.Nodup) :
    (session.run steps).1.catalog.registry.keys.Nodup := by
  induction steps generalizing session with
  | nil => exact apart
  | cons first rest ih =>
    simp only [List.mem_cons, not_or, forall_and] at inner
    rw [run]
    apply ih inner.2
    cases called : first.call? with
    | none => rwa [registry_of_no_call called fun value => Ne.symm (inner.1 value)]
    | some call =>
      obtain rfl := eq_step_of_call? called
      exact nodup_keys_call call apart

/- Calls alone. What a call asks for depends on the base paths, and calls leave these alone. -/

@[simp] theorem call?_step (call : Call) : call.step.call? = some call := rfl

theorem register_not_mem_calls (calls : List Call) :
    ∀ value, .register value ∉ calls.map Call.step := by
  intro value member
  obtain ⟨call, -, same⟩ := List.mem_map.mp member
  cases same

theorem bases_call (session : Session) (call : Call) :
    (session.step call.step).state.bases = session.bases :=
  session.bases_create call.base call.name call.request

theorem base_call (session : Session) (call : Call) :
    (session.step call.step).state.base = session.base := by
  funext index
  rw [base, base, bases_call]

theorem place?_call (session : Session) (call : Call) :
    (session.step call.step).state.place? = session.place? := by
  funext other
  rw [place?, place?, base_call]

theorem resource?_call (session : Session) (call : Call) :
    (session.step call.step).state.resource? = session.resource? := by
  funext other
  rw [resource?, resource?, base_call]

theorem places_calls (session : Session) (calls : List Call) :
    session.places (calls.map Call.step) = calls.filterMap session.place? := by
  induction calls generalizing session with
  | nil => rfl
  | cons first rest ih =>
    rw [List.map_cons, places, ih, place?_call, call?_step, Option.bind_some]
    cases asked : session.place? first with
    | none => simp [asked]
    | some place => simp [asked]

/-- A place that is free at the start gets what the first call for it makes. -/
theorem lookup_run_calls {place : Place} (free : place.key ∉ session.catalog.registry.keys)
    (calls : List Call) :
    (session.run (calls.map Call.step)).1.catalog.registry.lookup place.key =
      (calls.find? fun call => session.place? call = some place).bind session.resource? := by
  induction calls generalizing session with
  | nil => exact session.catalog.registry.lookup_of_not_mem free
  | cons first rest ih =>
    rw [List.map_cons, run]
    by_cases asked : session.place? first = some place
    · obtain ⟨resource, content, -, made⟩ := step_of_place? asked
      have found : (session.step first.step).state.catalog.registry.lookup place.key =
          some resource := by
        rw [(made free).2]
        exact Registry.lookup_append_key ((place.address.same_key_iff _).mpr rfl)
          (session.catalog.registry.lookup_of_not_mem free) resource
      rw [List.find?_cons_of_pos (by simpa using asked), Option.bind_some, content]
      exact (growsTo_run _ _).lookup_eq_some found
    · rw [List.find?_cons_of_neg (by simpa using asked)]
      have still : place.key ∉ (session.step first.step).state.catalog.registry.keys := by
        rw [mem_keys_call]
        rintro (old | ⟨other, here, same⟩)
        · exact free old
        · exact asked (here.trans (congrArg some (Place.key_injective same)))
      rw [ih still, place?_call, resource?_call]

theorem mem_keys_calls (calls : List Call) (key : Key) :
    key ∈ (session.run (calls.map Call.step)).1.catalog.registry.keys ↔
      key ∈ session.catalog.registry.keys ∨
        ∃ place, some place ∈ calls.map session.place? ∧ place.key = key := by
  rw [mem_keys_run (register_not_mem_calls calls), places_calls]
  simp only [List.mem_filterMap, List.mem_map]

theorem keys_calls_perm {calls others : List Call} (same : calls.Perm others)
    (apart : session.catalog.registry.keys.Nodup) :
    (session.run (calls.map Call.step)).1.catalog.registry.keys.Perm
      (session.run (others.map Call.step)).1.catalog.registry.keys := by
  have first := nodup_keys_run (register_not_mem_calls calls) apart
  have second := nodup_keys_run (register_not_mem_calls others) apart
  refine (List.perm_ext_iff_of_nodup first second).mpr ?_
  intro key
  simp only [mem_keys_calls, (same.map session.place?).mem_iff]

/- From the start. -/

theorem keys_of_start {settings : Settings} {log : List LogLine}
    (started : start settings = .ok (session, log)) : session.catalog.registry.keys = [] := by
  obtain ⟨root, -, whole⟩ := bind_eq_ok_iff.mp started
  obtain ⟨rfl, -⟩ := Prod.mk.inj (Except.ok.inj whole)
  rfl

section

variable {settings : Settings} {log : List LogLine}
  (started : start settings = .ok (session, log)) (inner : ∀ value, .register value ∉ steps)

include started inner

theorem mem_keys_of_start (key : Key) :
    key ∈ (session.run steps).1.catalog.registry.keys ↔
      ∃ place ∈ session.places steps, place.key = key := by
  rw [mem_keys_run inner, keys_of_start started]
  simp

theorem key_mem_iff (place : Place) :
    place.key ∈ (session.run steps).1.catalog.registry.keys ↔ place ∈ session.places steps := by
  rw [mem_keys_of_start started inner]
  constructor
  · rintro ⟨other, member, same⟩
    rwa [← Place.key_injective same]
  · intro member
    exact ⟨place, member, rfl⟩

end

end Session

/-- In a session that makes its resources under base paths, let some steps have been taken. A call
    has a place if its content can be converted and its name resolves. It is refused as a duplicate
    if an earlier call was for the same place, and otherwise makes its resource. After any further
    calls the keys are those of all places asked for, each that was free holds what the first call
    for it makes, and another order of the calls leaves the same keys. -/
theorem collisions_are_of_places (settings : Settings) (session : Session) (log : List LogLine)
    (before : List Step) (started : Session.start settings = .ok (session, log))
    (inner : ∀ value, .register value ∉ before) :
    let here := (session.run before).1
    let taken := session.places before
    (∀ call, (here.place? call).isSome = true ↔
      ∃ context draft identifier, here.base call.base = .ok context ∧
        call.request.draft = .ok draft ∧ context.resolve call.name = .ok identifier) ∧
    (∀ call place, here.place? call = some place →
      ∃ resource, here.resource? call = some resource ∧
        (here.step call.step).result =
          if place ∈ taken then .error (.duplicateResource place.address.kindWord place.full)
          else .ok (.resource resource)) ∧
    (∀ calls : List Call,
      let after := (here.run (calls.map Call.step)).1.catalog.registry
      (∀ key, key ∈ after.keys ↔
        ∃ place, (place ∈ taken ∨ some place ∈ calls.map here.place?) ∧ place.key = key) ∧
      (∀ place, place ∉ taken → after.lookup place.key =
        (calls.find? fun call => here.place? call = some place).bind here.resource?) ∧
      ∀ others : List Call, calls.Perm others →
        after.keys.Perm (here.run (others.map Call.step)).1.catalog.registry.keys) := by
  intro here taken
  have held : ∀ place : Place, place.key ∈ here.catalog.registry.keys ↔ place ∈ taken :=
    Session.key_mem_iff started inner
  refine ⟨Session.place?_isSome_iff, ?_, ?_⟩
  · intro call place asked
    obtain ⟨resource, content, refused, made⟩ := Session.step_of_place? asked
    refine ⟨resource, content, ?_⟩
    by_cases earlier : place ∈ taken
    · rw [if_pos earlier, refused ((held place).mpr earlier)]
    · rw [if_neg earlier]
      exact (made (mt (held place).mp earlier)).1
  · intro calls after
    refine ⟨?_, ?_, ?_⟩
    · intro key
      rw [Session.mem_keys_calls, Session.mem_keys_of_start started inner]
      simp only [or_and_right, exists_or]
      exact Iff.rfl
    · intro place free
      exact Session.lookup_run_calls (mt (held place).mp free) calls
    · intro others same
      have apart : here.catalog.registry.keys.Nodup :=
        Session.nodup_keys_run inner (by simp [Session.keys_of_start started])
      exact Session.keys_calls_perm same apart

/-- A function at the root, and the same place through a base path with a namespace of its own. Of
    two calls for another place the first decides what is found there. -/
theorem spellings_of_one_place_collide :
    let session : Session :=
      ⟨⟨"pack", "lib"⟩, .empty (.text "pack"), [⟨.absent, .ofText "lib", .text "pack"⟩]⟩
    let hello : Request := .function (.list [.text "say hi"])
    let farewell : Request := .function (.list [.text "say bye"])
    let here := (session.run [.basePath (.text "pack") (.text "/lib/tools/"),
      .create 0 (.text "tools//go") hello]).1
    let stop : Place := ⟨.function, none, "pack", .ofText "lib/tools/stop", by decide⟩
    let calls : List Call :=
      [⟨1, .text "Stop", hello⟩, ⟨0, .text "/tools/stop", hello⟩, ⟨1, .text "stop", farewell⟩]
    let resource : Resource :=
      ⟨.kind .function, .identifier (.text "pack") (.text "lib/tools/stop") (.bool false),
        .tuple [.text "say hi"], .absent⟩
    let after := (here.run (calls.map Call.step)).1.catalog.registry
    (here.step (.create 1 (.text "go") farewell)).result =
        .error (.duplicateResource "function" "pack:lib/tools/go") ∧
      after.lookup stop.key = some resource ∧
      after.keys.Perm (here.run (calls.reverse.map Call.step)).1.catalog.registry.keys := by
  intro session hello farewell here stop calls resource after
  let steps : List Step := [.basePath (.text "pack") (.text "/lib/tools/"),
    .create 0 (.text "tools//go") hello]
  let go : Place := ⟨.function, none, "pack", .ofText "lib/tools/go", by decide⟩
  have inner : ∀ value, .register value ∉ steps := by simp [steps]
  obtain ⟨-, answers, later⟩ :=
    collisions_are_of_places ⟨"pack", "lib"⟩ session [.created "pack" "lib"] steps rfl inner
  obtain ⟨-, first, orders⟩ := later calls
  have taken : session.places steps = [go] := by decide +kernel
  obtain ⟨made, -, refused⟩ := answers ⟨1, .text "go", farewell⟩ go (by decide +kernel)
  refine ⟨?_, ?_, orders _ calls.reverse_perm.symm⟩
  · have word : go.address.kindWord = "function" := by decide +kernel
    have full : go.full = "pack:lib/tools/go" := by decide +kernel
    rw [taken, if_pos (List.mem_singleton.mpr rfl), word, full] at refused
    exact refused
  · have free : stop ∉ session.places steps := by
      rw [taken]
      decide +kernel
    have chosen : (calls.find? fun call => here.place? call = some stop) =
        some ⟨0, .text "/tools/stop", hello⟩ := by
      rw [List.find?_cons_of_neg (by decide +kernel), List.find?_cons_of_pos (by decide +kernel)]
    refine (first stop free).trans ?_
    rw [chosen]
    rfl

end DatapackAuthoring

import DatapackAuthoring.Proofs.Datapack.OpenedBases
/-!
Two default namespaces. A name that finds its namespace elsewhere, in the context or in itself,
cannot tell one default from the other. Any other name takes the default and shows it nowhere: its
path, its faults and its text are the same under both, as long as both are namespaces at all.
-/
namespace DatapackAuthoring

structure Identifier.Counterparts (first second : String) (one other : Identifier) : Prop where
  ns_one : one.ns = first
  ns_other : other.ns = second
  path_eq : one.path = other.path
  text_eq : one.text = other.text
  implicit_one : one.explicit = false
  implicit_other : other.explicit = false

/-- What the results of one question under two default namespaces have to do with each other, if
    `settled` says that the namespace is settled without a default. -/
structure Agreement {α : Type} (settled : Prop) (first second : String) (answer : Identifier → α)
    (one other : Except Fault α) : Prop where
  same : settled → one = other
  unseen : ¬settled → Word isNamespaceChar first.toList → Word isNamespaceChar second.toList →
    (∃ fault, one = .error fault ∧ other = .error fault) ∨
    ∃ identifier counterpart, one = .ok (answer identifier) ∧ other = .ok (answer counterpart) ∧
      identifier.Counterparts first second counterpart
  refused_one : ¬settled → ¬Word isNamespaceChar first.toList →
    one = .error (.invalidNamespace first)
  refused_other : ¬settled → ¬Word isNamespaceChar second.toList →
    other = .error (.invalidNamespace second)

namespace Agreement

variable {α β : Type} {settled : Prop} {first second : String}

theorem of_settled {answer : Identifier → α} {one other : Except Fault α} (chosen : settled)
    (same : one = other) : Agreement settled first second answer one other :=
  ⟨fun _ => same, fun not => absurd chosen not, fun not => absurd chosen not,
    fun not => absurd chosen not⟩

theorem map {answer : Identifier → α} {one other : Except Fault α}
    (agree : Agreement settled first second answer one other) (next : α → β) :
    Agreement settled first second (fun identifier => next (answer identifier)) (one.map next)
      (other.map next) := by
  constructor
  · intro chosen
    rw [agree.same chosen]
  · intro free good valid
    rcases agree.unseen free good valid with
      ⟨fault, failed, also⟩ | ⟨identifier, counterpart, went, through, apart⟩
    · exact .inl ⟨fault, by rw [failed]; rfl, by rw [also]; rfl⟩
    · exact .inr ⟨identifier, counterpart, by rw [went]; rfl, by rw [through]; rfl, apart⟩
  · intro free bad
    rw [agree.refused_one free bad]
    rfl
  · intro free bad
    rw [agree.refused_other free bad]
    rfl

theorem judged_of_not_word {ns : String} (bad : ¬Word isNamespaceChar ns.toList) (path : String)
    (answer : α) : judged ns path answer = .error (.invalidNamespace ns) := by
  rw [judged, checkNamespace_of_not_word bad, error_bind]

theorem of_judged (free : ¬settled) (path : String) :
    Agreement settled first second id (judged first path ⟨first, path, false⟩)
      (judged second path ⟨second, path, false⟩) := by
  constructor
  · exact fun chosen => absurd chosen free
  · intro _ good valid
    simp only [judged, checkNamespace_of_word good, checkNamespace_of_word valid, ok_bind]
    cases checkPath path with
    | error fault => exact .inl ⟨fault, rfl, rfl⟩
    | ok => exact .inr ⟨_, _, rfl, rfl, rfl, rfl, rfl, rfl, rfl, rfl⟩
  · exact fun _ bad => judged_of_not_word bad path _
  · exact fun _ bad => judged_of_not_word bad path _

end Agreement

namespace Context

def withDefault (context : Context) (defaultNs : String) : Context :=
  { context with defaultNs := .text defaultNs }

/-- The namespace is given by the context or by the name. -/
def Settles (context : Context) (name : String) : Prop :=
  context.ns.isAbsent = false ∨ ':' ∈ name.toList

variable (context : Context) {name : String}

theorem withDefault_self {context : Context} {defaultNs : String}
    (own : context.defaultNs = .text defaultNs) : context.withDefault defaultNs = context := by
  rw [withDefault, ← own]

theorem nsOf_withDefault (settled : context.Settles name) (defaultNs : String) :
    (context.withDefault defaultNs).nsOf name = context.nsOf name := by
  rcases settled with own | colon
  · simp [nsOf, withDefault, own]
  · obtain ⟨ns, path, start, rfl⟩ := exists_namespace_of_mem colon
    simp [nsOf, withDefault, splitNamespace_append start]

theorem resolve_withDefault (settled : context.Settles name) (defaultNs : String) :
    (context.withDefault defaultNs).resolve (.text name) = context.resolve (.text name) := by
  rw [resolve_of_asText? (Value.asText?_text name), resolve_of_asText? (Value.asText?_text name),
    context.nsOf_withDefault settled]
  rfl

theorem resolve_withDefault_plain (free : ¬context.Settles name) (defaultNs : String) :
    (context.withDefault defaultNs).resolve (.text name) =
      let path := (context.directory ++ .ofText name).text
      judged defaultNs path ⟨defaultNs, path, false⟩ := by
  obtain ⟨none, bare⟩ := not_or.mp free
  have absent : context.ns = .absent := Value.eq_absent_of_isAbsent (by simpa using none)
  exact resolve_plain (Value.asText?_text name) absent (Value.asText?_text defaultNs) bare

theorem agreement_resolve (name first second : String) :
    Agreement (context.Settles name) first second id
      ((context.withDefault first).resolve (.text name))
      ((context.withDefault second).resolve (.text name)) := by
  by_cases settled : context.Settles name
  · apply Agreement.of_settled settled
    rw [context.resolve_withDefault settled, context.resolve_withDefault settled]
  · rw [context.resolve_withDefault_plain settled, context.resolve_withDefault_plain settled]
    exact Agreement.of_judged settled _

end Context

theorem Identifier.agreement_parse (name first second : String) :
    Agreement (':' ∈ name.toList) first second id (parse (.text name) (.text first))
      (parse (.text name) (.text second)) := by
  by_cases colon : ':' ∈ name.toList
  · apply Agreement.of_settled colon
    obtain ⟨ns, path, start, rfl⟩ := exists_namespace_of_mem colon
    rw [parse_chosen start, parse_chosen start]
  · rw [parse_plain colon (Value.asText?_text first), parse_plain colon (Value.asText?_text second)]
    exact Agreement.of_judged colon name

/- Base paths are opened without a look at the default namespace, which they only pass on. -/

namespace Context

theorem make_withDefault (ns directory defaultNs : Value) (other : String) :
    make ns directory (.text other) =
      (make ns directory defaultNs).map (·.withDefault other) := by
  unfold make
  cases directoryOf directory <;> rfl

theorem child_withDefault (context : Context) (directory : Value) (other : String) :
    (context.withDefault other).child directory =
      (context.child directory).map (·.withDefault other) := by
  unfold child
  cases directory.directory <;> rfl

end Context

namespace Session

structure Twins (second : String) (one other : Session) : Prop where
  defaultNs_eq : other.settings.defaultNs = second
  bases_eq : other.bases = one.bases.map (·.withDefault second)

namespace Twins

variable {second : String} {one other : Session}

theorem base_eq (twins : Twins second one other) (index : Nat) :
    other.base index = (one.base index).map (·.withDefault second) := by
  unfold base
  rw [twins.bases_eq, List.getElem?_map]
  cases one.bases[index]? <;> rfl

theorem opened (twins : Twins second one other) {made counterpart : Except Fault Context}
    (same : counterpart = made.map (·.withDefault second)) :
    Twins second (one.opened made).state (other.opened counterpart).state := by
  constructor
  · rw [settings_opened, twins.defaultNs_eq]
  · rw [bases_opened, bases_opened, List.map_append, twins.bases_eq, same]
    cases made <;> rfl

theorem step (twins : Twins second one other) {step : Step}
    (inner : ∀ context, step ≠ .contextBase context) :
    Twins second (one.step step).state (other.step step).state := by
  cases step with
  | basePath ns directory =>
    apply twins.opened
    rw [Settings.basePath, twins.defaultNs_eq]
    exact Context.make_withDefault _ _ _ second
  | contextBase context => exact absurd rfl (inner context)
  | child index directory =>
    apply twins.opened
    rw [twins.base_eq]
    cases one.base index with
    | error fault => rfl
    | ok context => exact context.child_withDefault directory second
  | getName index name => exact twins
  | create index name request =>
    -- The catalogs may come to differ here.
    constructor
    · rw [settings_step, twins.defaultNs_eq]
    · rw [bases_create, bases_create, twins.bases_eq]
  | register resource => exact ⟨twins.defaultNs_eq, twins.bases_eq⟩
  | ask query => exact twins

theorem run (twins : Twins second one other) {steps : List Step}
    (inner : ∀ context, .contextBase context ∉ steps) :
    Twins second (one.run steps).1 (other.run steps).1 := by
  induction steps generalizing one other with
  | nil => exact twins
  | cons first rest ih =>
    have here : ∀ context, first ≠ .contextBase context := by
      intro context same
      exact inner context (by simp [same])
    have later : ∀ context, .contextBase context ∉ rest := by
      intro context member
      exact inner context (List.mem_cons_of_mem _ member)
    exact ih (twins.step here) later

end Twins

theorem twins_of_start {first second directory : String} {one other : Session}
    {log lines : List LogLine} (started : start ⟨first, directory⟩ = .ok (one, log))
    (begun : start ⟨second, directory⟩ = .ok (other, lines)) : Twins second one other := by
  rw [eq_of_start started, eq_of_start begun]
  exact ⟨rfl, rfl⟩

end Session

/-- Resolution and parsing under one default namespace and under another. If the namespace comes
    from the context or from the name, the results are the same. Otherwise two accepted defaults
    lead to the same fault, or to identifiers that have one path and one text and are implicit in
    them; and a default that is not accepted is refused, whatever the path. In two datapacks with
    these defaults and one default directory, the same steps open the same base paths, and a name
    that both are asked for below one of them is answered in the same two ways. -/
theorem default_namespace_unseen_unless_taken (first second name : String) :
    (∀ context : Context,
      Agreement (context.Settles name) first second id
        ((context.withDefault first).resolve (.text name))
        ((context.withDefault second).resolve (.text name))) ∧
    Agreement (':' ∈ name.toList) first second id
      (Identifier.parse (.text name) (.text first))
      (Identifier.parse (.text name) (.text second)) ∧
    (∀ (directory : String) (one other : Session) (log lines : List LogLine) (steps : List Step)
      (index : Nat),
      Session.start ⟨first, directory⟩ = .ok (one, log) →
      Session.start ⟨second, directory⟩ = .ok (other, lines) →
      (∀ context, .contextBase context ∉ steps) →
      let here := (one.run steps).1
      let there := (other.run steps).1
      there.base index = (here.base index).map (·.withDefault second) ∧
        ∀ context, here.base index = .ok context →
          Agreement (context.Settles name) first second Answer.identifier
            (here.step (.getName index (.text name))).result
            (there.step (.getName index (.text name))).result) := by
  refine ⟨?_, Identifier.agreement_parse name first second, ?_⟩
  · intro context
    exact context.agreement_resolve name first second
  · intro directory one other log lines steps index started begun inner here there
    have twins : Session.Twins second here there := (Session.twins_of_start started begun).run inner
    refine ⟨twins.base_eq index, ?_⟩
    intro context known
    have aligned := (Session.aligned_of_start started).run inner
    have own : context.withDefault first = context :=
      Context.withDefault_self (aligned.bases_eq context (Session.mem_of_base known))
    have counterpart : there.base index = .ok (context.withDefault second) := by
      rw [twins.base_eq, known]
      rfl
    have agree := (context.agreement_resolve name first second).map Answer.identifier
    rw [own] at agree
    rw [Session.result_getName known, Session.result_getName counterpart]
    exact agree

/-- A bare name and one with a namespace, below a base path without a namespace. One of the two
    defaults ends in a line feed, which is accepted. -/
theorem defaults_of_two_datapacks :
    let first : Settings := ⟨"minecraft", "lib"⟩
    let second : Settings := ⟨"other\n", "lib"⟩
    let one : Session := ⟨first, .empty (.text "minecraft"), [first.root]⟩
    let other : Session := ⟨second, .empty (.text "other\n"), [second.root]⟩
    let steps : List Step := [.basePath .absent (.text "/tools"), .child 1 (.text "a//b")]
    let here := (one.run steps).1
    let there := (other.run steps).1
    (here.step (.getName 2 (.text "pack:go"))).result =
        (there.step (.getName 2 (.text "pack:go"))).result ∧
      (∃ identifier counterpart,
        (here.step (.getName 2 (.text "go"))).result = .ok (.identifier identifier) ∧
        (there.step (.getName 2 (.text "go"))).result = .ok (.identifier counterpart) ∧
        identifier.Counterparts "minecraft" "other\n" counterpart) := by
  intro first second one other steps here there
  have started : Session.start first = .ok (one, _) := Session.start_eq first
  have begun : Session.start second = .ok (other, _) := Session.start_eq second
  have inner : ∀ context, .contextBase context ∉ steps := by simp [steps]
  let context : Context := ⟨.absent, .ofText "tools" ++ .ofText "a/b", .text "minecraft"⟩
  have known : here.base 2 = .ok context := rfl
  obtain ⟨-, -, spelled⟩ := default_namespace_unseen_unless_taken "minecraft" "other\n" "pack:go"
  obtain ⟨-, -, bare⟩ := default_namespace_unseen_unless_taken "minecraft" "other\n" "go"
  constructor
  · obtain ⟨-, agree⟩ := spelled "lib" one other _ _ steps 2 started begun inner
    exact (agree context known).same (.inr (by decide))
  · obtain ⟨-, agree⟩ := bare "lib" one other _ _ steps 2 started begun inner
    have free : ¬context.Settles "go" := by
      rintro (own | colon)
      · cases own
      · exact absurd colon (by decide)
    have good : Word isNamespaceChar "minecraft".toList :=
      (isWordOver_iff_word (by decide) _).mp (by decide)
    have valid : Word isNamespaceChar "other\n".toList :=
      (isWordOver_iff_word (by decide) _).mp (by decide)
    refine ((agree context known).unseen free good valid).resolve_left ?_
    rintro ⟨fault, failed, -⟩
    have went : (here.step (.getName 2 (.text "go"))).result =
        .ok (.identifier ⟨"minecraft", "tools/a/b/go", false⟩) := by
      simp only [here, one, first, steps]
      rfl
    rw [went] at failed
    cases failed

end DatapackAuthoring

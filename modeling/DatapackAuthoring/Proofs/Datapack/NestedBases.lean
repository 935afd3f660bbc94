import DatapackAuthoring.Proofs.Datapack.NamesLeadBack
import DatapackAuthoring.Proofs.Naming.NestedContexts

namespace DatapackAuthoring

namespace Session

/-- Opens a chain of base paths, each below the one before. The number of the last one comes with
    the session. -/
def descend (session : Session) (index : Nat) : List Value → Session × Nat
  | [] => (session, index)
  | first :: rest => (session.step (.child index first)).state.descend session.bases.length rest

theorem base_of_child {session : Session} {index : Nat} {context below : Context}
    {directory : Value} (known : session.base index = .ok context)
    (made : context.child directory = .ok below) :
    (session.step (.child index directory)).state.base session.bases.length = .ok below := by
  simp only [step, known, ok_bind, made, opened]
  simp [base]

theorem base_of_descend {session : Session} {index : Nat} {context scope : Context}
    {directories : List Value} (known : session.base index = .ok context)
    (nested : context.nest directories = .ok scope) :
    (session.descend index directories).1.base (session.descend index directories).2 =
      .ok scope := by
  induction directories generalizing session index context with
  | nil => rwa [← Except.ok.inj nested]
  | cons first rest ih =>
    obtain ⟨below, made, deeper⟩ := bind_eq_ok_iff.mp nested
    exact ih (base_of_child known made) deeper

theorem result_getName {session : Session} {index : Nat} {context : Context}
    (known : session.base index = .ok context) (name : Value) :
    (session.step (.getName index name)).result =
      (context.resolve name).map Answer.identifier := by
  simp only [step, known, ok_bind]
  cases context.resolve name with
  | error fault => rfl
  | ok identifier => rfl

end Session

/-- A chain of directories can be opened below every context. If no directory has a colon, a name
    below the chain resolves as it does above with the directories in front of its path, up to the
    name that a fault quotes. A base path that was opened this way answers what the context at the
    end of the chain does, and an identifier that it gives has the namespace of the context that the
    chain began with and the segments of all contexts and of the name, in this order. -/
theorem nested_scopes_are_prefixes (context : Context) (directories : List Value)
    (texts : List String) (value : Value) (name : String)
    (known : directories.map Value.asText? = texts.map some)
    (named : value.asText? = some name) :
    let scope := context.under texts
    context.nest directories = .ok scope ∧
      ((∀ s ∈ texts, ':' ∉ s.toList) →
        context.resolve (.text (insertedName texts name)) =
          (scope.resolve value).mapError (Fault.quoting (insertedName texts name))) ∧
      ∀ (session : Session) (index : Nat), session.base index = .ok context →
        let deep := session.descend index directories
        (deep.1.step (.getName deep.2 value)).result =
            (scope.resolve value).map Answer.identifier ∧
          ∀ identifier, (deep.1.step (.getName deep.2 value)).result =
              .ok (.identifier identifier) →
            context.ResolvesBelow texts name identifier := by
  intro scope
  have nested : context.nest directories = .ok scope := Context.nest_of_texts known context
  refine ⟨nested, ?_, ?_⟩
  · intro plain
    exact Context.resolve_insertedName plain context named
  · intro session index base deep
    have answered := Session.result_getName (Session.base_of_descend base nested) value
    refine ⟨answered, ?_⟩
    intro identifier given
    obtain ⟨other, resolved, same⟩ := map_eq_ok_iff.mp (answered.symm.trans given)
    obtain rfl : other = identifier := by simpa using same
    exact Context.resolvesBelow_of_resolve named resolved

theorem nested_scopes_of_slashes :
    let context : Context := ⟨.text "pack", .ofText "lib", .text "minecraft"⟩
    let session : Session :=
      ⟨⟨"minecraft", ""⟩, .empty (.text "minecraft"),
        [⟨.absent, .empty, .text "minecraft"⟩, context]⟩
    let deep := session.descend 1 [.text "/a//b/", .text "", .text "c"]
    let identifier : Identifier := ⟨"pack", "lib/a/b/c/go", true⟩
    context.resolve (.text "/a//b///c//go") = .ok identifier ∧
      (deep.1.step (.getName deep.2 (.text "/go"))).result = .ok (.identifier identifier) ∧
      identifier.path.toList.splitOn '/' = ["lib", "a", "b", "c", "go"].map String.toList := by
  intro context session deep identifier
  obtain ⟨-, inserted, opened⟩ :=
    nested_scopes_are_prefixes context [.text "/a//b/", .text "", .text "c"] ["/a//b/", "", "c"]
      (.text "/go") "/go" rfl rfl
  have resolved : (context.under ["/a//b/", "", "c"]).resolve (.text "/go") = .ok identifier := by
    simp only [context, identifier]
    rfl
  obtain ⟨answered, below⟩ := opened session 1 rfl
  rw [resolved] at answered
  refine ⟨?_, answered, ?_⟩
  · have above := inserted (by decide)
    rw [resolved] at above
    exact above
  · rw [(below identifier answered).segments]
    decide +kernel

end DatapackAuthoring

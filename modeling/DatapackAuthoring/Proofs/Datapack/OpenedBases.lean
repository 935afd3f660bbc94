import DatapackAuthoring.Proofs.Datapack.NestedBases
/-!
The base paths of a session. They are opened one after the other and stay what they are: whatever
happens, a base path keeps its number and its context, and the root is the first of them. What is
answered under a base path is decided by its context, so two of one context answer alike.
-/
namespace DatapackAuthoring

namespace Settings

def root (settings : Settings) : Context :=
  ⟨.absent, .ofText settings.defaultDirectory, .text settings.defaultNs⟩

theorem basePath_of_asText? {directory : Value} {text : String}
    (known : directory.asText? = some text) (settings : Settings) (ns : Value) :
    settings.basePath ns directory = .ok ⟨ns, .ofText text, .text settings.defaultNs⟩ := by
  by_cases filled : directory.isTruthy = true
  · have present := Value.isAbsent_of_asText? known
    simp [basePath, filled, Context.make, Context.directoryOf, present, known]
  · have blank : text = "" := by
      cases directory <;> simp_all [Value.isTruthy, Value.asText?]
    rw [basePath, if_neg filled, blank]
    rfl

end Settings

namespace Session

theorem start_eq (settings : Settings) :
    start settings =
      .ok (⟨settings, .empty (.text settings.defaultNs), [settings.root]⟩,
        [.created settings.defaultNs settings.defaultDirectory]) := by
  rw [start, settings.basePath_of_asText? (Value.asText?_text _)]
  rfl

theorem eq_of_start {settings : Settings} {session : Session} {log : List LogLine}
    (started : start settings = .ok (session, log)) :
    session = ⟨settings, .empty (.text settings.defaultNs), [settings.root]⟩ := by
  rw [start_eq] at started
  exact (Prod.mk.inj (Except.ok.inj started)).1.symm

theorem base_eq_ok_iff {session : Session} {index : Nat} {context : Context} :
    session.base index = .ok context ↔ session.bases[index]? = some context := by
  unfold base
  cases session.bases[index]? with
  | none => simp
  | some other => simp

/- What one step does to the base paths and to the settings. -/

theorem bases_opened (session : Session) (made : Except Fault Context) :
    (session.opened made).state.bases = session.bases ++ made.toOption.toList := by
  cases made with
  | error fault => simp [opened, Except.toOption]
  | ok context => rfl

theorem settings_opened (session : Session) (made : Except Fault Context) :
    (session.opened made).state.settings = session.settings := by
  cases made <;> rfl

theorem bases_prefix_step (session : Session) (step : Step) :
    session.bases <+: (session.step step).state.bases := by
  cases step with
  | basePath ns directory =>
    rw [Session.step, bases_opened]
    exact List.prefix_append _ _
  | contextBase context =>
    rw [Session.step, bases_opened]
    exact List.prefix_append _ _
  | child index directory =>
    rw [Session.step, bases_opened]
    exact List.prefix_append _ _
  | getName index name => exact List.prefix_rfl
  | create index name request => simp only [bases_create, List.prefix_rfl]
  | register resource => exact List.prefix_rfl
  | ask query => exact List.prefix_rfl

theorem settings_step (session : Session) (step : Step) :
    (session.step step).state.settings = session.settings := by
  cases step with
  | basePath ns directory => rw [Session.step, settings_opened]
  | contextBase context => rfl
  | child index directory => rw [Session.step, settings_opened]
  | getName index name => rfl
  | create index name request =>
    simp only [Session.step]
    split
    · rfl
    · rfl
  | register resource => rfl
  | ask query => rfl

/- What runs do to them. -/

theorem bases_prefix_run (session : Session) (steps : List Step) :
    session.bases <+: (session.run steps).1.bases := by
  induction steps generalizing session with
  | nil => exact List.prefix_rfl
  | cons first rest ih => exact (session.bases_prefix_step first).trans (ih _)

theorem settings_run (session : Session) (steps : List Step) :
    (session.run steps).1.settings = session.settings := by
  induction steps generalizing session with
  | nil => rfl
  | cons first rest ih => exact (ih _).trans (session.settings_step first)

theorem base_of_prefix {session later : Session} (grows : session.bases <+: later.bases)
    {index : Nat} {context : Context} (known : session.base index = .ok context) :
    later.base index = .ok context := by
  obtain ⟨more, whole⟩ := grows
  rw [base_eq_ok_iff] at known ⊢
  obtain ⟨bound, -⟩ := List.getElem?_eq_some_iff.mp known
  rw [← whole, List.getElem?_append_left bound, known]

theorem base_run {session : Session} {index : Nat} {context : Context}
    (known : session.base index = .ok context) (steps : List Step) :
    (session.run steps).1.base index = .ok context :=
  base_of_prefix (session.bases_prefix_run steps) known

theorem base_root {settings : Settings} {session : Session} {log : List LogLine}
    (started : start settings = .ok (session, log)) (steps : List Step) :
    (session.run steps).1.base 0 = .ok settings.root := by
  apply base_run
  rw [eq_of_start started]
  rfl

theorem settings_of_start {settings : Settings} {session : Session} {log : List LogLine}
    (started : start settings = .ok (session, log)) (steps : List Step) :
    (session.run steps).1.settings = settings := by
  rw [settings_run, eq_of_start started]

end Session

end DatapackAuthoring

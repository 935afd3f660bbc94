import DatapackAuthoring.Datapack.Catalog
import DatapackAuthoring.Datapack.Creation
import DatapackAuthoring.Datapack.Settings
/-!
Authoring sessions. A session holds the settings and the catalog of one datapack, and the base
paths opened in it; the first of these is the root of the datapack.
-/
namespace DatapackAuthoring

open Text

namespace Context

def baseLiteral (context : Context) : Written := do
  let ns ← context.ns.literal
  return objectLiteral "BasePath" [("namespace", ns), ("directory", quote context.directory.text)]

end Context

/-- The context of a base path. Here whatever counts as false is an empty directory. -/
def Settings.basePath (settings : Settings) (ns directory : Value) : Except Fault Context :=
  Context.make ns (if directory.isTruthy then directory else .tuple []) (.text settings.defaultNs)

structure Session where
  settings : Settings
  catalog : Catalog
  bases : List Context

inductive Step where
  | basePath (ns directory : Value)
  | contextBase (context : Context)
  | child (base : Nat) (directory : Value)
  | getName (base : Nat) (name : Value)
  | create (base : Nat) (name : Value) (request : Request)
  | register (resource : Value)
  | ask (query : Query)

namespace Session

def start (settings : Settings) : Except Fault (Session × List LogLine) := do
  let root ← settings.basePath .absent (.text settings.defaultDirectory)
  return ({ settings, catalog := .empty (.text settings.defaultNs), bases := [root] },
    [.created settings.defaultNs settings.defaultDirectory])

def base (session : Session) (index : Nat) : Except Fault Context :=
  match session.bases[index]? with
  | some context => .ok context
  | none => .error .noSuchIndex

def opened (session : Session) (made : Except Fault Context) : StepResult Session :=
  match made with
  | .ok context =>
    ⟨{ session with bases := session.bases ++ [context] }, [], .ok (.base context)⟩
  | .error fault => ⟨session, [], .error fault⟩

def changed (session : Session) (result : StepResult Catalog) : StepResult Session :=
  ⟨{ session with catalog := result.state }, result.log, result.result⟩

def step (session : Session) : Step → StepResult Session
  | .basePath ns directory => session.opened (session.settings.basePath ns directory)
  | .contextBase context => session.opened (.ok context)
  | .child index directory => session.opened do
      let context ← session.base index
      context.child directory
  | .getName index name =>
    ⟨session, [], do
      let context ← session.base index
      let identifier ← context.resolve name
      return .identifier identifier⟩
  | .create index name request =>
    match session.base index with
    | .error fault => ⟨session, [], .error fault⟩
    | .ok context =>
      session.changed
        (session.catalog.record (session.catalog.registry.create context name request))
  | .register resource => session.changed (session.catalog.register resource)
  | .ask query => ⟨session, [], session.catalog.answer query⟩

def run (session : Session) : List Step → Session × List (Except Fault Answer)
  | [] => (session, [])
  | first :: rest =>
    let result := session.step first
    let (last, answers) := result.state.run rest
    (last, result.result :: answers)

end Session

end DatapackAuthoring

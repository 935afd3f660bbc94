import DatapackAuthoring.Naming.Context
import DatapackAuthoring.Naming.Identifier
import DatapackAuthoring.Naming.Rules
import DatapackAuthoring.Value.Equality
import DatapackAuthoring.Value.Plain

namespace DatapackAuthoring

open Text

def splitNamespace (name : String) : Option String × String :=
  match cutFirst ':' name.toList with
  | some (ns, path) => (some (String.ofList ns), String.ofList path)
  | none => (none, name)

/-- A name of any type is cut like a text. Of other values only containers can be asked for a
    colon; one that has none passes whole, one that has it cannot be cut. -/
def Value.splitName (name : Value) : Except Fault (Value × Value) :=
  match name with
  | .text s =>
    match splitNamespace s with
    | (some ns, path) => .ok (.text ns, .text path)
    | (none, _) => .ok (.absent, name)
  | .target _ => .ok (.absent, name)
  | other =>
    match other.elements? with
    | none => .error (.notSearchable other.typeName)
    | some items =>
      if items.any fun item => item.same (.text ":") then
        .error (.noAttribute other.typeName "split")
      else .ok (.absent, other)

def Identifier.parse (text defaultNs : Value) : Except Fault Identifier := do
  let (given, path) ← text.splitName
  let (ns, path) ← validate (if given.isAbsent then defaultNs else given) path
  return { ns, path, explicit := !given.isAbsent }

def Context.resolve (context : Context) (name : Value) : Except Fault Identifier :=
  match name.asText? with
  | none => .error (.nameNotText name.typeName)
  | some name =>
    if !context.ns.isAbsent && name.toList.contains ':' then do
      let ns ← context.ns.plain
      throw (.namespaceUnderBasePath name ns)
    else do
      let (given, bare) := splitNamespace name
      let path := (context.directory ++ Directory.ofText bare).text
      let ns :=
        if !context.ns.isAbsent then context.ns
        else match given with
          | some ns => .text ns
          | none => context.defaultNs
      let (ns, path) ← validate ns (.text path)
      return { ns, path, explicit := !context.ns.isAbsent || given.isSome }

end DatapackAuthoring

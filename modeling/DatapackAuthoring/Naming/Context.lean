import DatapackAuthoring.Fault
import DatapackAuthoring.Value.Basic
/-!
Naming contexts: the namespace and the directory that apply to every name resolved under them. A
directory may be written with slashes or given as parts; what is kept are its segments.
-/
namespace DatapackAuthoring

structure Context where
  /-- Absent when names choose their namespace. -/
  ns : Value
  directory : Directory
  defaultNs : Value

def hostNamespace : String := "minecraft"

/-- A directory written with slashes; whatever counts as false is the empty one. -/
def Value.directory (value : Value) : Except Fault Directory :=
  if !value.isTruthy then .ok .empty
  else match value.asText? with
    | some s => .ok (.ofText s)
    | none => .error (.noAttribute value.typeName "split")

/-- All items are there before the walk begins, and none of them comes to be by it. -/
def Value.elements (value : Value) : Except Fault (List Value) :=
  match value.elements? with
  | some items => .ok items
  | none => .error (.notIterable value.typeName)

namespace Context

def directoryOf (value : Value) : Except Fault Directory :=
  if value.isAbsent then .ok .empty
  else match value.asText? with
    | some s => .ok (.ofText s)
    | none => do
      let parts ← value.elements
      let directories ← parts.mapM Value.directory
      return .nested directories

def make (ns directory defaultNs : Value) : Except Fault Context := do
  let directory ← directoryOf directory
  return { ns, directory, defaultNs }

def child (context : Context) (directory : Value) : Except Fault Context := do
  let below ← directory.directory
  return { context with directory := context.directory ++ below }

def toValue (context : Context) : Value :=
  .context context.ns context.directory context.defaultNs

end Context

end DatapackAuthoring

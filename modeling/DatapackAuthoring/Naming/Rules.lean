import DatapackAuthoring.Fault
import DatapackAuthoring.Value.Basic
/-!
The rules of the host for the two parts of an identifier. A namespace and a path draw on small
alphabets, a path must not be empty and must not have two dots in a row. One line feed at the
very end of either part passes.
-/
namespace DatapackAuthoring

def isNamespaceChar (c : Char) : Bool :=
  ('0' ≤ c && c ≤ '9') || ('a' ≤ c && c ≤ 'z') || c == '_' || c == '-'

def isPathChar (c : Char) : Bool := isNamespaceChar c || c == '/' || c == '.'

def withoutFinalNewline (text : List Char) : List Char :=
  if text.getLast? = some '\n' then text.dropLast else text

/-- At least one character, all from the alphabet, a final line feed aside. -/
def isWordOver (alphabet : Char → Bool) (text : List Char) : Bool :=
  let body := withoutFinalNewline text
  !body.isEmpty && body.all alphabet

def hasDoubleDot : List Char → Bool
  | '.' :: '.' :: _ => true
  | _ :: rest => hasDoubleDot rest
  | [] => false

def checkNamespace (ns : String) : Except Fault Unit :=
  if isWordOver isNamespaceChar ns.toList then .ok () else .error (.invalidNamespace ns)

def checkPath (path : String) : Except Fault Unit :=
  if path.isEmpty then .error .emptyName
  else if !isWordOver isPathChar path.toList then .error (.invalidPath path)
  else if hasDoubleDot path.toList then .error (.doubleDot path)
  else .ok ()

def Value.asTextOrFault (value : Value) : Except Fault String :=
  match value.asText? with
  | some s => .ok s
  | none => .error (.notText value.typeName)

/-- Both parts of a valid identifier. The namespace is looked at first; whatever counts as false
    is an empty path. -/
def validate (ns path : Value) : Except Fault (String × String) := do
  let ns ← ns.asTextOrFault
  checkNamespace ns
  if !path.isTruthy then throw .emptyName
  let path ← path.asTextOrFault
  checkPath path
  return (ns, path)

end DatapackAuthoring

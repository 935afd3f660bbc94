import DatapackAuthoring.Naming.Directory
import DatapackAuthoring.Number.Notation
import DatapackAuthoring.Resource.Kind
import DatapackAuthoring.Selector.Target
/-!
Values, as an author hands them to the library. Their type is not checked on the way in: a name
may turn out to be a number, and a resource may carry anything. So one type holds the plain data
and the library's own objects, and each operation says which values it takes.

Values are inert. To walk over one or to write it may fail, but has no effect, and gives the same
every time. Iterables that make their items as they are asked for, and objects with a program of
their own behind their text, are not among them.
-/
namespace DatapackAuthoring

open Number

inductive Value where
  | absent
  | bool (flag : Bool)
  | int (n : Int)
  | float (x : Binary64)
  | text (s : String)
  | list (items : List Value)
  | tuple (items : List Value)
  /-- Entries in the order of insertion; a frozen map admits no further ones. -/
  | map (frozen : Bool) (entries : List (Value × Value))
  | target (t : Target)
  | kind (k : ResourceKind)
  | tagType (t : TagType)
  | identifier (ns path explicit : Value)
  | context (ns : Value) (directory : Directory) (defaultNs : Value)
  | spec (target : Wording) (arguments : List (Value × Value)) (single players : Value)
  | condition (kind value : Value)
  | tagEntry (id required : Value)
  | resource (kind identifier payload tagType : Value)

abbrev Entries := List (Value × Value)

namespace Value

def typeName : Value → String
  | absent => "NoneType"
  | bool _ => "bool"
  | int _ => "int"
  | float _ => "float"
  | text _ => "str"
  | list _ => "list"
  | tuple _ => "tuple"
  | map false _ => "dict"
  | map true _ => "mappingproxy"
  | target _ => "Target"
  | kind _ => "ResourceKind"
  | tagType _ => "TagType"
  | identifier .. => "ResourceIdentifier"
  | context .. => "ResourceNamingContext"
  | spec .. => "SelectorSpec"
  | condition .. => "Condition"
  | tagEntry .. => "TagValue"
  | resource .. => "Resource"

def isAbsent : Value → Bool
  | absent => true
  | _ => false

/-- Absent, no, zero and empty values count as false, all others as true. -/
def isTruthy : Value → Bool
  | absent => false
  | bool flag => flag
  | int n => n != 0
  | float (.finite _ size) => size.units != 0
  | text s => !s.isEmpty
  | list items => !items.isEmpty
  | tuple items => !items.isEmpty
  | map _ entries => !entries.isEmpty
  | _ => true

def asText? : Value → Option String
  | text s => some s
  | target t => some t.glyph
  | _ => none

def ofWording : Wording → Value
  | .free s => text s
  | .glyph t => target t

@[simp] theorem asText?_ofWording (wording : Wording) :
    (ofWording wording).asText? = some wording.text := by
  cases wording <;> rfl

def asSequence? : Value → Option (List Value)
  | list items => some items
  | tuple items => some items
  | _ => none

def asMap? : Value → Option Entries
  | map _ entries => some entries
  | _ => none

/-- What a walk over the value meets: items, the characters of a text, the keys of a map. -/
def elements? : Value → Option (List Value)
  | list items => some items
  | tuple items => some items
  | map _ entries => some (entries.map Prod.fst)
  | text s => some (s.toList.map fun c => text c.toString)
  | target t => some (t.glyph.toList.map fun c => text c.toString)
  | _ => none

def asMany : Value → List Value
  | absent => []
  | list items => items.filter fun item => !item.isAbsent
  | tuple items => items.filter fun item => !item.isAbsent
  | other => [other]

end Value

def Entries.get? (entries : Entries) (key : String) : Option Value :=
  (entries.find? fun entry => entry.1.asText? == some key).map Prod.snd

def Entries.get (entries : Entries) (key : String) : Value := (entries.get? key).getD .absent

end DatapackAuthoring

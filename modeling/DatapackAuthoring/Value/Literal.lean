import DatapackAuthoring.Fault
import DatapackAuthoring.Text.Quoted
import DatapackAuthoring.Value.Basic
/-!
The literal form of a value, as messages show it: texts quoted, objects with their fields. A value
has one unless it holds an integer with too many digits, at whatever depth.
-/
namespace DatapackAuthoring

open Number Text

abbrev Written := Except Fault String

def commaSeparated (parts : List String) : String := ", ".intercalate parts

/-- A sequence of one item keeps a comma, which tells it from an item in parentheses. -/
def parenthesized : List String → String
  | [single] => "(" ++ single ++ ",)"
  | parts => "(" ++ commaSeparated parts ++ ")"

def bracketed (parts : List String) : String := "[" ++ commaSeparated parts ++ "]"

def braced (parts : List String) : String := "\x7b" ++ commaSeparated parts ++ "\x7d"

def boolText (flag : Bool) : String := if flag then "True" else "False"

def memberLiteral (type name value : String) : String :=
  "<" ++ type ++ "." ++ name ++ ": " ++ quote value ++ ">"

def wordingLiteral : Wording → String
  | .free text => quote text
  | .glyph target => memberLiteral "Target" target.name target.glyph

def objectLiteral (type : String) (fields : List (String × String)) : String :=
  type ++ "(" ++ commaSeparated (fields.map fun (name, value) => name ++ "=" ++ value) ++ ")"

namespace Value

mutual

def literalText : Value → String
  | absent => "None"
  | bool flag => boolText flag
  | int n => wholeText n
  | float x => x.text
  | text s => quote s
  | list items => bracketed (literalTexts items)
  | tuple items => parenthesized (literalTexts items)
  | map false entries => braced (entryLiteralTexts entries)
  | map true entries => "mappingproxy(" ++ braced (entryLiteralTexts entries) ++ ")"
  | target t => wordingLiteral (.glyph t)
  | kind k => memberLiteral "ResourceKind" k.name k.directory
  | tagType t => memberLiteral "TagType" t.name t.directory
  | identifier ns path explicit =>
    objectLiteral "ResourceIdentifier"
      [("namespace", literalText ns), ("path", literalText path), ("explicit", literalText explicit)]
  | context ns directory defaultNs =>
    objectLiteral "ResourceNamingContext"
      [("namespace", literalText ns), ("directory", parenthesized (directory.segments.map quote)),
       ("default_namespace", literalText defaultNs)]
  | spec subject arguments single players =>
    objectLiteral "SelectorSpec"
      [("target", wordingLiteral subject),
       ("arguments", "mappingproxy(" ++ braced (entryLiteralTexts arguments) ++ ")"),
       ("single_result_only", literalText single), ("players_only", literalText players)]
  | condition word subject =>
    objectLiteral "Condition" [("kind", literalText word), ("value", literalText subject)]
  | tagEntry id required =>
    objectLiteral "TagValue" [("id", literalText id), ("required", literalText required)]
  | resource family name payload type =>
    objectLiteral "Resource"
      [("kind", literalText family), ("identifier", literalText name), ("payload", literalText payload),
       ("tag_type", literalText type)]

def literalTexts : List Value → List String
  | [] => []
  | item :: rest => literalText item :: literalTexts rest

def entryLiteralTexts : List (Value × Value) → List String
  | [] => []
  | (key, value) :: rest => (literalText key ++ ": " ++ literalText value) :: entryLiteralTexts rest

end

mutual

/-- Whether an integer that the literal form shows has too many digits. -/
def isOverlong : Value → Bool
  | int n => Number.isOverlong n
  | list items => anyOverlong items
  | tuple items => anyOverlong items
  | map _ entries => anyEntryOverlong entries
  | identifier ns path explicit => isOverlong ns || isOverlong path || isOverlong explicit
  | context ns _ defaultNs => isOverlong ns || isOverlong defaultNs
  | spec _ arguments single players =>
    anyEntryOverlong arguments || isOverlong single || isOverlong players
  | condition word subject => isOverlong word || isOverlong subject
  | tagEntry id required => isOverlong id || isOverlong required
  | resource family name payload type =>
    isOverlong family || isOverlong name || isOverlong payload || isOverlong type
  | _ => false

def anyOverlong : List Value → Bool
  | [] => false
  | item :: rest => isOverlong item || anyOverlong rest

def anyEntryOverlong : List (Value × Value) → Bool
  | [] => false
  | (key, value) :: rest => isOverlong key || isOverlong value || anyEntryOverlong rest

end

def literal (value : Value) : Written :=
  if value.isOverlong then .error .tooManyDigits else .ok value.literalText

theorem literal_eq_ok_iff {value : Value} {text : String} :
    value.literal = .ok text ↔ value.isOverlong = false ∧ value.literalText = text := by
  cases long : value.isOverlong <;> simp [literal, long]

theorem literal_eq_error_iff {value : Value} {fault : Fault} :
    value.literal = .error fault ↔ value.isOverlong = true ∧ .tooManyDigits = fault := by
  cases long : value.isOverlong <;> simp [literal, long]

theorem anyOverlong_eq_any (items : List Value) : anyOverlong items = items.any isOverlong := by
  induction items with
  | nil => rfl
  | cons item rest ih => rw [anyOverlong, ih, List.any_cons]

theorem anyEntryOverlong_eq_any (entries : Entries) :
    anyEntryOverlong entries = entries.any fun entry => entry.1.isOverlong || entry.2.isOverlong := by
  induction entries with
  | nil => rfl
  | cons entry rest ih => rw [anyEntryOverlong, ih, List.any_cons]

end Value

end DatapackAuthoring

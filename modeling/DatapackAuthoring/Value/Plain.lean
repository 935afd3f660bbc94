import DatapackAuthoring.Selector.Argument
/-!
The plain text of a value: a text is itself, an identifier its written name, a selector its
written form. All other values show their literal form. There may be none, for an integer may be
too long, and a selector may hold arguments that cannot be written.
-/
namespace DatapackAuthoring

namespace Value

def barePath : Value → Written
  | text s => .ok s
  | target t => .ok t.glyph
  | other => .error (.noTextForm other.typeName)

mutual

def plain : Value → Written
  | text s => .ok s
  | target t => .ok t.glyph
  | kind k => .ok ("ResourceKind." ++ k.name)
  | tagType t => .ok ("TagType." ++ t.name)
  | map _ entries => literal (map false entries)
  | identifier ns path explicit =>
    if explicit.isTruthy then do
      let ns ← plain ns
      let path ← plain path
      return ns ++ ":" ++ path
    else barePath path
  | spec subject arguments _ _ => do
    let pairs ← Argument.pairs (written arguments)
    return (selectorWording subject pairs).text
  | condition word subject => do
    let word ← plain word
    let subject ← plain subject
    return word ++ " " ++ subject
  | resource _ name _ _ => plain name
  | other => other.literal

def plainItems : List Value → List Written
  | [] => []
  | item :: rest => plain item :: plainItems rest

def itemForms : Value → List Written
  | list items => plainItems items
  | tuple items => plainItems items
  | _ => []

def written : List (Value × Value) → List Argument
  | [] => []
  | (key, value) :: rest =>
    let special := SpecialKey.ofValue? key
    let forms : Forms :=
      { text := plain value, items := itemForms value, scores := scores value,
        progress := progress value }
    { special, label := plain key, texts := forms.underKey special value } :: written rest

def scores : Value → Except Fault (List (String × String))
  | map _ entries => scoreParts entries
  | other => .error (.noAttribute other.typeName "items")

def scoreParts : List (Value × Value) → Except Fault (List (String × String))
  | [] => .ok []
  | (objective, value) :: rest =>
    if value.isAbsent then scoreParts rest
    else do
      let name ← plain objective
      let range ← value.rangeForm (plain value) (itemForms value)
      let others ← scoreParts rest
      return (name, range) :: others

def progress : Value → Except Fault (List (String × Progress))
  | map _ entries => progressParts entries
  | other => .error (.noAttribute other.typeName "items")

/-- The present parts of a group; a part that is a group with nothing in it is left out. -/
def progressParts : List (Value × Value) → Except Fault (List (String × Progress))
  | [] => .ok []
  | (part, value) :: rest =>
    match value with
    | absent => progressParts rest
    | map _ entries => do
      let inner ← progressParts entries
      if inner.isEmpty then progressParts rest
      else do
        let name ← plain part
        let others ← progressParts rest
        return (name, .group inner) :: others
    | other => do
      let name ← plain part
      let others ← progressParts rest
      return (name, .done other.isTruthy) :: others

end

def forms (value : Value) : Forms :=
  { text := plain value, items := itemForms value, scores := scores value,
    progress := progress value }

def numberText (value : Value) : Written := value.numberForm value.plain

def rangeText (value : Value) : Written := value.rangeForm value.plain value.itemForms

def genericTexts (value : Value) : Except Fault (List String) :=
  value.genericForm value.plain value.itemForms

/-- The plain text again, where a target is still known as one: the path that is all of a name,
    and the target that is all of a selector. -/
def wording : Value → Except Fault Wording
  | identifier ns path explicit =>
    match explicit.isTruthy, path with
    | false, target t => .ok (.glyph t)
    | _, _ => (plain (identifier ns path explicit)).map .free
  | resource _ name _ _ => wording name
  | spec subject arguments _ _ => do
    let pairs ← Argument.pairs (written arguments)
    return selectorWording subject pairs
  | other => other.plain.map .free

theorem text_wording (value : Value) : (wording value).map Wording.text = plain value := by
  fun_induction wording value with
  | case1 ns explicit target implicit => simp [plain, implicit, barePath]; rfl
  | case2 ns path explicit => cases plain (identifier ns path explicit) <;> rfl
  | case3 family name payload type ih => simpa only [plain] using ih
  | case4 subject arguments =>
    simp only [plain]
    cases Argument.pairs (written arguments) <;> rfl
  | case5 other => cases plain other <;> rfl

theorem plainItems_eq_map (items : List Value) : plainItems items = items.map plain := by
  induction items with
  | nil => rfl
  | cons item rest ih => simp [plainItems, ih]

theorem itemForms_eq_map (value : Value) :
    itemForms value = (value.asSequence?.getD []).map plain := by
  cases value <;> simp [itemForms, asSequence?, plainItems_eq_map]

end Value

def Argument.ofEntry (entry : Value × Value) : Argument :=
  let special := SpecialKey.ofValue? entry.1
  { special, label := entry.1.plain, texts := entry.2.forms.underKey special entry.2 }

theorem Value.written_eq_map (entries : Entries) :
    written entries = entries.map Argument.ofEntry := by
  induction entries with
  | nil => rfl
  | cons entry rest ih => rw [written, ih]; rfl

end DatapackAuthoring

import DatapackAuthoring.Fault
import DatapackAuthoring.Value.Literal
/-!
The written form of selector arguments: numbers, ranges, scores, advancements, and the order in
which the arguments of a selector appear. What a part looks like on its own, as plain text, is
given; the rules here put parts together.
-/
namespace DatapackAuthoring

open Number

/-- Five keys have rules of their own and come first, in this order. -/
inductive SpecialKey where
  | score
  | advancements
  | tag
  | predicate
  | team
deriving DecidableEq

namespace SpecialKey

def name : SpecialKey → String
  | score => "score"
  | advancements => "advancements"
  | tag => "tag"
  | predicate => "predicate"
  | team => "team"

def all : List SpecialKey := [score, advancements, tag, predicate, team]

theorem mem_all (key : SpecialKey) : key ∈ all := by
  cases key <;> simp [all]

def ofValue? (key : Value) : Option SpecialKey :=
  all.find? fun special => key.asText? == some special.name

end SpecialKey

/-- Advancements and criteria below a selector: a wanted state, or a group of named ones. -/
inductive Progress where
  | done (flag : Bool)
  | group (parts : List (String × Progress))

def yesNo (flag : Bool) : String := if flag then "true" else "false"

def assignment (name value : String) : String := name ++ "=" ++ value

namespace Progress

mutual

def text : Progress → String
  | done flag => yesNo flag
  | group parts => braced (partTexts parts)

def partTexts : List (String × Progress) → List String
  | [] => []
  | (name, part) :: rest => assignment name (text part) :: partTexts rest

end

theorem partTexts_eq_map (parts : List (String × Progress)) :
    partTexts parts = parts.map fun (name, part) => assignment name (text part) := by
  induction parts with
  | nil => rfl
  | cons part rest ih => simp [partTexts, ih]

end Progress

structure Forms where
  text : Written
  items : List Written
  scores : Except Fault (List (String × String))
  progress : Except Fault (List (String × Progress))

namespace Value

/-- A whole floating point number is written like the integer; no and yes in lower case. -/
def numberForm (value : Value) (text : Written) : Written :=
  match value with
  | bool flag => .ok (yesNo flag)
  | float (.finite negative size) =>
    if size.isWhole then
      .ok (wholeText (if negative then -(size.wholePart : Int) else size.wholePart))
    else text
  | _ => text

def boundForm (value : Value) (text : Written) : Written :=
  if value.isAbsent then .ok "" else value.numberForm text

def rangeForm (value : Value) (text : Written) (items : List Written) : Written :=
  match value.asSequence? with
  | none => value.numberForm text
  | some sequence =>
    match sequence, items with
    | [low, high], [lowText, highText] => do
      let low ← low.boundForm lowText
      let high ← high.boundForm highText
      return low ++ ".." ++ high
    | _, _ => do
      let shown ← value.literal
      throw (.notRange shown)

def manyForm (value : Value) (text : Written) (items : List Written) :
    Except Fault (List String) :=
  match value.asSequence? with
  | none => if value.isAbsent then .ok [] else text.map ([·])
  | some sequence =>
    ((sequence.zip items).filter fun item => !item.1.isAbsent).mapM Prod.snd

/-- Any team at all is `!`, no team is the empty text. -/
def teamForm (value : Value) (text : Written) : Written :=
  match value with
  | bool flag => .ok (if flag then "!" else "")
  | _ => text

/-- Texts stand as they are, one for each item of a sequence of texts; all else is a range. -/
def genericForm (value : Value) (text : Written) (items : List Written) :
    Except Fault (List String) :=
  match value.asText?, value.asSequence? with
  | some s, _ => .ok [s]
  | none, some sequence =>
    if sequence.all fun item => item.asText?.isSome then .ok (sequence.filterMap asText?)
    else (value.rangeForm text items).map ([·])
  | none, none => (value.numberForm text).map ([·])

end Value

def groupForm (parts : List String) : List String :=
  if parts.isEmpty then [] else [braced parts]

def Forms.underKey (key : Option SpecialKey) (value : Value) (forms : Forms) :
    Except Fault (List String) :=
  match key with
  | none => value.genericForm forms.text forms.items
  | some special =>
    if value.isAbsent then .ok []
    else match special with
      | .score =>
        forms.scores.map fun scores =>
          groupForm (scores.map fun (objective, range) => assignment objective range)
      | .advancements => forms.progress.map fun parts => groupForm (Progress.partTexts parts)
      | .tag | .predicate => value.manyForm forms.text forms.items
      | .team => (value.teamForm forms.text).map ([·])

structure Argument where
  special : Option SpecialKey
  label : Written
  texts : Except Fault (List String)

namespace Argument

def inOrder (arguments : List Argument) : List Argument :=
  (SpecialKey.all.filterMap fun key =>
    arguments.find? fun argument => argument.special == some key) ++
  arguments.filter fun argument => argument.special.isNone

def labelled (argument : Argument) (texts : List String) : Except Fault (List (String × String)) :=
  texts.mapM fun text => do return (← argument.label, text)

/-- Every text is written before the first key is. -/
def pairs (arguments : List Argument) : Except Fault (List (String × String)) := do
  let ordered := inOrder arguments
  let texts ← ordered.mapM Argument.texts
  let groups ← (ordered.zip texts).mapM fun (argument, texts) => argument.labelled texts
  return groups.flatten

end Argument

def selectorWording (target : Wording) (pairs : List (String × String)) : Wording :=
  if pairs.isEmpty then target
  else .free (target.text ++ bracketed (pairs.map fun (key, text) => assignment key text))

end DatapackAuthoring

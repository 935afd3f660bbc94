import DatapackAuthoring.Datapack.Settings
import DatapackAuthoring.Proofs.Naming.JoinedSegments
import DatapackAuthoring.Proofs.StrippedText
import DatapackAuthoring.Text.LowerCase
import DatapackAuthoring.Text.Quoted
import Mathlib.Data.List.Nodup
/-!
Files of simple lines: blank lines, comments, and lines with a name, an equals sign and a value that
stands without quotes and refers to no other variable. What such lines set can be read off them one
by one, which makes a loader that is good for such files and no others.
-/
namespace DatapackAuthoring

open Text

inductive FileLine where
  | blank (gap : List Char)
  | comment (gap remark : List Char)
  | setting (gap : List Char) (name value : String)

namespace FileLine

def text : FileLine → List Char
  | blank gap => gap
  | comment gap remark => gap ++ '#' :: remark
  | setting gap name value => gap ++ (name.toList ++ '=' :: value.toList)

def setting? : FileLine → Option (String × String)
  | setting _ name value => some (name, value)
  | _ => none

def file (lines : List FileLine) : String := String.ofList (['\n'].intercalate (lines.map text))

def IsLine (chars : List Char) : Prop := ∀ c ∈ chars, c ≠ '\n' ∧ c ≠ '\r'

def IsGap (gap : List Char) : Prop := IsLine gap ∧ ∀ c ∈ gap, isBlank c = true

def IsNameChar (c : Char) : Prop :=
  isBlank c = false ∧ c ≠ '=' ∧ c ≠ '#' ∧ c ≠ apostrophe ∧ c ≠ '\ufeff'
deriving Decidable

structure IsName (name : String) : Prop where
  nonempty : name.toList ≠ []
  plain : ∀ c ∈ name.toList, IsNameChar c

structure IsValue (value : String) : Prop where
  stripped : strip isBlank value.toList = value.toList
  line : IsLine value.toList
  unquoted : value.toList.head? ≠ some apostrophe ∧ value.toList.head? ≠ some doubleQuote
  /-- No comment behind a blank, and no dollar sign before a brace. -/
  literal : value.toList.IsChain fun c next =>
    (next = '#' → isBlank c = false) ∧ (next = '\x7b' → c ≠ '$')

-- All characters of a list are looked at, not all characters there are.

instance (chars : List Char) : Decidable (IsLine chars) := List.decidableBAll _ chars

instance (gap : List Char) : Decidable (IsGap gap) :=
  have : Decidable (∀ c ∈ gap, isBlank c = true) := List.decidableBAll _ gap
  inferInstanceAs (Decidable (_ ∧ _))

instance (name : String) : Decidable (IsName name) :=
  have : Decidable (∀ c ∈ name.toList, IsNameChar c) := List.decidableBAll _ name.toList
  decidable_of_iff (name.toList ≠ [] ∧ ∀ c ∈ name.toList, IsNameChar c)
    ⟨fun ⟨nonempty, plain⟩ => ⟨nonempty, plain⟩, fun named => ⟨named.nonempty, named.plain⟩⟩

instance (value : String) : Decidable (IsValue value) :=
  decidable_of_iff (_ ∧ _ ∧ _ ∧ _)
    ⟨fun ⟨stripped, line, unquoted, literal⟩ => ⟨stripped, line, unquoted, literal⟩,
     fun valued => ⟨valued.stripped, valued.line, valued.unquoted, valued.literal⟩⟩

inductive Simple : FileLine → Prop where
  | blank {gap : List Char} (clear : IsGap gap) : Simple (blank gap)
  | comment {gap remark : List Char} (clear : IsGap gap)
      (line : IsLine remark) : Simple (comment gap remark)
  | setting {gap : List Char} {name value : String} (clear : IsGap gap) (named : IsName name)
      (valued : IsValue value) : Simple (setting gap name value)

instance (line : FileLine) : Decidable line.Simple :=
  match line with
  | blank gap => decidable_of_iff (IsGap gap) ⟨.blank, fun (.blank clear) => clear⟩
  | comment gap remark =>
    decidable_of_iff (IsGap gap ∧ IsLine remark)
      ⟨fun ⟨clear, line⟩ => .comment clear line, fun (.comment clear line) => ⟨clear, line⟩⟩
  | setting gap name value =>
    decidable_of_iff (IsGap gap ∧ IsName name ∧ IsValue value)
      ⟨fun ⟨clear, named, valued⟩ => .setting clear named valued,
       fun (.setting clear named valued) => ⟨clear, named, valued⟩⟩

def read? (line : List Char) : Option (String × String) :=
  match line.dropWhile isBlank with
  | '#' :: _ => none
  | body =>
    (cutFirst '=' body).map fun (name, value) => (String.ofList name, String.ofList value)

variable {line : FileLine}

theorem read?_gap_append {gap : List Char} (clear : IsGap gap) (text : List Char) :
    read? (gap ++ text) = read? text := by
  rw [read?, read?, List.dropWhile_append_of_pos clear.2]

theorem read?_assignment {name : String} (named : IsName name) (value : String) :
    read? (name.toList ++ '=' :: value.toList) = some (name, value) := by
  have first : ∀ c ∈ (name.toList ++ '=' :: value.toList).head?, IsNameChar c := by
    intro c first
    rw [List.head?_append_of_ne_nil _ named.nonempty] at first
    exact named.plain c (List.mem_of_mem_head? first)
  have unassigned : '=' ∉ name.toList := fun member => (named.plain '=' member).2.1 rfl
  rw [read?, dropWhile_of_head? fun c begins => (first c begins).1]
  split
  · rename_i rest remark
    exact absurd rfl (first '#' (by simp [remark])).2.2.1
  · simp [cutFirst_append unassigned]

theorem read?_text (simple : line.Simple) : read? line.text = line.setting? := by
  cases simple with
  | @blank gap clear =>
    have nothing := read?_gap_append clear []
    rwa [List.append_nil] at nothing
  | comment clear => exact (read?_gap_append clear _).trans rfl
  | setting clear named => exact (read?_gap_append clear _).trans (read?_assignment named _)

theorem newline_not_mem_text (simple : line.Simple) : '\n' ∉ line.text := by
  cases simple with
  | blank clear => exact fun member => (clear.1 '\n' member).1 rfl
  | comment clear rest =>
    rw [text, List.mem_append, List.mem_cons]
    rintro (gap | sharp | remark)
    · exact (clear.1 '\n' gap).1 rfl
    · cases sharp
    · exact (rest '\n' remark).1 rfl
  | setting clear named valued =>
    rw [text, List.mem_append, List.mem_append, List.mem_cons]
    rintro (gap | name | equals | value)
    · exact (clear.1 '\n' gap).1 rfl
    · cases (named.plain '\n' name).1
    · cases equals
    · exact (valued.line '\n' value).1 rfl

theorem filterMap_read?_file {lines : List FileLine} (simple : ∀ line ∈ lines, line.Simple) :
    (cut '\n' (file lines).toList).filterMap read? = lines.filterMap setting? := by
  rw [file, String.toList_ofList, cut_eq_splitOn]
  cases lines with
  | nil => rfl
  | cons line rest =>
    have unbroken : ∀ chars ∈ (line :: rest).map text, '\n' ∉ chars := by
      intro chars member
      obtain ⟨own, inside, rfl⟩ := List.mem_map.mp member
      exact newline_not_mem_text (simple own inside)
    rw [List.splitOn_intercalate '\n' unbroken (by simp), List.filterMap_map]
    exact List.filterMap_congr fun own inside => read?_text (simple own inside)

end FileLine

def isSpelling (written name : String) : Bool := lowerCase written == lowerCase name

def firstFor {α : Type} (asked : String → Bool) (entries : List (String × α)) : Option α :=
  (entries.find? fun entry => asked entry.1).map Prod.snd

def Loader.plain : Loader where
  fromGiven entries name := firstFor (· == name) entries
  fromEnvironment entries name := firstFor (isSpelling · name) entries.reverse
  fromFile text name :=
    firstFor (isSpelling · name) ((cut '\n' text.toList).filterMap FileLine.read?).reverse
  chosen found := found.given.getD (.text ((found.environment.or found.file).getD found.default))
  validated values :=
    let refused := [SettingField.defaultNamespace, .defaultDirectory].filter fun field =>
      (values field).asText?.isNone
    if refused.isEmpty then .ok fun field => (values field).asText?.getD "" else .error refused

theorem Loader.plain_texts {sources : Sources} {texts : SettingField → String}
    (found : ∀ field, plain.chosen (plain.candidates sources field) = .text (texts field)) :
    plain.texts sources = .ok texts := by
  rw [Loader.texts, funext found]
  rfl

end DatapackAuthoring

import DatapackAuthoring.Proofs.Outcome
import DatapackAuthoring.Value.Plain
/-!
Why a value may have no plain text. Below the texts of all other values lie four causes: a path
that is no text, a group that has no entries, a range that has no two bounds, and an integer that
has too many digits. So what fails in writing is told apart from what the rules refuse.
-/
namespace DatapackAuthoring

inductive Fault.OfWriting : Fault → Prop where
  | noTextForm (type : String) : OfWriting (.noTextForm type)
  | noAttribute (type name : String) : OfWriting (.noAttribute type name)
  | notRange (value : String) : OfWriting (.notRange value)
  | tooManyDigits : OfWriting .tooManyDigits

/-- A result that is written, or else fails for one of these causes. -/
def Writing {α : Type} (result : Except Fault α) : Prop :=
  ∀ fault, result = .error fault → fault.OfWriting

namespace Writing

variable {α β : Type}

theorem ok (a : α) : Writing (.ok a : Except Fault α) := nofun

theorem error {fault : Fault} (cause : fault.OfWriting) :
    Writing (.error fault : Except Fault α) := by
  rintro _ ⟨⟩
  exact cause

theorem bind {step : Except Fault α} {next : α → Except Fault β} (first : Writing step)
    (later : ∀ a, Writing (next a)) : Writing (step >>= next) := by
  cases step with
  | ok a => exact later a
  | error fault => exact error (first fault rfl)

theorem map {result : Except Fault α} (whole : Writing result) (f : α → β) :
    Writing (result.map f) := by
  cases result with
  | ok a => exact ok (f a)
  | error fault => exact error (whole fault rfl)

theorem mapM {f : α → Except Fault β} {items : List α} (each : ∀ item ∈ items, Writing (f item)) :
    Writing (items.mapM f) := by
  induction items with
  | nil => exact ok []
  | cons item rest ih =>
    rw [List.mapM_cons]
    refine (each item List.mem_cons_self).bind fun b => ?_
    refine (ih fun other later => each other (List.mem_cons_of_mem _ later)).bind fun others => ?_
    exact ok (b :: others)

end Writing

namespace Value

variable {value : Value} {text : Written} {items : List Written}

theorem writing_literal (value : Value) : Writing value.literal := by
  unfold literal
  split
  · exact .error .tooManyDigits
  · exact .ok _

theorem writing_numberForm (own : Writing text) : Writing (value.numberForm text) := by
  unfold numberForm
  split
  · exact .ok _
  · split
    · exact .ok _
    · exact own
  · exact own

theorem writing_boundForm (own : Writing text) : Writing (value.boundForm text) := by
  unfold boundForm
  split
  · exact .ok _
  · exact writing_numberForm own

theorem writing_rangeForm (own : Writing text) (each : ∀ item ∈ items, Writing item) :
    Writing (value.rangeForm text items) := by
  unfold rangeForm
  split
  · exact writing_numberForm own
  · split
    · refine (writing_boundForm (each _ (by simp))).bind fun low => ?_
      exact (writing_boundForm (each _ (by simp))).bind fun high => .ok _
    · exact value.writing_literal.bind fun shown => .error (.notRange shown)

theorem writing_manyForm (own : Writing text) (each : ∀ item ∈ items, Writing item) :
    Writing (value.manyForm text items) := by
  unfold manyForm
  split
  · split
    · exact .ok []
    · exact own.map _
  · apply Writing.mapM
    intro item member
    exact each _ (List.of_mem_zip (List.mem_filter.mp member).1).2

theorem writing_teamForm (own : Writing text) : Writing (value.teamForm text) := by
  unfold teamForm
  split
  · exact .ok _
  · exact own

theorem writing_genericForm (own : Writing text) (each : ∀ item ∈ items, Writing item) :
    Writing (value.genericForm text items) := by
  unfold genericForm
  split
  · exact .ok _
  · split
    · exact .ok _
    · exact (writing_rangeForm own each).map _
  · exact (writing_numberForm own).map _

end Value

structure Forms.Faithful (forms : Forms) : Prop where
  text : Writing forms.text
  items : ∀ item ∈ forms.items, Writing item
  scores : Writing forms.scores
  progress : Writing forms.progress

theorem Forms.Faithful.underKey {forms : Forms} (faithful : forms.Faithful)
    (key : Option SpecialKey) (value : Value) : Writing (forms.underKey key value) := by
  unfold Forms.underKey
  split
  · exact Value.writing_genericForm faithful.text faithful.items
  · split
    · exact .ok []
    · split
      · exact faithful.scores.map _
      · exact faithful.progress.map _
      · exact Value.writing_manyForm faithful.text faithful.items
      · exact Value.writing_manyForm faithful.text faithful.items
      · exact (Value.writing_teamForm faithful.text).map _

namespace Argument

structure Faithful (argument : Argument) : Prop where
  label : Writing argument.label
  texts : Writing argument.texts

theorem mem_of_mem_inOrder {arguments : List Argument} {argument : Argument}
    (member : argument ∈ inOrder arguments) : argument ∈ arguments := by
  rcases List.mem_append.mp member with special | other
  · obtain ⟨key, -, found⟩ := List.mem_filterMap.mp special
    exact List.mem_of_find?_eq_some found
  · exact (List.mem_filter.mp other).1

theorem writing_pairs {arguments : List Argument}
    (each : ∀ argument ∈ arguments, argument.Faithful) : Writing (Argument.pairs arguments) := by
  have ordered : ∀ argument ∈ inOrder arguments, argument.Faithful := fun argument member =>
    each argument (mem_of_mem_inOrder member)
  unfold Argument.pairs
  refine (Writing.mapM fun argument member => (ordered argument member).texts).bind fun texts => ?_
  refine Writing.bind (Writing.mapM ?_) fun groups => .ok _
  rintro ⟨argument, own⟩ member
  apply Writing.mapM
  intro text inside
  exact (ordered argument (List.of_mem_zip member).1).label.bind fun label => .ok _

end Argument

namespace Value

theorem writing_barePath (path : Value) : Writing path.barePath := by
  unfold barePath
  split
  · exact .ok _
  · exact .ok _
  · exact .error (.noTextForm _)

-- One induction over values, their items and their entries, with a case for each way to write.
mutual

theorem writing_plain (value : Value) : Writing value.plain := by
  cases value with
  | identifier ns path explicit =>
    rw [plain]
    split
    · refine (writing_plain ns).bind fun ns => ?_
      exact (writing_plain path).bind fun path => .ok _
    · exact writing_barePath path
  | spec subject arguments single players =>
    rw [plain]
    exact (Argument.writing_pairs (faithful_written arguments)).bind fun pairs => .ok _
  | condition word subject =>
    rw [plain]
    refine (writing_plain word).bind fun word => ?_
    exact (writing_plain subject).bind fun subject => .ok _
  | resource family name payload type =>
    rw [plain]
    exact writing_plain name
  | text s =>
    rw [plain]
    exact .ok s
  | target t =>
    rw [plain]
    exact .ok t.glyph
  | kind k =>
    rw [plain]
    exact .ok _
  | tagType t =>
    rw [plain]
    exact .ok _
  | _ =>
    simp only [plain]
    exact writing_literal _

theorem writing_plainItems (items : List Value) : ∀ item ∈ plainItems items, Writing item := by
  match items with
  | [] =>
    rw [plainItems]
    exact List.forall_mem_nil _
  | item :: rest =>
    intro other member
    rw [plainItems] at member
    rcases List.mem_cons.mp member with rfl | later
    · exact writing_plain item
    · exact writing_plainItems rest other later

theorem writing_itemForms (value : Value) : ∀ item ∈ value.itemForms, Writing item := by
  cases value with
  | list items =>
    rw [itemForms]
    exact writing_plainItems items
  | tuple items =>
    rw [itemForms]
    exact writing_plainItems items
  | _ =>
    simp only [itemForms]
    exact List.forall_mem_nil _

theorem faithful_written (entries : List (Value × Value)) :
    ∀ argument ∈ written entries, argument.Faithful := by
  match entries with
  | [] =>
    rw [written]
    exact List.forall_mem_nil _
  | (key, value) :: rest =>
    intro argument member
    rw [written] at member
    rcases List.mem_cons.mp member with rfl | later
    · have forms : Forms.Faithful ⟨plain value, itemForms value, scores value, progress value⟩ :=
        ⟨writing_plain value, writing_itemForms value, writing_scores value,
          writing_progress value⟩
      exact ⟨writing_plain key, forms.underKey _ value⟩
    · exact faithful_written rest argument later

theorem writing_scores (value : Value) : Writing value.scores := by
  cases value with
  | map frozen entries =>
    rw [scores]
    exact writing_scoreParts entries
  | _ =>
    simp only [scores]
    exact .error (.noAttribute _ _)

theorem writing_scoreParts (entries : List (Value × Value)) : Writing (scoreParts entries) := by
  match entries with
  | [] =>
    rw [scoreParts]
    exact .ok []
  | (objective, value) :: rest =>
    rw [scoreParts]
    split
    · exact writing_scoreParts rest
    · refine (writing_plain objective).bind fun name => ?_
      refine (writing_rangeForm (writing_plain value) (writing_itemForms value)).bind fun range => ?_
      exact (writing_scoreParts rest).bind fun others => .ok _

theorem writing_progress (value : Value) : Writing value.progress := by
  cases value with
  | map frozen entries =>
    rw [progress]
    exact writing_progressParts entries
  | _ =>
    simp only [progress]
    exact .error (.noAttribute _ _)

theorem writing_progressParts (entries : List (Value × Value)) :
    Writing (progressParts entries) := by
  match entries with
  | [] =>
    rw [progressParts]
    exact .ok []
  | (part, value) :: rest =>
    have single (flag : Bool) : Writing (do
        let name ← plain part
        let others ← progressParts rest
        return (name, Progress.done flag) :: others) := by
      refine (writing_plain part).bind fun name => ?_
      exact (writing_progressParts rest).bind fun others => .ok _
    cases value with
    | absent =>
      rw [progressParts]
      exact writing_progressParts rest
    | map frozen inner =>
      rw [progressParts]
      refine (writing_progressParts inner).bind fun parts => ?_
      split
      · exact writing_progressParts rest
      · refine (writing_plain part).bind fun name => ?_
        exact (writing_progressParts rest).bind fun others => .ok _
    | _ =>
      simp only [progressParts]
      exact single _

end

theorem writing_wording (value : Value) : Writing value.wording := by
  intro fault failed
  refine writing_plain value fault ?_
  rw [← text_wording, failed]
  rfl

end Value

end DatapackAuthoring

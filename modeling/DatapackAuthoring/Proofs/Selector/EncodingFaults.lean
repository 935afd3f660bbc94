import DatapackAuthoring.Proofs.Selector.PairsByKey

namespace DatapackAuthoring

open Argument

/-- What a result reports of the faults found: the first, and without any fault it is one. -/
def Reports {α : Type} (result : Except Fault α) : List Fault → Prop
  | [] => ∃ a, result = .ok a
  | fault :: _ => result = .error fault

namespace Reports

variable {α β : Type} {faults others : List Fault}

theorem ok (a : α) : Reports (.ok a : Except Fault α) [] := ⟨a, rfl⟩

theorem error (fault : Fault) : Reports (.error fault : Except Fault α) [fault] := rfl

theorem bind {step : Except Fault α} {next : α → Except Fault β} (first : Reports step faults)
    (later : ∀ a, Reports (next a) others) : Reports (step >>= next) (faults ++ others) := by
  cases faults with
  | nil =>
    obtain ⟨a, rfl⟩ := first
    exact later a
  | cons fault rest =>
    have failed : step = .error fault := first
    rw [failed]
    rfl

theorem map {result : Except Fault α} (reports : Reports result faults) (f : α → β) :
    Reports (result.map f) faults := by
  cases faults with
  | nil =>
    obtain ⟨a, rfl⟩ := reports
    exact ok (f a)
  | cons fault rest =>
    have failed : result = .error fault := reports
    rw [failed]
    rfl

theorem mapM {f : α → Except Fault β} {found : α → List Fault} {items : List α}
    (each : ∀ item ∈ items, Reports (f item) (found item)) :
    Reports (items.mapM f) (items.flatMap found) := by
  induction items with
  | nil => exact ok []
  | cons item rest ih =>
    rw [List.mapM_cons, List.flatMap_cons, ← List.append_nil (rest.flatMap found)]
    refine (each item List.mem_cons_self).bind fun b => ?_
    exact (ih fun other later => each other (List.mem_cons_of_mem _ later)).bind fun _ => ok _

theorem mapM_ok {f : α → Except Fault β} {items : List α}
    (each : ∀ item ∈ items, Reports (f item) []) : Reports (items.mapM f) [] := by
  have nothing : items.flatMap (fun _ => ([] : List Fault)) = [] := by simp
  exact nothing ▸ mapM each

theorem eq_error_iff {result : Except Fault α} {fault : Fault} (reports : Reports result faults) :
    result = .error fault ↔ faults.head? = some fault := by
  cases faults with
  | nil =>
    obtain ⟨a, rfl⟩ := reports
    simp
  | cons first rest =>
    have failed : result = .error first := reports
    simp [failed]

theorem exists_ok_iff {result : Except Fault α} (reports : Reports result faults) :
    (∃ a, result = .ok a) ↔ faults = [] := by
  cases faults with
  | nil => exact iff_of_true reports rfl
  | cons first rest =>
    have failed : result = .error first := reports
    simp [failed]

end Reports

namespace Value

/-- Plain data of any depth, with integers that can be written. -/
inductive IsData : Value → Prop where
  | absent : IsData absent
  | bool (flag : Bool) : IsData (bool flag)
  | int {n : Int} (short : Number.isOverlong n = false) : IsData (int n)
  | float (x : Number.Binary64) : IsData (float x)
  | text (s : String) : IsData (text s)
  | target (t : Target) : IsData (target t)
  | list {items : List Value} (each : ∀ item ∈ items, IsData item) : IsData (list items)
  | tuple {items : List Value} (each : ∀ item ∈ items, IsData item) : IsData (tuple items)
  | map {frozen : Bool} {entries : Entries} (keys : ∀ entry ∈ entries, IsData entry.1)
      (values : ∀ entry ∈ entries, IsData entry.2) : IsData (map frozen entries)

attribute [simp] IsData.absent IsData.bool IsData.int IsData.float IsData.text IsData.target

@[simp] theorem isData_tuple_iff {items : List Value} :
    IsData (tuple items) ↔ ∀ item ∈ items, item.IsData := by
  constructor
  · rintro (_ | _)
    assumption
  · exact .tuple

@[simp] theorem isData_map_iff {frozen : Bool} {entries : Entries} :
    IsData (map frozen entries) ↔ ∀ entry ∈ entries, entry.1.IsData ∧ entry.2.IsData := by
  constructor
  · rintro (_ | _) entry member
    rename_i keys values
    exact ⟨keys entry member, values entry member⟩
  · intro each
    exact .map (fun entry member => (each entry member).1) fun entry member => (each entry member).2

def isLopsided (value : Value) : Bool := value.asSequence?.any fun items => items.length != 2

def isTexts (value : Value) : Bool :=
  value.asSequence?.any fun items => items.all fun item => item.asText?.isSome

def rangeFaults (value : Value) : List Fault :=
  if value.isLopsided then [.notRange value.literalText] else []

def scoreFaults : Value → List Fault
  | absent => []
  | map _ entries => entries.flatMap fun entry => entry.2.rangeFaults
  | other => [.noAttribute other.typeName "items"]

def progressFaults : Value → List Fault
  | absent => []
  | map _ _ => []
  | other => [.noAttribute other.typeName "items"]

def genericFaults (value : Value) : List Fault :=
  if value.isTexts then [] else value.rangeFaults

def faultsUnder (key : Option SpecialKey) (value : Value) : List Fault :=
  match key with
  | none => value.genericFaults
  | some .score => value.scoreFaults
  | some .advancements => value.progressFaults
  | some .tag | some .predicate | some .team => []

namespace IsData

variable {value : Value} {items : List Value}

theorem short (data : value.IsData) : value.isOverlong = false := by
  induction data with
  | int short => exact short
  | list each ih | tuple each ih =>
    rw [isOverlong, anyOverlong_eq_any, List.any_eq_false]
    simpa using ih
  | map keys values first second =>
    rw [isOverlong, anyEntryOverlong_eq_any, List.any_eq_false]
    intro entry member
    simp [first entry member, second entry member]
  | _ => rfl

theorem literal (data : value.IsData) : value.literal = .ok value.literalText :=
  literal_eq_ok_iff.mpr ⟨data.short, rfl⟩

theorem plain (data : value.IsData) : Reports value.plain [] := by
  have shown := data.literal
  cases data with
  | text s =>
    rw [Value.plain]
    exact .ok s
  | target t =>
    rw [Value.plain]
    exact .ok t.glyph
  | @map frozen entries keys values =>
    -- A frozen map shows as the map that it was made from.
    have thawed : (Value.map false entries).IsData := .map keys values
    rw [Value.plain, thawed.literal]
    exact .ok _
  | _ =>
    simp only [Value.plain, shown]
    exact .ok _

theorem item (data : value.IsData) (sequence : value.asSequence? = some items) :
    ∀ item ∈ items, item.IsData := by
  cases data with
  | list each => exact Option.some.inj sequence ▸ each
  | tuple each => exact Option.some.inj sequence ▸ each
  | _ => cases sequence

theorem numberForm (data : value.IsData) : Reports (value.numberForm value.plain) [] := by
  unfold Value.numberForm
  split
  · exact .ok _
  · split
    · exact .ok _
    · exact data.plain
  · exact data.plain

theorem boundForm (data : value.IsData) : Reports (value.boundForm value.plain) [] := by
  unfold Value.boundForm
  split
  · exact .ok _
  · exact data.numberForm

theorem rangeForm (data : value.IsData) :
    Reports (value.rangeForm value.plain value.itemForms) value.rangeFaults := by
  cases sequence : value.asSequence? with
  | none =>
    simp only [Value.rangeForm, rangeFaults, isLopsided, sequence, Option.any_none]
    exact data.numberForm
  | some items =>
    have each := data.item sequence
    simp only [Value.rangeForm, rangeFaults, isLopsided, itemForms_eq_map, sequence,
      Option.any_some, Option.getD_some]
    match items with
    | [low, high] =>
      have lower := (each low (by simp)).boundForm
      have upper := (each high (by simp)).boundForm
      exact lower.bind fun low => upper.bind fun high => .ok _
    | [] | [_] | _ :: _ :: _ :: _ =>
      rw [data.literal]
      exact .error _

theorem manyForm (data : value.IsData) :
    Reports (value.manyForm value.plain value.itemForms) [] := by
  rw [manyForm_eq_mapM]
  apply Reports.mapM_ok
  intro item member
  cases sequence : value.asSequence? with
  | some items =>
    rw [asMany_of_asSequence? sequence] at member
    exact (data.item sequence item (List.mem_filter.mp member).1).plain
  | none =>
    cases missing : value.isAbsent with
    | true =>
      rw [eq_absent_of_isAbsent missing] at member
      cases member
    | false =>
      rw [asMany_of_single sequence missing] at member
      exact (List.mem_singleton.mp member) ▸ data.plain

theorem teamForm (data : value.IsData) : Reports (value.teamForm value.plain) [] := by
  unfold Value.teamForm
  split
  · exact .ok _
  · exact data.plain

theorem genericForm (data : value.IsData) :
    Reports (value.genericForm value.plain value.itemForms) value.genericFaults := by
  cases text : value.asText? with
  | some s =>
    have single := asSequence?_of_asText? text
    simp only [Value.genericForm, genericFaults, rangeFaults, isTexts, isLopsided, text, single]
    exact .ok _
  | none =>
    cases sequence : value.asSequence? with
    | none =>
      simp only [Value.genericForm, genericFaults, rangeFaults, isTexts, isLopsided, text, sequence]
      exact data.numberForm.map _
    | some items =>
      have ranged := data.rangeForm.map ([·])
      simp only [Value.genericForm, genericFaults, isTexts, text, sequence, Option.any_some]
      split
      · exact .ok _
      · exact ranged

theorem scoreParts {entries : Entries} (keys : ∀ entry ∈ entries, IsData entry.1)
    (values : ∀ entry ∈ entries, IsData entry.2) :
    Reports (Value.scoreParts entries) (entries.flatMap fun entry => entry.2.rangeFaults) := by
  induction entries with
  | nil => exact .ok []
  | cons entry rest ih =>
    obtain ⟨objective, range⟩ := entry
    obtain ⟨name, keys⟩ := List.forall_mem_cons.mp keys
    obtain ⟨bounds, values⟩ := List.forall_mem_cons.mp values
    have later := ih keys values
    rw [Value.scoreParts, List.flatMap_cons]
    split
    · rename_i missing
      rw [eq_absent_of_isAbsent missing]
      exact later
    · rw [← List.nil_append (range.rangeFaults ++ _)]
      refine name.plain.bind fun name => bounds.rangeForm.bind fun range => ?_
      rw [← List.append_nil (rest.flatMap _)]
      exact later.bind fun others => .ok _

-- Groups stand in groups, so the parts of a value and the parts in a list of entries go together.
mutual

theorem progress {value : Value} (data : value.IsData) (map : value.asMap?.isSome = true) :
    Reports value.progress [] := by
  cases value with
  | map frozen entries =>
    rw [Value.progress]
    cases data with
    | map keys values => exact progressParts keys values
  | _ => cases map

theorem progressParts {entries : List (Value × Value)}
    (keys : ∀ entry ∈ entries, IsData entry.1) (values : ∀ entry ∈ entries, IsData entry.2) :
    Reports (Value.progressParts entries) [] := by
  match entries with
  | [] => exact .ok []
  | (part, value) :: rest =>
    obtain ⟨name, keys⟩ := List.forall_mem_cons.mp keys
    obtain ⟨state, values⟩ := List.forall_mem_cons.mp values
    have later := progressParts keys values
    have named (state : Progress) : Reports (do
        let name ← part.plain
        let others ← Value.progressParts rest
        return (name, state) :: others) [] :=
      name.plain.bind fun name => later.bind fun others => .ok _
    cases value with
    | absent =>
      rw [Value.progressParts]
      exact later
    | map frozen inner =>
      have group := progress state rfl
      rw [Value.progress] at group
      rw [Value.progressParts]
      refine group.bind fun parts => ?_
      split
      · exact later
      · exact named _
    | _ =>
      simp only [Value.progressParts]
      exact named _

end

theorem scores (data : value.IsData) (present : value.isAbsent = false) :
    Reports value.scores value.scoreFaults := by
  cases value with
  | absent => cases present
  | map frozen entries =>
    rw [Value.scores]
    cases data with
    | map keys values => exact scoreParts keys values
  | _ =>
    simp only [Value.scores]
    exact .error _

theorem progress_of_present (data : value.IsData) (present : value.isAbsent = false) :
    Reports value.progress value.progressFaults := by
  cases value with
  | absent => cases present
  | map frozen entries => exact progress data rfl
  | _ =>
    simp only [Value.progress]
    exact .error _

theorem underKey (data : value.IsData) (key : Option SpecialKey) :
    Reports (value.forms.underKey key value) (value.faultsUnder key) := by
  cases key with
  | none => exact data.genericForm
  | some special =>
    cases present : value.isAbsent with
    | true =>
      rw [eq_absent_of_isAbsent present]
      cases special <;> exact .ok []
    | false =>
      simp only [Forms.underKey, present, Bool.false_eq_true, if_false]
      cases special with
      | score => exact (data.scores present).map _
      | advancements => exact (data.progress_of_present present).map _
      | tag => exact data.manyForm
      | predicate => exact data.manyForm
      | team => exact data.teamForm.map _

end IsData

end Value

namespace Entries

def faults (entries : Entries) : List Fault :=
  entries.flatMap fun entry => entry.2.faultsUnder (SpecialKey.ofValue? entry.1)

theorem faults_under? (entries : Entries) (special : SpecialKey) :
    faults (entries.under? special.name).toList =
      (entries.get special.name).faultsUnder (some special) := by
  rw [get, get?_eq]
  cases found : entries.under? special.name with
  | none => cases special <;> rfl
  | some entry =>
    have known := SpecialKey.ofValue?_eq_some_iff.mpr (asText?_of_under? found)
    simp [faults, known]

end Entries

namespace Spec

/-- All that is wrong with the arguments, in the order in which they are written: a score that is no
map, or else its ranges; advancements that are no map; and the ranges under other keys. -/
def faults (spec : Spec) : List Fault :=
  (spec.arguments.get "score").scoreFaults ++
    ((spec.arguments.get "advancements").progressFaults ++
      (spec.arguments.ofKind none).flatMap fun entry => entry.2.genericFaults)

theorem faults_eq (spec : Spec) : spec.faults = Entries.faults spec.arguments.inOrder := by
  have last : Entries.faults (spec.arguments.ofKind none) =
      (spec.arguments.ofKind none).flatMap fun entry => entry.2.genericFaults := by
    apply List.flatMap_congr
    intro entry member
    rw [(Entries.mem_ofKind_iff.mp member).2]
    rfl
  have append (entries more : Entries) :
      Entries.faults (entries ++ more) = Entries.faults entries ++ Entries.faults more :=
    List.flatMap_append
  rw [Entries.inOrder_eq_append]
  simp only [SpecialKey.all, List.flatMap_cons, List.flatMap_nil, List.append_nil, append,
    Entries.faults_under?, last]
  simp [faults, Value.faultsUnder, SpecialKey.name]

variable {spec : Spec}

theorem reports_pairs (data : (Value.map true spec.arguments).IsData) :
    Reports spec.pairs spec.faults := by
  cases data with
  | map keys values =>
    have texts : Reports ((spec.arguments.inOrder.map ofEntry).mapM Argument.texts)
        (Entries.faults spec.arguments.inOrder) := by
      rw [List.mapM_map]
      apply Reports.mapM
      intro entry member
      exact (values entry (Entries.mem_of_mem_inOrder member)).underKey _
    rw [pairs, Argument.pairs, inOrder_written, faults_eq, ← List.append_nil (Entries.faults _)]
    refine texts.bind fun texts => ?_
    rw [← List.append_nil []]
    refine Reports.bind (Reports.mapM_ok ?_) fun groups => .ok _
    rintro ⟨argument, own⟩ member
    obtain ⟨entry, ordered, rfl⟩ := List.mem_map.mp (List.of_mem_zip member).1
    have label := (keys entry (Entries.mem_of_mem_inOrder ordered)).plain
    exact Reports.mapM_ok fun text _ => label.bind fun label => .ok _

end Spec

/-- Where the arguments are plain data there is a text, unless something is wrong with them, and
then the first of what is wrong is reported. -/
theorem first_fault_reported (spec : Spec) (data : (Value.map true spec.arguments).IsData) :
    (∀ fault, spec.encode = .error fault ↔ spec.faults.head? = some fault) ∧
      ((∃ text, spec.encode = .ok text) ↔ spec.faults = []) := by
  have reports : Reports spec.encode spec.faults := by
    rw [Spec.encode_eq]
    exact (Spec.reports_pairs data).map _
  constructor
  · intro fault
    exact reports.eq_error_iff
  · exact reports.exists_ok_iff

/-- The distance is given first, and of three faults the score is reported. A range without bounds
and groups without parts are no faults. -/
theorem lopsided_score_reported :
    let distance : Value := .tuple [.int 1, .int 2, .int 3]
    let score : Value := .map true
      [(.text "hp", .tuple [.absent, .int 10]), (.text "kills", .tuple [.int 1])]
    let spec : Spec := ⟨.free "@a", [(.text "distance", distance),
      (.text "advancements", .text "root"), (.text "score", score)], .bool false, .bool false⟩
    let whole : Spec := ⟨.free "@a", [(.text "distance", .tuple [.absent, .absent]),
      (.text "advancements", .map true [(.text "root", .map true [])]),
      (.text "score", .map true [(.text "kills", .absent)])], .bool false, .bool false⟩
    (Value.map true spec.arguments).IsData ∧
      spec.encode = .error (.notRange "(1,)") ∧
      spec.faults = [.notRange "(1,)", .noAttribute "str" "items", .notRange "(1, 2, 3)"] ∧
      ∃ text, whole.encode = .ok text := by
  intro distance score spec whole
  have small : ∀ n ∈ [1, 2, 3, 10], Number.isOverlong n = false := by decide
  have data : (Value.map true spec.arguments).IsData := by
    simp at small
    simp [spec, distance, score, small]
  have plain : (Value.map true whole.arguments).IsData := by
    simp [whole]
  exact ⟨data, ((first_fault_reported spec data).1 (.notRange "(1,)")).mpr rfl, rfl,
    (first_fault_reported whole plain).2.mpr rfl⟩

end DatapackAuthoring

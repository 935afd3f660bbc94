import DatapackAuthoring.Proofs.Selector.BuiltSelectors
import DatapackAuthoring.Proofs.Selector.PairsByKey
import DatapackAuthoring.Proofs.Selector.TextReader
/-!
Values without their absent parts. Under the special keys a part that is absent is left out, and a
group of advancements also if nothing is left in it, at every depth. What remains is written in the
same way, and what remains of nothing is not written.
-/
namespace DatapackAuthoring

/-- No group in it is empty, at any depth. -/
inductive Progress.Filled : Progress → Prop where
  | done (flag : Bool) : Filled (done flag)
  | group {parts : List (String × Progress)} (some : parts ≠ [])
      (each : ∀ part ∈ parts, Filled part.2) : Filled (group parts)

theorem braced_eq_iff {parts : List (String × String)} :
    braced (parts.map fun (name, value) => assignment name value) = "\x7b\x7d" ↔ parts = [] := by
  cases parts with
  | nil => simp [braced, commaSeparated]
  | cons part rest =>
    have longer : braced ((part :: rest).map fun (name, value) => assignment name value) ≠
        "\x7b\x7d" := by
      intro same
      have lengths := congrArg (fun text => text.toList.length) same
      simp [braced, toList_commaSeparated, toList_assignment] at lengths
      omega
    exact iff_of_false longer (List.cons_ne_nil part rest)

namespace Value

def presentItems : Value → Value
  | list items => list (items.filter fun item => !item.isAbsent)
  | tuple items => tuple (items.filter fun item => !item.isAbsent)
  | other => other

def presentEntries : Value → Value
  | map frozen entries => map frozen (entries.filter fun entry => !entry.2.isAbsent)
  | other => other

/-- Nothing, or a group with nothing in it. -/
def isBare : Value → Bool
  | absent => true
  | map _ entries => entries.isEmpty
  | _ => false

/-- Nothing, or a sequence with nothing in it. -/
def isVacant : Value → Bool
  | absent => true
  | list items => items.isEmpty
  | tuple items => items.isEmpty
  | _ => false

mutual

def prunedPart : Value → Value
  | map frozen entries => map frozen (prunedParts entries)
  | other => other

def prunedParts : List (Value × Value) → List (Value × Value)
  | [] => []
  | (part, value) :: rest =>
    if (prunedPart value).isBare then prunedParts rest
    else (part, prunedPart value) :: prunedParts rest

end

def pruned (key : Option SpecialKey) (value : Value) : Value :=
  match key with
  | some .score => value.presentEntries
  | some .advancements => value.prunedPart
  | some .tag | some .predicate => value.presentItems
  | some .team | none => value

def isSpent (key : Option SpecialKey) (value : Value) : Bool :=
  match key with
  | some .score | some .advancements => value.isBare
  | some .tag | some .predicate | none => value.isVacant
  | some .team => value.isAbsent

def shown (key : Option SpecialKey) (value : Value) : Except Fault (List String) :=
  value.forms.underKey key value

/- Frozen copies. -/

theorem frozen_presentItems (value : Value) :
    value.presentItems.frozen = value.frozen.presentItems := by
  have present : (fun item => !item.isAbsent) ∘ frozen = fun item => !item.isAbsent := by
    funext item
    simp [isAbsent_frozen]
  cases value <;> simp [presentItems, frozen, frozenItems_eq_map, List.filter_map, present]

theorem frozen_presentEntries (value : Value) :
    value.presentEntries.frozen = value.frozen.presentEntries := by
  have present : (fun entry => !entry.2.isAbsent) ∘
      (fun entry : Value × Value => (entry.1, entry.2.frozen)) =
        fun entry => !entry.2.isAbsent := by
    funext entry
    simp [isAbsent_frozen]
  cases value <;>
    simp [presentEntries, frozen, frozenEntries_eq_map, List.filter_map, present]

theorem isBare_frozen (value : Value) : value.frozen.isBare = value.isBare := by
  cases value <;> simp [frozen, frozenEntries_eq_map, isBare]

theorem isVacant_frozen (value : Value) : value.frozen.isVacant = value.isVacant := by
  cases value <;> simp [frozen, frozenItems_eq_map, isVacant]

mutual

theorem frozen_prunedPart (value : Value) :
    (prunedPart value).frozen = prunedPart value.frozen := by
  cases value with
  | map sealed entries => simp [prunedPart, frozen, frozen_prunedParts entries]
  | _ => simp [prunedPart, frozen]

theorem frozen_prunedParts (entries : List (Value × Value)) :
    frozenEntries (prunedParts entries) = prunedParts (frozenEntries entries) := by
  cases entries with
  | nil => simp [prunedParts, frozenEntries]
  | cons entry rest =>
    obtain ⟨part, value⟩ := entry
    have within := frozen_prunedPart value
    have later := frozen_prunedParts rest
    rw [prunedParts, frozenEntries, prunedParts, ← within, isBare_frozen]
    split
    · exact later
    · rw [frozenEntries, later]

end

theorem frozen_pruned (key : Option SpecialKey) (value : Value) :
    (pruned key value).frozen = pruned key value.frozen := by
  match key with
  | none | some .team => rfl
  | some .score => exact frozen_presentEntries value
  | some .advancements => exact frozen_prunedPart value
  | some .tag | some .predicate => exact frozen_presentItems value

theorem isSpent_frozen (key : Option SpecialKey) (value : Value) :
    isSpent key value.frozen = isSpent key value := by
  match key with
  | none | some .tag | some .predicate => exact isVacant_frozen value
  | some .score | some .advancements => exact isBare_frozen value
  | some .team => exact isAbsent_frozen value

/- Scores. -/

theorem scoreParts_filter (entries : Entries) :
    scoreParts (entries.filter fun entry => !entry.2.isAbsent) = scoreParts entries := by
  induction entries with
  | nil => rfl
  | cons entry rest ih =>
    obtain ⟨objective, value⟩ := entry
    cases missing : value.isAbsent with
    | true => rw [List.filter_cons_of_neg (by simp [missing]), ih, scoreParts, if_pos missing]
    | false => rw [List.filter_cons_of_pos (by simp [missing]), scoreParts, scoreParts, ih]

theorem scoreParts_eq_nil_iff {entries : Entries} {scores : List (String × String)}
    (written : scoreParts entries = .ok scores) :
    scores = [] ↔ (entries.filter fun entry => !entry.2.isAbsent) = [] := by
  induction entries generalizing scores with
  | nil =>
    obtain rfl : [] = scores := Except.ok.inj written
    simp
  | cons entry rest ih =>
    obtain ⟨objective, value⟩ := entry
    rw [scoreParts] at written
    cases missing : value.isAbsent with
    | true =>
      rw [if_pos missing] at written
      rw [List.filter_cons_of_neg (by simp [missing])]
      exact ih written
    | false =>
      rw [if_neg (by simp [missing])] at written
      obtain ⟨name, -, written⟩ := bind_eq_ok_iff.mp written
      obtain ⟨range, -, written⟩ := bind_eq_ok_iff.mp written
      obtain ⟨others, -, written⟩ := bind_eq_ok_iff.mp written
      obtain rfl := Except.ok.inj written
      rw [List.filter_cons_of_pos (by simp [missing])]
      simp

/- Advancements. -/

-- Groups stand in groups, so the parts of a group and those of the groups among them go together.

theorem progressParts_prunedParts (entries : List (Value × Value)) :
    progressParts (prunedParts entries) = progressParts entries := by
  cases entries with
  | nil => rfl
  | cons entry rest =>
    obtain ⟨part, value⟩ := entry
    have later := progressParts_prunedParts rest
    cases value with
    | absent => simpa [prunedParts, prunedPart, isBare, progressParts]
    | map sealed inner =>
      have within := progressParts_prunedParts inner
      cases empty : (prunedParts inner).isEmpty with
      | true =>
        have nothing : progressParts inner = .ok [] := by
          rw [← within, List.isEmpty_iff.mp empty]
          rfl
        simp [prunedParts, prunedPart, isBare, empty, progressParts, nothing, later]
      | false => simp [prunedParts, prunedPart, isBare, empty, progressParts, within, later]
    | _ => simp [prunedParts, prunedPart, isBare, progressParts, later]

/-- What becomes of the parts of a group, part by part. -/
inductive Gathers : List (Value × Value) → List (String × Progress) → Prop where
  | nil : Gathers [] []
  | absent {part : Value} {rest : List (Value × Value)} {parts : List (String × Progress)}
      (later : Gathers rest parts) : Gathers ((part, absent) :: rest) parts
  | emptied {part : Value} {sealed : Bool} {inner rest : List (Value × Value)}
      {parts : List (String × Progress)} (within : Gathers inner []) (later : Gathers rest parts) :
      Gathers ((part, map sealed inner) :: rest) parts
  | group {part : Value} {sealed : Bool} {inner rest : List (Value × Value)} {name : String}
      {own parts : List (String × Progress)} (within : Gathers inner own) (some : own ≠ [])
      (later : Gathers rest parts) :
      Gathers ((part, map sealed inner) :: rest) ((name, .group own) :: parts)
  | state {part value : Value} {rest : List (Value × Value)} {name : String} {flag : Bool}
      {parts : List (String × Progress)} (bare : value.isBare = false)
      (whole : prunedPart value = value) (later : Gathers rest parts) :
      Gathers ((part, value) :: rest) ((name, .done flag) :: parts)

theorem gathers_of_progressParts (entries : List (Value × Value)) :
    ∀ parts, progressParts entries = .ok parts → Gathers entries parts := by
  cases entries with
  | nil =>
    rintro parts ⟨⟩
    exact .nil
  | cons entry rest =>
    obtain ⟨part, value⟩ := entry
    have later := gathers_of_progressParts rest
    intro parts written
    cases value with
    | absent =>
      simp only [progressParts] at written
      exact .absent (later parts written)
    | map sealed inner =>
      have within := gathers_of_progressParts inner
      simp only [progressParts] at written
      obtain ⟨own, group, written⟩ := bind_eq_ok_iff.mp written
      cases own with
      | nil => exact .emptied (within [] group) (later parts written)
      | cons first others =>
        obtain ⟨name, -, written⟩ := bind_eq_ok_iff.mp written
        obtain ⟨more, next, written⟩ := bind_eq_ok_iff.mp written
        obtain rfl := Except.ok.inj written
        exact .group (within _ group) (List.cons_ne_nil first others) (later more next)
    | _ =>
      simp only [progressParts] at written
      obtain ⟨name, -, written⟩ := bind_eq_ok_iff.mp written
      obtain ⟨more, next, written⟩ := bind_eq_ok_iff.mp written
      obtain rfl := Except.ok.inj written
      exact .state rfl (by simp [prunedPart]) (later more next)

variable {entries : List (Value × Value)} {parts : List (String × Progress)}

theorem Gathers.eq_nil_iff (gathers : Gathers entries parts) :
    parts = [] ↔ prunedParts entries = [] := by
  induction gathers with
  | nil => simp [prunedParts]
  | absent later ih => simpa [prunedParts, prunedPart, isBare] using ih
  | emptied within later empty ih =>
    simpa [prunedParts, prunedPart, isBare, empty.mp rfl] using ih
  | group within some later empty ih =>
    have left := mt empty.mpr some
    simp [prunedParts, prunedPart, isBare, left]
  | state bare whole later ih => simp [prunedParts, whole, bare]

theorem Gathers.filled (gathers : Gathers entries parts) : ∀ part ∈ parts, part.2.Filled := by
  induction gathers with
  | nil => simp
  | absent later ih => exact ih
  | emptied within later empty ih => exact ih
  | group within some later own ih => exact List.forall_mem_cons.mpr ⟨.group some own, ih⟩
  | state bare whole later ih => exact List.forall_mem_cons.mpr ⟨.done _, ih⟩

theorem filled_of_progress {value : Value} {parts : List (String × Progress)}
    (made : value.progress = .ok parts) : ∀ part ∈ parts, part.2.Filled := by
  cases value with
  | map sealed entries =>
    rw [progress] at made
    exact (gathers_of_progressParts entries parts made).filled
  | _ => simp [progress] at made

/- Sequences. -/

theorem asMany_presentItems (value : Value) : value.presentItems.asMany = value.asMany := by
  cases value <;> simp [presentItems, asMany]

theorem asMany_eq_nil_iff {value : Value} (present : value.isAbsent = false) :
    value.asMany = [] ↔ value.presentItems.isVacant = true := by
  cases value with
  | absent => cases present
  | list items | tuple items => simp [presentItems, asMany, isVacant]
  | _ => simp [presentItems, asMany, isVacant]

theorem isVacant_of_single {value : Value} (single : value.asSequence? = none)
    (present : value.isAbsent = false) : value.isVacant = false := by
  cases value with
  | absent => cases present
  | list items | tuple items => cases single
  | _ => rfl

theorem isVacant_of_asSequence? {value : Value} {items : List Value}
    (sequence : value.asSequence? = some items) : value.isVacant = items.isEmpty := by
  cases value with
  | list own | tuple own => rw [← Option.some.inj sequence, isVacant]
  | _ => cases sequence

theorem genericForm_eq_nil_iff {value : Value} (present : value.isAbsent = false)
    {texts : List String}
    (written : value.genericForm value.plain value.itemForms = .ok texts) :
    texts = [] ↔ value.isVacant = true := by
  have one {result : Written} (made : result.map ([·]) = .ok texts) : texts ≠ [] := by
    obtain ⟨text, -, rfl⟩ := map_eq_ok_iff.mp made
    exact List.cons_ne_nil text []
  cases sequence : value.asSequence? with
  | none =>
    have some : texts ≠ [] := by
      cases text : value.asText? with
      | none =>
        simp only [genericForm, text, sequence] at written
        exact one written
      | some s =>
        simp only [genericForm, text, sequence] at written
        obtain rfl := Except.ok.inj written
        exact List.cons_ne_nil s []
    simp [some, isVacant_of_single sequence present]
  | some items =>
    simp only [genericForm, asText?_of_asSequence? sequence, sequence] at written
    rw [isVacant_of_asSequence? sequence]
    split at written
    · rename_i all
      obtain rfl := Except.ok.inj written
      cases items with
      | nil => simp
      | cons item rest =>
        obtain ⟨s, text⟩ := Option.isSome_iff_exists.mp (List.all_eq_true.mp all item (by simp))
        simp [text]
    · rename_i all
      have some : items ≠ [] := by
        rintro rfl
        exact all rfl
      simp [one written, some]

/- Any value, under any key. -/

theorem shown_pruned (key : Option SpecialKey) (value : Value) :
    shown key (pruned key value) = shown key value := by
  match key with
  | none | some .team => rfl
  | some .tag => simp only [shown, pruned, underKey_many (.inl rfl), asMany_presentItems]
  | some .predicate => simp only [shown, pruned, underKey_many (.inr rfl), asMany_presentItems]
  | some .score =>
    cases value with
    | map sealed entries =>
      simp only [pruned, presentEntries, shown, Forms.underKey, forms, scores, scoreParts_filter]
      rfl
    | _ => rfl
  | some .advancements =>
    cases value with
    | map sealed entries =>
      simp only [pruned, prunedPart, shown, Forms.underKey, forms, progress,
        progressParts_prunedParts]
      rfl
    | _ => simp only [pruned, prunedPart]

theorem groupForm_eq_nil_iff {parts : List String} : groupForm parts = [] ↔ parts = [] := by
  cases parts <;> simp [groupForm]

theorem shown_eq_nil_iff {key : Option SpecialKey} {value : Value} {texts : List String}
    (present : value.isAbsent = false) (written : shown key value = .ok texts) :
    texts = [] ↔ isSpent key (pruned key value) = true := by
  have many {special : SpecialKey} (many : special = .tag ∨ special = .predicate)
      (written : shown (some special) value = .ok texts) :
      texts = [] ↔ value.presentItems.isVacant = true := by
    rw [shown, underKey_many many] at written
    rw [← asMany_eq_nil_iff present]
    cases items : value.asMany with
    | nil =>
      rw [items] at written
      obtain rfl : [] = texts := Except.ok.inj written
      simp
    | cons item rest =>
      rw [items] at written
      obtain ⟨text, others, -, -, rfl⟩ := mapM_cons_eq_ok_iff.mp written
      simp
  match key with
  | none => exact genericForm_eq_nil_iff present written
  | some .team =>
    simp only [shown, Forms.underKey, present, Bool.false_eq_true, if_false] at written
    obtain ⟨text, -, rfl⟩ := map_eq_ok_iff.mp written
    simp [isSpent, pruned, present]
  | some .tag => exact many (.inl rfl) written
  | some .predicate => exact many (.inr rfl) written
  | some .score =>
    simp only [shown, Forms.underKey, present, Bool.false_eq_true, if_false] at written
    obtain ⟨scores, scored, rfl⟩ := map_eq_ok_iff.mp written
    rw [groupForm_eq_nil_iff, List.map_eq_nil_iff]
    cases value with
    | map sealed entries =>
      rw [scoreParts_eq_nil_iff scored]
      simp [isSpent, pruned, presentEntries, isBare]
    | absent => cases present
    | _ => cases scored
  | some .advancements =>
    simp only [shown, Forms.underKey, present, Bool.false_eq_true, if_false] at written
    obtain ⟨parts, made, rfl⟩ := map_eq_ok_iff.mp written
    rw [groupForm_eq_nil_iff, Progress.partTexts_eq_map, List.map_eq_nil_iff]
    cases value with
    | map sealed entries =>
      rw [(gathers_of_progressParts entries parts made).eq_nil_iff]
      simp [isSpent, pruned, prunedPart, isBare]
    | absent => cases present
    | _ => cases made

end Value

end DatapackAuthoring

import DatapackAuthoring.Proofs.Selector.PrunedValues
import DatapackAuthoring.Proofs.Selector.TextReadsBack

namespace DatapackAuthoring

open Argument

namespace Value

theorem isSpent_of_isAbsent {value : Value} (missing : value.isAbsent = true)
    (key : Option SpecialKey) : isSpent key (pruned key value) = true := by
  rw [eq_absent_of_isAbsent missing]
  rcases key with _ | _ | _ | _ | _ | _ <;> rfl

theorem isAbsent_of_isSpent_eq_false {key : Option SpecialKey} {value : Value}
    (left : isSpent key value = false) : value.isAbsent = false := by
  cases value with
  | absent => rcases key with _ | _ | _ | _ | _ | _ <;> cases left
  | _ => rfl

end Value

namespace Entries

def remainder? (entry : Value × Value) : Option (Value × Value) :=
  let key := SpecialKey.ofValue? entry.1
  let value := Value.pruned key entry.2
  if Value.isSpent key value then none else some (entry.1, value)

def pruned (entries : Entries) : Entries := entries.filterMap remainder?

def frozenEntry (entry : Value × Value) : Value × Value := (entry.1, entry.2.frozen)

variable {entry kept : Value × Value} {entries arguments : Entries}

theorem remainder?_eq_none_iff :
    remainder? entry = none ↔
      Value.isSpent (SpecialKey.ofValue? entry.1)
        (Value.pruned (SpecialKey.ofValue? entry.1) entry.2) = true := by
  simp [remainder?]

theorem remainder?_eq_some_iff :
    remainder? entry = some kept ↔
      Value.isSpent (SpecialKey.ofValue? entry.1)
          (Value.pruned (SpecialKey.ofValue? entry.1) entry.2) = false ∧
        kept = (entry.1, Value.pruned (SpecialKey.ofValue? entry.1) entry.2) := by
  simp only [remainder?, Option.ite_none_left_eq_some, Option.some.injEq, Bool.not_eq_true]
  exact and_congr_right' eq_comm

theorem keepsKeys_remainder? : KeepsKeys remainder? := by
  intro entry kept left
  rw [(remainder?_eq_some_iff.mp left).2]

theorem isAbsent_of_remainder? (left : remainder? entry = some kept) :
    kept.2.isAbsent = false := by
  obtain ⟨unspent, rfl⟩ := remainder?_eq_some_iff.mp left
  exact Value.isAbsent_of_isSpent_eq_false unspent

theorem remainder?_frozenEntry (entry : Value × Value) :
    remainder? (frozenEntry entry) = (remainder? entry).map frozenEntry := by
  simp only [remainder?, frozenEntry, ← Value.frozen_pruned, Value.isSpent_frozen]
  split <;> rfl

theorem pruned_filter_isAbsent (entries : Entries) :
    pruned (entries.filter fun entry => !entry.2.isAbsent) = entries.pruned := by
  rw [pruned, pruned, List.filterMap_filter]
  congr 1
  funext entry
  cases missing : entry.2.isAbsent with
  | true => simp [remainder?_eq_none_iff.mpr (Value.isSpent_of_isAbsent missing _)]
  | false => simp

theorem filter_isAbsent_pruned (entries : Entries) :
    (entries.pruned.filter fun entry => !entry.2.isAbsent) = entries.pruned := by
  rw [List.filter_eq_self]
  intro kept member
  obtain ⟨entry, -, left⟩ := List.mem_filterMap.mp member
  simp [isAbsent_of_remainder? left]

theorem pruned_map_frozenEntry (entries : Entries) :
    pruned (entries.map frozenEntry) = entries.pruned.map frozenEntry := by
  rw [pruned, pruned, List.filterMap_map, List.map_filterMap]
  congr 1
  funext entry
  exact remainder?_frozenEntry entry

/-- The frozen copy of what is left is what is left of the frozen copy. -/
theorem frozenArguments_pruned {sealed : Bool}
    (copied : frozenArguments (.map sealed entries) = .ok arguments) :
    frozenArguments (.map sealed entries.pruned) = .ok arguments.pruned ∧
      (arguments.pruned = [] ↔ entries.pruned = []) := by
  obtain rfl : (entries.filter fun entry => !entry.2.isAbsent).map frozenEntry = arguments :=
    Except.ok.inj copied
  have copy : frozenArguments (.map sealed entries.pruned) =
      .ok ((entries.pruned.filter fun entry => !entry.2.isAbsent).map frozenEntry) := rfl
  rw [copy, filter_isAbsent_pruned, pruned_map_frozenEntry, pruned_filter_isAbsent]
  simp

theorem get_pruned (apart : entries.Apart) (key : String)
    (other : SpecialKey.ofValue? (.text key) = none) :
    entries.pruned.get key = entries.get key ∨ entries.pruned.get key = .absent := by
  rw [get, get, get?_eq, get?_eq, pruned, apart.under?_filterMap keepsKeys_remainder?]
  cases found : entries.under? key with
  | none => exact .inr rfl
  | some entry =>
    have unspecial : SpecialKey.ofValue? entry.1 = none := by
      rw [← other, SpecialKey.ofValue?, SpecialKey.ofValue?, asText?_of_under? found]
      rfl
    rw [Option.bind_some]
    cases left : remainder? entry with
    | none => exact .inr rfl
    | some kept =>
      obtain ⟨-, rfl⟩ := remainder?_eq_some_iff.mp left
      rw [unspecial]
      exact .inl rfl

theorem own_remainder? (left : remainder? entry = some kept) :
    (ofEntry kept).own = (ofEntry entry).own := by
  obtain ⟨-, rfl⟩ := remainder?_eq_some_iff.mp left
  have texts := Value.shown_pruned (SpecialKey.ofValue? entry.1) entry.2
  simp only [Value.shown] at texts
  simp only [own, ofEntry, labelled, texts]

theorem own_eq_nil_iff {pairs : List (String × String)} (present : entry.2.isAbsent = false)
    (written : (ofEntry entry).own = .ok pairs) : pairs = [] ↔ remainder? entry = none := by
  obtain ⟨texts, shown, labelled⟩ := bind_eq_ok_iff.mp written
  rw [remainder?_eq_none_iff, ← Value.shown_eq_nil_iff present shown]
  cases texts with
  | nil =>
    obtain rfl : [] = pairs := Except.ok.inj labelled
    simp
  | cons text rest =>
    obtain ⟨pair, others, -, -, rfl⟩ := mapM_cons_eq_ok_iff.mp labelled
    simp

theorem collected_pruned {pairs : List (String × String)}
    (present : ∀ entry ∈ entries, entry.2.isAbsent = false)
    (written : entries.collected = .ok pairs) :
    entries.pruned.collected = .ok pairs ∧ (pairs = [] ↔ entries.pruned = []) := by
  induction entries generalizing pairs with
  | nil =>
    obtain rfl : [] = pairs := Except.ok.inj written
    simp [pruned, collected]
  | cons entry rest ih =>
    obtain ⟨here, present⟩ := List.forall_mem_cons.mp present
    obtain ⟨own, others, first, later, rfl⟩ := collected_cons_eq_ok_iff.mp written
    obtain ⟨same, none⟩ := ih present later
    have nothing := own_eq_nil_iff here first
    cases left : remainder? entry with
    | none =>
      obtain rfl := nothing.mpr left
      rw [pruned, List.filterMap_cons_none left]
      exact ⟨same, none⟩
    | some kept =>
      have some : own ≠ [] := fun empty => by cases (nothing.mp empty).symm.trans left
      rw [pruned, List.filterMap_cons_some left, collected_cons_eq_ok_iff, own_remainder? left]
      exact ⟨⟨own, others, first, same, rfl⟩, by simp [some]⟩

theorem apart_of_frozenArguments {sealed : Bool} (apart : entries.Apart)
    (copied : frozenArguments (.map sealed entries) = .ok arguments) : arguments.Apart := by
  obtain rfl : (entries.filter fun entry => !entry.2.isAbsent).map frozenEntry = arguments :=
    Except.ok.inj copied
  have given := apart.sublist (entries.filter_sublist (p := fun entry => !entry.2.isAbsent))
  rw [Apart, List.filterMap_map]
  exact given

end Entries

namespace Spec

def pruned (spec : Spec) : Spec := { spec with arguments := spec.arguments.pruned }

variable {spec : Spec}

theorem sortWarnings_pruned {warnings : List Warning} (apart : spec.arguments.Apart)
    (found : spec.sortWarnings = .ok warnings) : ∃ left, spec.pruned.sortWarnings = .ok left := by
  rcases Entries.get_pruned apart "sort" rfl with same | missing
  · refine ⟨warnings, ?_⟩
    rw [← found, sortWarnings, sortWarnings, pruned, same]
  · exact ⟨[], by simp [sortWarnings, pruned, missing, Value.isAbsent]⟩

theorem gameModeWarnings_pruned {warnings : List Warning} (apart : spec.arguments.Apart)
    (found : spec.gameModeWarnings = .ok warnings) :
    ∃ left, spec.pruned.gameModeWarnings = .ok left := by
  rcases Entries.get_pruned apart "gamemode" rfl with same | missing
  · refine ⟨warnings, ?_⟩
    rw [← found, gameModeWarnings, gameModeWarnings, pruned, same]
  · exact ⟨[], by simp [gameModeWarnings, pruned, missing, Value.isAbsent]⟩

theorem build_pruned {target : Value} {sealed : Bool} {entries : Entries} (apart : entries.Apart)
    (built : (build target (.map sealed entries) (.bool false) (.bool false)).result = .ok spec) :
    (build target (.map sealed entries.pruned) (.bool false) (.bool false)).result =
      .ok spec.pruned := by
  obtain ⟨accepted, sort, mode, sorted, played⟩ := build_result_eq_ok_iff.mp built
  have own := Entries.apart_of_frozenArguments apart accepted.arguments
  obtain ⟨left, sorts⟩ := sortWarnings_pruned own sorted
  obtain ⟨more, plays⟩ := gameModeWarnings_pruned own played
  refine build_result_eq_ok_iff.mpr ⟨⟨accepted.target, ?_, accepted.singleResultOnly,
    accepted.playersOnly, ?_⟩, left, more, sorts, plays⟩
  · exact (Entries.frozenArguments_pruned accepted.arguments).1
  · rw [checkCapabilities_eq_ok_iff]
    simp [pruned, accepted.singleResultOnly, accepted.playersOnly, Value.isTruthy]

theorem pairs_pruned {pairs : List (String × String)} (apart : spec.arguments.Apart)
    (present : ∀ entry ∈ spec.arguments, entry.2.isAbsent = false)
    (written : spec.pairs = .ok pairs) :
    spec.pruned.pairs = .ok pairs ∧ (pairs = [] ↔ spec.arguments.pruned = []) := by
  have left : spec.arguments.pruned.Apart := apart.filterMap Entries.keepsKeys_remainder?
  have order : spec.arguments.pruned.inOrder = Entries.pruned spec.arguments.inOrder :=
    apart.inOrder_filterMap Entries.keepsKeys_remainder?
  rw [pairs_eq_ok_iff_collected] at written ⊢
  rw [← left.inOrder_eq_nil_iff, pruned, order]
  exact Entries.collected_pruned
    (fun entry member => present entry (Entries.mem_of_mem_inOrder member)) written

theorem filled_of_pairsUnder {pairs : List (String × String)}
    (written : spec.pairsUnder .advancements = .ok pairs) :
    ∀ pair ∈ pairs, ∃ group : Progress, group.Filled ∧ pair = ("advancements", group.text) := by
  rw [pairsUnder, Entries.collected_eq_ok_iff] at written
  obtain ⟨parts, made, rfl⟩ :=
    (writesAll_grouped_iff .advancements [] Progress.partTexts rfl rfl).mp written
  have filled : ∀ part ∈ parts, part.2.Filled := by
    split at made
    · obtain rfl : [] = parts := Except.ok.inj made
      simp
    · exact Value.filled_of_progress made
  intro pair member
  obtain ⟨text, grouped, rfl⟩ := List.mem_map.mp member
  cases parts with
  | nil => cases grouped
  | cons part rest =>
    obtain rfl := List.mem_singleton.mp grouped
    exact ⟨.group (part :: rest), .group (List.cons_ne_nil part rest) filled, rfl⟩

theorem text_of_pairs {pairs : List (String × String)} {text : String}
    (written : spec.pairs = .ok pairs) (encoded : spec.encode = .ok text) :
    (text = spec.target.text ↔ pairs = []) ∧
      (pairs ≠ [] → text = spec.target.text ++
        bracketed (pairs.map fun (key, value) => assignment key value)) := by
  rw [encode_eq, written] at encoded
  obtain rfl := Except.ok.inj encoded
  cases pairs with
  | nil => simp [selectorWording, Wording.text]
  | cons pair rest =>
    have longer : spec.target.text ++
        bracketed ((pair :: rest).map fun (key, value) => assignment key value) ≠
          spec.target.text := by
      intro same
      have lengths := congrArg (fun text => text.toList.length) same
      simp [bracketed] at lengths
    exact ⟨iff_of_false longer (List.cons_ne_nil pair rest), fun _ => rfl⟩

end Spec

/-- Absent parts leave no trace in the text of a selector. What is left of its arguments without
them has the same text; that is the target alone exactly if nothing is left, and else the target
with at least one pair. No group in it is empty, and the text of an empty group is that of no other
group. -/
theorem absent_parts_leave_no_trace :
    (∀ (target : Value) (sealed : Bool) (entries : Entries) (spec : Spec) (text : String),
      entries.Apart →
      (Spec.build target (.map sealed entries) (.bool false) (.bool false)).result = .ok spec →
      spec.encode = .ok text →
      (∃ left : Spec, left.encode = .ok text ∧
        (Spec.build target (.map sealed entries.pruned) (.bool false) (.bool false)).result =
          .ok left) ∧
      (text = spec.target.text ↔ entries.pruned = []) ∧
      (entries.pruned ≠ [] → ∃ pairs : List (String × String), pairs ≠ [] ∧
        text = spec.target.text ++
          bracketed (pairs.map fun (key, value) => assignment key value)) ∧
      (∀ pairs, spec.pairsUnder .advancements = .ok pairs →
        ∀ pair ∈ pairs, ∃ group : Progress, group.Filled ∧
          pair = ("advancements", group.text))) ∧
    (∀ parts : List (String × String),
      braced (parts.map fun (name, value) => assignment name value) = "\x7b\x7d" ↔
        parts = []) := by
  constructor
  · intro target sealed entries spec text apart built encoded
    obtain ⟨pairs, written, -⟩ := map_eq_ok_iff.mp (spec.encode_eq ▸ encoded)
    have accepted := (Spec.build_result_eq_ok_iff.mp built).1
    have own := Entries.apart_of_frozenArguments apart accepted.arguments
    have present : ∀ entry ∈ spec.arguments, entry.2.isAbsent = false :=
      fun entry member => isAbsent_of_mem_frozenArguments accepted.arguments member
    have none := (Entries.frozenArguments_pruned accepted.arguments).2
    obtain ⟨same, empty⟩ := Spec.pairs_pruned own present written
    obtain ⟨bare, listed⟩ := Spec.text_of_pairs written encoded
    refine ⟨⟨spec.pruned, ?_, Spec.build_pruned apart built⟩, ?_, ?_, ?_⟩
    · rw [← encoded, Spec.encode_eq, Spec.encode_eq, same, written]
      rfl
    · exact bare.trans (empty.trans none)
    · intro some
      have pairs_ne_nil := fun nothing => some (none.mp (empty.mp nothing))
      exact ⟨pairs, pairs_ne_nil, listed pairs_ne_nil⟩
    · intro own written
      exact Spec.filled_of_pairsUnder written
  · intro parts
    exact braced_eq_iff

theorem deep_state_and_one_tag_left :
    let entries : Entries :=
      [(.text "type", .list []), (.text "sort", .absent), (.text "team", .bool false),
       (.text "tag", .list [.absent, .text "boss"]), (.text "predicate", .tuple [.absent]),
       (.text "advancements", .map false [
         (.text "story", .map false [(.text "iron", .map false [(.text "deep", .absent)])]),
         (.text "nether", .map false [(.text "root", .map false []), (.text "brew", .int 1)])]),
       (.text "score", .map false [(.text "kills", .absent)])]
    let left : Entries :=
      [(.text "team", .bool false), (.text "tag", .list [.text "boss"]),
       (.text "advancements", .map false [(.text "nether", .map false [(.text "brew", .int 1)])])]
    let nothing : Entries :=
      [(.text "advancements", .map false [(.text "story", .map false [])]), (.text "x", .tuple [])]
    let text := "@e[advancements=\x7bnether=\x7bbrew=true\x7d\x7d, tag=boss, team=]"
    let build (arguments : Entries) :=
      (Spec.build (.target .allEntities) (.map false arguments) (.bool false) (.bool false)).result
    entries.Apart ∧ entries.pruned = left ∧ nothing.pruned = [] ∧
      (∃ spec, build entries = .ok spec ∧ spec.encode = .ok text) ∧
      (∃ spec, build left = .ok spec ∧ spec.encode = .ok text) ∧
      ∃ spec, build nothing = .ok spec ∧ spec.encode = .ok spec.target.text := by
  intro entries left nothing text build
  have apart : entries.Apart := by
    show List.Nodup _
    decide
  have few : nothing.Apart := by
    show List.Nodup _
    decide
  have pruned : entries.pruned = left := rfl
  obtain ⟨spec, built, encoded⟩ :
      ∃ spec, build entries = .ok spec ∧ spec.encode = .ok text := ⟨_, rfl, rfl⟩
  obtain ⟨rest, written, rebuilt⟩ :=
    (absent_parts_leave_no_trace.1 _ false entries spec text apart built encoded).1
  obtain ⟨bare, unbuilt, alone⟩ :
      ∃ spec, build nothing = .ok spec ∧ spec.encode = .ok "@e" := ⟨_, rfl, rfl⟩
  have target := (absent_parts_leave_no_trace.1 _ false nothing bare "@e" few unbuilt alone).2.1
  exact ⟨apart, pruned, rfl, ⟨spec, built, encoded⟩, ⟨rest, pruned ▸ rebuilt, written⟩,
    bare, unbuilt, target.mpr rfl ▸ alone⟩

end DatapackAuthoring

import DatapackAuthoring.Proofs.Selector.RangeTexts

namespace DatapackAuthoring

open Number

def IsPlainNumber (text : String) : Prop :=
  ∃ negative body, text = String.ofList (signText negative ++ body) ∧ IsPlain body

def IsMarkedNumber (text : String) : Prop :=
  ∃ negative body, text = String.ofList (signText negative ++ body) ∧ IsMarked '-' body

theorem IsPlainNumber.mark_not_mem {text : String} (plain : IsPlainNumber text) :
    'e' ∉ text.toList := by
  obtain ⟨negative, body, rfl, digits⟩ := plain
  rw [String.toList_ofList, List.mem_append]
  rintro (sign | inside)
  · cases negative <;> simp [signText] at sign
  · exact digits.mark_not_mem inside

theorem IsMarkedNumber.mark_mem {text : String} (marked : IsMarkedNumber text) :
    'e' ∈ text.toList := by
  obtain ⟨negative, body, rfl, power⟩ := marked
  rw [String.toList_ofList]
  exact List.mem_append_right _ power.mark_mem

theorem IsMarkedNumber.not_plain {text : String} (marked : IsMarkedNumber text) :
    ¬ IsPlainNumber text :=
  fun plain => plain.mark_not_mem marked.mark_mem

namespace Value

/-- The text is that of the number, with a power of ten if the number is tiny and only then. -/
structure ShowsNumber (value : Value) (text : String) : Prop where
  written : value.numberText = .ok text
  plain_iff : IsPlainNumber text ↔ value.isTiny = false
  marked_iff : IsMarkedNumber text ↔ value.isTiny = true

inductive ShowsBound : Value → String → Prop where
  | missing : ShowsBound absent ""
  | number {value : Value} {text : String} (shown : value.ShowsNumber text) : ShowsBound value text

inductive ShowsRange (value : Value) : String → Prop where
  | number {text : String} (shown : value.ShowsNumber text) : ShowsRange value text
  | pair {low high : Value} {lowText highText : String}
      (sequence : value.asSequence? = some [low, high]) (lower : low.ShowsBound lowText)
      (upper : high.ShowsBound highText) : ShowsRange value (lowText ++ ".." ++ highText)

variable {value : Value}

theorem exists_showsNumber (number : value.isNumber = true) : ∃ text, value.ShowsNumber text := by
  obtain ⟨negative, body, written, numeral⟩ := exists_numeral number
  cases tiny : value.isTiny with
  | true =>
    rw [tiny, if_pos rfl] at numeral
    have marked : IsMarkedNumber (String.ofList (signText negative ++ body)) :=
      ⟨negative, body, rfl, numeral⟩
    exact ⟨_, written, iff_of_false marked.not_plain (by simp [tiny]), iff_of_true marked tiny⟩
  | false =>
    rw [tiny, if_neg Bool.false_ne_true] at numeral
    have plain : IsPlainNumber (String.ofList (signText negative ++ body)) :=
      ⟨negative, body, rfl, numeral⟩
    have unmarked := fun marked : IsMarkedNumber _ => marked.not_plain plain
    exact ⟨_, written, iff_of_true plain tiny, iff_of_false unmarked (by simp [tiny])⟩

theorem exists_showsBound (bound : value.isBound = true) :
    ∃ text, value.boundForm value.plain = .ok text ∧ value.ShowsBound text := by
  obtain rfl | number := isBound_iff.mp bound
  · exact ⟨"", rfl, .missing⟩
  · obtain ⟨text, shown⟩ := exists_showsNumber number
    exact ⟨text, (boundForm_of_isNumber number).trans shown.written, .number shown⟩

theorem exists_showsRange (range : value.isRange = true) :
    ∃ text, value.rangeText = .ok text ∧ value.ShowsRange text := by
  obtain number | ⟨low, high, sequence, lower, upper⟩ := isRange_iff.mp range
  · obtain ⟨text, shown⟩ := exists_showsNumber number
    exact ⟨text, (rangeText_of_isNumber number).trans shown.written, .number shown⟩
  · obtain ⟨lowText, below, lower⟩ := exists_showsBound lower
    obtain ⟨highText, above, upper⟩ := exists_showsBound upper
    exact ⟨_, rangeText_of_pair sequence below above, .pair sequence lower upper⟩

theorem asText?_of_isBound (bound : value.isBound = true) : value.asText? = none := by
  obtain rfl | number := isBound_iff.mp bound
  · rfl
  · obtain ⟨n, -, rfl⟩ | ⟨negative, size, rfl⟩ := isNumber_iff.mp number <;> rfl

theorem genericTexts_of_isRange (range : value.isRange = true) :
    value.genericTexts = value.rangeText.map ([·]) := by
  obtain number | ⟨low, high, sequence, lower, upper⟩ := isRange_iff.mp range
  · rw [rangeText_of_isNumber number]
    obtain ⟨n, -, rfl⟩ | ⟨negative, size, rfl⟩ := isNumber_iff.mp number <;> rfl
  · rw [genericTexts_of_asSequence? sequence, if_neg]
    simp [asText?_of_isBound lower]

theorem scoreParts_of_ranges {entries : Entries} {scores : List (String × String)}
    (ranges : ∀ entry ∈ entries, entry.2 = absent ∨ entry.2.isRange = true)
    (written : scoreParts entries = .ok scores) :
    List.Forall₂ (fun entry score => entry.1.plain = .ok score.1 ∧ entry.2.ShowsRange score.2)
      (entries.filter fun entry => !entry.2.isAbsent) scores := by
  induction entries generalizing scores with
  | nil =>
    obtain rfl : [] = scores := Except.ok.inj written
    exact .nil
  | cons entry rest ih =>
    obtain ⟨objective, value⟩ := entry
    obtain ⟨own, ranges⟩ := List.forall_mem_cons.mp ranges
    rw [scoreParts] at written
    cases missing : value.isAbsent with
    | true =>
      rw [if_pos missing] at written
      rw [List.filter_cons_of_neg (by simp [missing])]
      exact ih ranges written
    | false =>
      rw [if_neg (by simp [missing])] at written
      rw [List.filter_cons_of_pos (by simp [missing])]
      obtain ⟨name, named, written⟩ := bind_eq_ok_iff.mp written
      obtain ⟨text, ranged, written⟩ := bind_eq_ok_iff.mp written
      obtain ⟨others, later, written⟩ := bind_eq_ok_iff.mp written
      obtain rfl : (name, text) :: others = scores := Except.ok.inj written
      have range : value.isRange = true := by
        obtain rfl | range := own
        · cases missing
        · exact range
      obtain ⟨shown, whole, shows⟩ := exists_showsRange range
      obtain rfl : shown = text := Except.ok.inj (whole.symm.trans ranged)
      exact .cons ⟨named, shows⟩ (ih ranges later)

end Value

namespace Spec

variable {spec : Spec} {pairs : List (String × String)}

theorem textsUnder_of_range (named : spec.arguments.Named) (written : spec.pairs = .ok pairs)
    {key : String} (generic : SpecialKey.ofValue? (.text key) = none) {value : Value}
    (given : spec.arguments.get? key = some value) (range : value.isRange = true) :
    ∃ text, textsUnder key pairs = [text] ∧ value.ShowsRange text := by
  obtain ⟨text, whole, shows⟩ := Value.exists_showsRange range
  have texts := textsUnder_eq named written given
  rw [generic] at texts
  refine ⟨text, ?_, shows⟩
  have single : value.genericTexts = .ok [text] := by
    rw [Value.genericTexts_of_isRange range, whole]
    rfl
  exact Except.ok.inj (texts.symm.trans single)

theorem textsUnder_score (named : spec.arguments.Named) (written : spec.pairs = .ok pairs)
    {frozen : Bool} {entries : Entries}
    (given : spec.arguments.get? "score" = some (.map frozen entries))
    (ranges : ∀ entry ∈ entries, entry.2 = .absent ∨ entry.2.isRange = true) :
    ∃ scores : List (String × String),
      textsUnder "score" pairs =
        groupForm (scores.map fun (objective, text) => assignment objective text) ∧
      List.Forall₂ (fun entry score => entry.1.plain = .ok score.1 ∧ entry.2.ShowsRange score.2)
        (entries.filter fun entry => !entry.2.isAbsent) scores := by
  have texts := textsUnder_eq named written given
  obtain ⟨scores, parts, texts⟩ := map_eq_ok_iff.mp texts
  exact ⟨scores, texts.symm, Value.scoreParts_of_ranges ranges parts⟩

end Spec

/-- A number is written in plain digits, however large it is, unless it lies between zero and one
ten-thousandth on either side of zero; then it is written with a negative power of ten. So are the
bounds of a range, by themselves and in the text of a selector, and the bounds of the scores. -/
theorem plain_digits_unless_tiny (value : Value) (range : value.isRange = true) :
    (value.asSequence? = none → ∃ text, value.numberText = .ok text ∧
      (IsPlainNumber text ↔ value.isTiny = false) ∧
      (IsMarkedNumber text ↔ value.isTiny = true)) ∧
    (∃ text, value.rangeText = .ok text ∧ value.ShowsRange text) ∧
    (∀ (spec : Spec) (pairs : List (String × String)), spec.arguments.Named →
      spec.pairs = .ok pairs →
        (∀ key : String, SpecialKey.ofValue? (.text key) = none →
          spec.arguments.get? key = some value →
            ∃ text, textsUnder key pairs = [text] ∧ value.ShowsRange text) ∧
        (∀ (frozen : Bool) (entries : Entries),
          spec.arguments.get? "score" = some (.map frozen entries) →
          (∀ entry ∈ entries, entry.2 = .absent ∨ entry.2.isRange = true) →
            ∃ scores : List (String × String),
              textsUnder "score" pairs =
                groupForm (scores.map fun (objective, text) => assignment objective text) ∧
              List.Forall₂
                (fun entry score => entry.1.plain = .ok score.1 ∧ entry.2.ShowsRange score.2)
                (entries.filter fun entry => !entry.2.isAbsent) scores)) := by
  refine ⟨?_, Value.exists_showsRange range, ?_⟩
  · intro scalar
    obtain ⟨text, shown⟩ := Value.exists_showsNumber (Value.isNumber_of_isRange range scalar)
    exact ⟨text, shown.written, shown.plain_iff, shown.marked_iff⟩
  · intro spec pairs named written
    constructor
    · intro key generic given
      exact Spec.textsUnder_of_range named written generic given range
    · intro frozen entries given ranges
      exact Spec.textsUnder_score named written given ranges

theorem small_distance_and_large_score_plain :
    let distance : Value := .float (.ofDecimal false 1 (-4))
    let kills : Value := .tuple [.float (.ofDecimal true 1 22), .absent]
    let spec : Spec := ⟨.free "@e", [(.text "distance", distance),
      (.text "score", .map true [(.text "kills", kills)])], .bool false, .bool false⟩
    let pairs := [("score", "\x7bkills=-10000000000000000000000..\x7d"), ("distance", "0.0001")]
    spec.pairs = .ok pairs ∧ IsPlainNumber "0.0001" ∧ distance.ShowsRange "0.0001" ∧
      kills.ShowsRange "-10000000000000000000000.." ∧
      ∃ text, textsUnder "score" pairs = groupForm [assignment "kills" text] ∧
        kills.ShowsRange text := by
  intro distance kills spec pairs
  have named : spec.arguments.Named := ⟨by simp [spec, Value.asText?], by decide +kernel⟩
  have written : spec.pairs = .ok pairs := by decide +kernel
  have bound : kills.isRange = true := by decide +kernel
  obtain ⟨number, -, texts⟩ := plain_digits_unless_tiny distance (by decide +kernel)
  obtain ⟨single, scores⟩ := texts spec pairs named written
  refine ⟨written, ?_, ?_, ?_, ?_⟩
  · obtain ⟨text, shown, plain_iff, -⟩ := number rfl
    have known : distance.numberText = .ok "0.0001" := by decide +kernel
    obtain rfl : "0.0001" = text := Except.ok.inj (known.symm.trans shown)
    exact plain_iff.mpr (by decide +kernel)
  · obtain ⟨text, shown, shows⟩ := single "distance" rfl rfl
    obtain rfl : "0.0001" = text := (List.cons.inj shown).1
    exact shows
  · obtain ⟨-, ⟨text, shown, shows⟩, -⟩ := plain_digits_unless_tiny kills bound
    have known : kills.rangeText = .ok "-10000000000000000000000.." := by decide +kernel
    obtain rfl : "-10000000000000000000000.." = text := Except.ok.inj (known.symm.trans shown)
    exact shows
  · have bounds : ∀ entry ∈ [(Value.text "kills", kills)],
        entry.2 = .absent ∨ entry.2.isRange = true := by
      intro entry member
      rw [List.mem_singleton.mp member]
      exact .inr bound
    obtain ⟨listed, shown, each⟩ := scores true [(.text "kills", kills)] rfl bounds
    obtain _ | @⟨_, ⟨name, text⟩, _, _, ⟨plain, shows⟩, none⟩ := each
    obtain rfl : "kills" = name := Except.ok.inj plain
    cases none
    exact ⟨text, shown, shows⟩

theorem one_hundred_thousandth_marked :
    let value : Value := .float (.ofDecimal false 1 (-5))
    let spec : Spec := ⟨.free "@e", [(.text "distance", .tuple [.absent, value])],
      .bool false, .bool false⟩
    value.isNumber = true ∧ value.numberText = .ok "1e-05" ∧ ¬ IsPlainNumber "1e-05" ∧
      spec.encode = .ok "@e[distance=..1e-05]" := by
  intro value spec
  refine ⟨by decide +kernel, by decide +kernel, ?_, by decide +kernel⟩
  intro plain
  exact plain.mark_not_mem (by decide)

end DatapackAuthoring

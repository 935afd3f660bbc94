import DatapackAuthoring.Proofs.Selector.NumberTexts
import DatapackAuthoring.Proofs.Selector.TypePairs
/-!
Ranges and their texts. A number has at most one point, and digits on both sides of it, so two
points in a row stand between two bounds and nowhere else. The text of a range therefore shows
whether there are two bounds, where the one ends and the other begins, and what they are.
-/
namespace DatapackAuthoring

open Number

namespace Value

def isBound (value : Value) : Bool := value.isAbsent || value.isNumber

/-- A number, or two bounds. -/
def isRange (value : Value) : Bool :=
  match value.asSequence? with
  | none => value.isNumber
  | some [low, high] => low.isBound && high.isBound
  | some _ => false

inductive SameBound : Value → Value → Prop where
  | none : SameBound absent absent
  | number {a b : Value} (first : a.isNumber = true) (second : b.isNumber = true)
      (equal : a.same b = true) : SameBound a b

inductive SameRange (a b : Value) : Prop where
  | number (first : a.isNumber = true) (second : b.isNumber = true) (equal : a.same b = true)
  | pair {low high down up : Value} (first : a.asSequence? = some [low, high])
      (second : b.asSequence? = some [down, up]) (lower : low.SameBound down)
      (upper : high.SameBound up)

end Value

/- Two points in a row. -/

/-- At most one point, and none at either end. -/
structure InnerPoint (text : List Char) : Prop where
  first : text.head? ≠ some '.'
  last : text.getLast? ≠ some '.'
  once : text.count '.' ≤ 1

namespace InnerPoint

variable {text low high before after : List Char}

theorem nil : InnerPoint [] := ⟨by simp, by simp, by simp⟩

theorem of_digits (own : Digits text) : InnerPoint text := by
  have point : '.' ∉ text := own.not_mem rfl
  refine ⟨fun first => point (List.mem_of_head? first),
    fun last => point (List.mem_of_getLast? last), ?_⟩
  rw [List.count_eq_zero_of_not_mem point]
  exact Nat.zero_le 1

theorem between (lower : InnerPoint low) (upper : Digits high) (some : low ≠ [])
    (middle : List Char) (single : (low ++ middle).count '.' ≤ 1) :
    InnerPoint (low ++ middle ++ high) := by
  refine ⟨?_, ?_, ?_⟩
  · rw [List.append_assoc, List.head?_append_of_ne_nil _ some]
    exact lower.first
  · rw [List.getLast?_append_of_ne_nil _ upper.some]
    exact (of_digits upper).last
  · rw [List.count_append, List.count_eq_zero_of_not_mem (upper.not_mem rfl)]
    exact single

theorem of_isPlain (plain : IsPlain text) : InnerPoint text := by
  cases plain with
  | whole own => exact of_digits own
  | @point whole places front back =>
    have single : (whole ++ ['.']).count '.' ≤ 1 := by
      rw [List.count_append, List.count_eq_zero_of_not_mem (front.not_mem rfl)]
      exact Nat.le_refl 1
    have inner := (of_digits front).between back front.some ['.'] single
    simpa using inner

theorem of_isMarked (marked : IsMarked '-' text) : InnerPoint text := by
  have lone {digit : Char} (front : digit.isDigit = true) : Digits [digit] :=
    ⟨by simp, by simpa using front⟩
  have none {digit : Char} (front : digit.isDigit = true) : [digit].count '.' = 0 :=
    List.count_eq_zero_of_not_mem ((lone front).not_mem rfl)
  cases marked with
  | lone front back =>
    refine (of_digits (lone front)).between back (by simp) ['e', '-'] ?_
    rw [List.count_append, none front]
    decide
  | @many digit places power front middle back =>
    have single : ([digit] ++ ('.' :: places ++ ['e', '-'])).count '.' ≤ 1 := by
      rw [List.count_append, none front, List.count_append, List.count_cons_self,
        List.count_eq_zero_of_not_mem (middle.not_mem rfl)]
      decide
    have inner := (of_digits (lone front)).between back (by simp) ('.' :: places ++ ['e', '-']) single
    simpa using inner

theorem signed (inner : InnerPoint text) (some : text ≠ []) (negative : Bool) :
    InnerPoint (signText negative ++ text) := by
  cases negative with
  | false => exact inner
  | true =>
    refine ⟨by simp [signText], ?_, ?_⟩
    · rw [List.getLast?_append_of_ne_nil _ some]
      exact inner.last
    · simpa [signText] using inner.once

theorem ne_split (inner : InnerPoint text) : text ≠ before ++ ['.', '.'] ++ after := by
  rintro rfl
  have twice := inner.once
  simp only [List.count_append, List.count_cons_self, List.count_nil] at twice
  omega

theorem split_iff (lower : InnerPoint low) (upper : InnerPoint high) :
    low ++ ['.', '.'] ++ high = before ++ ['.', '.'] ++ after ↔ before = low ∧ after = high := by
  constructor
  · intro same
    rw [List.append_assoc, List.append_assoc, List.append_eq_append_iff] at same
    obtain ⟨more, rfl, rest⟩ | ⟨more, rfl, rest⟩ := same
    · match more with
      | [] => simpa using rest.symm
      | [c] =>
        have late : high = '.' :: after := by simpa using (List.cons.inj rest).2
        exact absurd (by rw [late]; rfl) upper.first
      | c :: d :: more =>
        have late : high = more ++ ['.', '.'] ++ after := by
          simpa using (List.cons.inj (List.cons.inj rest).2).2
        exact absurd late upper.ne_split
    · match more with
      | [] => simpa using rest
      | [c] =>
        obtain rfl := (List.cons.inj rest).1
        exact absurd (by simp) lower.last
      | c :: d :: more =>
        obtain ⟨rfl, tail⟩ := List.cons.inj rest
        have point : d = '.' := (List.cons.inj tail).1.symm
        have early : before ++ '.' :: d :: more = before ++ ['.', '.'] ++ more := by simp [point]
        exact absurd early lower.ne_split
  · rintro ⟨rfl, rfl⟩
    rfl

section

variable {text low high before after : String}

theorem text_ne_split (inner : InnerPoint text.toList) : text ≠ before ++ ".." ++ after := by
  rintro rfl
  have parts : (before ++ ".." ++ after).toList = before.toList ++ ['.', '.'] ++ after.toList := by
    simp only [String.toList_append]
    rfl
  exact inner.ne_split parts

theorem text_split_iff (lower : InnerPoint low.toList) (upper : InnerPoint high.toList) :
    low ++ ".." ++ high = before ++ ".." ++ after ↔ before = low ∧ after = high := by
  have points : "..".toList = ['.', '.'] := rfl
  simp only [← String.toList_inj, String.toList_append, points]
  exact lower.split_iff upper

end

end InnerPoint

/- The texts of numbers, bounds and pairs. -/

namespace Value

theorem isAbsent_of_isNumber {value : Value} (number : value.isNumber = true) :
    value.isAbsent = false := by
  obtain ⟨n, -, rfl⟩ | ⟨negative, size, rfl⟩ := isNumber_iff.mp number <;> rfl

theorem asSequence?_of_isNumber {value : Value} (number : value.isNumber = true) :
    value.asSequence? = none := by
  obtain ⟨n, -, rfl⟩ | ⟨negative, size, rfl⟩ := isNumber_iff.mp number <;> rfl

theorem asSequence?_ne_of_isNumber {value : Value} {items : List Value}
    (number : value.isNumber = true) : value.asSequence? ≠ some items := by
  rw [asSequence?_of_isNumber number]
  exact (Option.some_ne_none items).symm

theorem isBound_iff {value : Value} :
    value.isBound = true ↔ value = absent ∨ value.isNumber = true := by
  rw [isBound, Bool.or_eq_true]
  constructor
  · exact Or.imp_left eq_absent_of_isAbsent
  · exact Or.imp_left fun missing => missing ▸ rfl

theorem isRange_iff {value : Value} :
    value.isRange = true ↔ value.isNumber = true ∨
      ∃ low high, value.asSequence? = some [low, high] ∧ low.isBound = true ∧
        high.isBound = true := by
  constructor
  · intro range
    unfold isRange at range
    split at range
    · exact .inl range
    · rename_i low high sequence
      exact .inr ⟨low, high, sequence, Bool.and_eq_true_iff.mp range⟩
    · cases range
  · rintro (number | ⟨low, high, sequence, lower, upper⟩)
    · simpa only [isRange, asSequence?_of_isNumber number] using number
    · simp only [isRange, sequence, lower, upper, Bool.and_self]

theorem isNumber_of_isRange {value : Value} (range : value.isRange = true)
    (scalar : value.asSequence? = none) : value.isNumber = true := by
  simpa only [isRange, scalar] using range

theorem isBound_of_isRange {pair low high : Value} (range : pair.isRange = true)
    (sequence : pair.asSequence? = some [low, high]) :
    low.isBound = true ∧ high.isBound = true := by
  simpa only [isRange, sequence, Bool.and_eq_true] using range

variable {value pair low high : Value} {lowText highText : String}

theorem exists_numberText (number : value.isNumber = true) :
    ∃ text, value.numberText = .ok text ∧ text ≠ "" ∧ InnerPoint text.toList := by
  obtain ⟨negative, body, written, numeral⟩ := exists_numeral number
  have inner : body ≠ [] ∧ InnerPoint body := by
    split at numeral
    · obtain ⟨c, rest, some, -⟩ := numeral.exists_cons
      exact ⟨by simp [some], .of_isMarked numeral⟩
    · obtain ⟨c, rest, some, -⟩ := numeral.exists_cons
      exact ⟨by simp [some], .of_isPlain numeral⟩
  refine ⟨_, written, ?_, ?_⟩
  · intro empty
    have nothing := congrArg String.toList empty
    rw [String.toList_ofList] at nothing
    exact inner.1 (List.append_eq_nil_iff.mp nothing).2
  · rw [String.toList_ofList]
    exact inner.2.signed inner.1 negative

theorem boundForm_of_isNumber (number : value.isNumber = true) :
    value.boundForm value.plain = value.numberText := by
  rw [boundForm, isAbsent_of_isNumber number]
  rfl

theorem exists_boundForm (bound : value.isBound = true) :
    ∃ text, value.boundForm value.plain = .ok text ∧ (text = "" ↔ value = absent) ∧
      InnerPoint text.toList := by
  obtain rfl | number := isBound_iff.mp bound
  · exact ⟨"", rfl, by simp, .nil⟩
  · obtain ⟨text, written, some, inner⟩ := exists_numberText number
    refine ⟨text, (boundForm_of_isNumber number).trans written, iff_of_false some ?_, inner⟩
    rintro rfl
    cases number

theorem rangeText_of_isNumber (number : value.isNumber = true) :
    value.rangeText = value.numberText := by
  rw [rangeText, rangeForm, asSequence?_of_isNumber number]
  rfl

theorem rangeText_of_pair (sequence : pair.asSequence? = some [low, high])
    (lower : low.boundForm low.plain = .ok lowText)
    (upper : high.boundForm high.plain = .ok highText) :
    pair.rangeText = .ok (lowText ++ ".." ++ highText) := by
  simp only [rangeText, rangeForm, sequence, itemForms_eq_map, Option.getD_some, List.map_cons,
    List.map_nil, lower, upper]
  rfl

theorem boundForm_eq_iff {a b : Value} (first : a.isBound = true) (second : b.isBound = true) :
    a.boundForm a.plain = b.boundForm b.plain ↔ a.SameBound b := by
  obtain ⟨text, written, open_iff, -⟩ := exists_boundForm first
  obtain ⟨other, rewritten, other_iff, -⟩ := exists_boundForm second
  constructor
  · intro same
    obtain rfl : text = other := by
      rw [written, rewritten] at same
      exact Except.ok.inj same
    obtain rfl | number := isBound_iff.mp first
    · rw [other_iff.mp (open_iff.mpr rfl)]
      exact .none
    · obtain rfl | numeral := isBound_iff.mp second
      · obtain rfl := open_iff.mp (other_iff.mpr rfl)
        cases number
      · rw [boundForm_of_isNumber number, boundForm_of_isNumber numeral] at same
        exact .number number numeral ((numberText_eq_iff number numeral).mp same)
  · rintro (_ | ⟨number, numeral, equal⟩)
    · rfl
    · rw [boundForm_of_isNumber number, boundForm_of_isNumber numeral]
      exact (numberText_eq_iff number numeral).mpr equal

theorem numberText_ne_rangeText {low high : Value} (number : value.isNumber = true)
    (sequence : pair.asSequence? = some [low, high]) (lower : low.isBound = true)
    (upper : high.isBound = true) : value.numberText ≠ pair.rangeText := by
  obtain ⟨text, written, -, inner⟩ := exists_numberText number
  obtain ⟨lowText, below, -⟩ := exists_boundForm lower
  obtain ⟨highText, above, -⟩ := exists_boundForm upper
  rw [written, rangeText_of_pair sequence below above]
  intro same
  exact inner.text_ne_split (Except.ok.inj same)

theorem rangeText_of_pair_eq_iff {other low high down up : Value}
    (first : pair.asSequence? = some [low, high]) (second : other.asSequence? = some [down, up])
    (lower : low.isBound = true) (upper : high.isBound = true) (below : down.isBound = true)
    (above : up.isBound = true) :
    pair.rangeText = other.rangeText ↔ low.SameBound down ∧ high.SameBound up := by
  rw [← boundForm_eq_iff lower below, ← boundForm_eq_iff upper above]
  obtain ⟨lowText, lower, -, left⟩ := exists_boundForm lower
  obtain ⟨highText, upper, -, right⟩ := exists_boundForm upper
  obtain ⟨downText, below, -⟩ := exists_boundForm below
  obtain ⟨upText, above, -⟩ := exists_boundForm above
  rw [rangeText_of_pair first lower upper, rangeText_of_pair second below above, lower, upper,
    below, above]
  simp only [Except.ok.injEq]
  rw [left.text_split_iff right, @eq_comm _ downText, @eq_comm _ upText]

theorem rangeText_eq_iff {a b : Value} (first : a.isRange = true) (second : b.isRange = true) :
    a.rangeText = b.rangeText ↔ a.SameRange b := by
  obtain number | ⟨low, high, sequence, lower, upper⟩ := isRange_iff.mp first
  · obtain numeral | ⟨down, up, pair, below, above⟩ := isRange_iff.mp second
    · rw [rangeText_of_isNumber number, rangeText_of_isNumber numeral,
        numberText_eq_iff number numeral]
      constructor
      · exact .number number numeral
      · rintro (⟨-, -, equal⟩ | ⟨pair, -⟩)
        · exact equal
        · exact absurd pair (asSequence?_ne_of_isNumber number)
    · rw [rangeText_of_isNumber number]
      refine iff_of_false (numberText_ne_rangeText number pair below above) ?_
      rintro (⟨-, numeral, -⟩ | ⟨sequence, -⟩)
      · exact absurd pair (asSequence?_ne_of_isNumber numeral)
      · exact absurd sequence (asSequence?_ne_of_isNumber number)
  · obtain numeral | ⟨down, up, pair, below, above⟩ := isRange_iff.mp second
    · rw [rangeText_of_isNumber numeral]
      refine iff_of_false (numberText_ne_rangeText numeral sequence lower upper).symm ?_
      rintro (⟨number, -, -⟩ | ⟨-, pair, -⟩)
      · exact absurd sequence (asSequence?_ne_of_isNumber number)
      · exact absurd pair (asSequence?_ne_of_isNumber numeral)
    · rw [rangeText_of_pair_eq_iff sequence pair lower upper below above]
      constructor
      · rintro ⟨bottom, top⟩
        exact .pair sequence pair bottom top
      · rintro (⟨number, -, -⟩ | ⟨own, others, bottom, top⟩)
        · exact absurd sequence (asSequence?_ne_of_isNumber number)
        · rw [sequence] at own
          rw [pair] at others
          cases own
          cases others
          exact ⟨bottom, top⟩

end Value

/-- A range is determined by its text. In the text of a number there are no two points in a row, in
that of a pair there are two in one place, and what stands on either side are the texts of the
bounds, empty for a bound that is left open and for no other. Two ranges have the same text exactly
if both are numbers, and equal, or both are pairs of the same bounds. -/
theorem range_text_determines_range (a b : Value) (first : a.isRange = true)
    (second : b.isRange = true) :
    (a.asSequence? = none → ∃ text, a.rangeText = .ok text ∧ a.numberText = .ok text ∧
      ∀ before after, text ≠ before ++ ".." ++ after) ∧
    (∀ low high, a.asSequence? = some [low, high] → ∃ lowText highText,
      low.boundForm low.plain = .ok lowText ∧ (lowText = "" ↔ low = .absent) ∧
      high.boundForm high.plain = .ok highText ∧ (highText = "" ↔ high = .absent) ∧
      a.rangeText = .ok (lowText ++ ".." ++ highText) ∧
      ∀ before after, lowText ++ ".." ++ highText = before ++ ".." ++ after ↔
        before = lowText ∧ after = highText) ∧
    (a.rangeText = b.rangeText ↔ a.SameRange b) := by
  refine ⟨?_, ?_, Value.rangeText_eq_iff first second⟩
  · intro scalar
    have number := Value.isNumber_of_isRange first scalar
    obtain ⟨text, written, -, inner⟩ := Value.exists_numberText number
    exact ⟨text, (Value.rangeText_of_isNumber number).trans written, written,
      fun _ _ => inner.text_ne_split⟩
  · intro low high sequence
    obtain ⟨lower, upper⟩ := Value.isBound_of_isRange first sequence
    obtain ⟨lowText, below, lowOpen, left⟩ := Value.exists_boundForm lower
    obtain ⟨highText, above, highOpen, right⟩ := Value.exists_boundForm upper
    exact ⟨lowText, highText, below, lowOpen, above, highOpen,
      Value.rangeText_of_pair sequence below above, fun _ _ => left.text_split_iff right⟩

theorem open_range_from_large_bound :
    let whole : Value := .list [.int (10 ^ 22), .absent]
    let float : Value := .tuple [.float (.ofDecimal false 1 22), .absent]
    let text := "10000000000000000000000.."
    whole.isRange = true ∧ float.isRange = true ∧ whole.rangeText = .ok text ∧
      float.rangeText = .ok text ∧
      ∀ before after, text = before ++ ".." ++ after ↔
        before = "10000000000000000000000" ∧ after = "" := by
  intro whole float text
  have first : whole.isRange = true := rfl
  have second : float.isRange = true := by decide +kernel
  obtain ⟨-, split, same⟩ := range_text_determines_range whole float first second
  obtain ⟨lowText, highText, lower, -, upper, -, written, parts⟩ := split _ _ rfl
  obtain rfl : "10000000000000000000000" = lowText := Except.ok.inj lower
  obtain rfl : "" = highText := Except.ok.inj upper
  have alike : whole.SameRange float :=
    .pair rfl rfl (.number rfl (by decide +kernel) (by decide +kernel)) .none
  exact ⟨first, second, written, (same.mpr alike).symm.trans written, parts⟩

end DatapackAuthoring

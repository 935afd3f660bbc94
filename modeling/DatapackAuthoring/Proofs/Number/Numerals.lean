import DatapackAuthoring.Number.Notation
import Mathlib.Data.List.TakeWhile

namespace DatapackAuthoring.Number

attribute [local instance (2000)] instPowNat

structure Digits (text : List Char) : Prop where
  some : text ≠ []
  all : ∀ c ∈ text, c.isDigit = true

inductive IsPlain : List Char → Prop where
  | whole {digits : List Char} (own : Digits digits) : IsPlain digits
  | point {whole places : List Char} (front : Digits whole) (back : Digits places) :
      IsPlain (whole ++ '.' :: places)

/-- A leading digit and perhaps further ones behind a point, then the power of ten. -/
inductive IsMarked (sign : Char) : List Char → Prop where
  | lone {digit : Char} {power : List Char} (front : digit.isDigit = true) (back : Digits power) :
      IsMarked sign (digit :: 'e' :: sign :: power)
  | many {digit : Char} {places power : List Char} (front : digit.isDigit = true)
      (middle : Digits places) (back : Digits power) :
      IsMarked sign (digit :: '.' :: places ++ 'e' :: sign :: power)

namespace Digits

variable {digits others : List Char}

theorem append (own : Digits digits) (more : ∀ c ∈ others, c.isDigit = true) :
    Digits (digits ++ others) :=
  ⟨by simp [own.some], by simpa [or_imp, forall_and] using ⟨own.all, more⟩⟩

theorem behind (own : Digits digits) (more : ∀ c ∈ others, c.isDigit = true) :
    Digits (others ++ digits) :=
  ⟨by simp [own.some], by simpa [or_imp, forall_and] using ⟨more, own.all⟩⟩

theorem not_mem (own : Digits digits) {c : Char} (odd : c.isDigit = false) : c ∉ digits := by
  intro member
  rw [own.all c member] at odd
  cases odd

theorem exists_cons (own : Digits digits) :
    ∃ c rest, digits = c :: rest ∧ c.isDigit = true := by
  cases digits with
  | nil => exact absurd rfl own.some
  | cons c rest => exact ⟨c, rest, rfl, own.all c List.mem_cons_self⟩

end Digits

theorem IsPlain.exists_cons {text : List Char} (plain : IsPlain text) :
    ∃ c rest, text = c :: rest ∧ c.isDigit = true := by
  cases plain with
  | whole own => exact own.exists_cons
  | point front back =>
    obtain ⟨c, rest, rfl, digit⟩ := front.exists_cons
    exact ⟨c, _, rfl, digit⟩

theorem IsMarked.exists_cons {sign : Char} {text : List Char} (marked : IsMarked sign text) :
    ∃ c rest, text = c :: rest ∧ c.isDigit = true := by
  cases marked with
  | lone front back => exact ⟨_, _, rfl, front⟩
  | many front middle back => exact ⟨_, _, rfl, front⟩

theorem IsMarked.mark_mem {sign : Char} {text : List Char} (marked : IsMarked sign text) :
    'e' ∈ text := by
  cases marked <;> simp

theorem IsPlain.mark_not_mem {text : List Char} (plain : IsPlain text) : 'e' ∉ text := by
  cases plain with
  | whole own => exact own.not_mem rfl
  | point front back => simp [front.not_mem (c := 'e') rfl, back.not_mem (c := 'e') rfl]

theorem isDigit_of_mem_zeros {count : Nat} {c : Char} (member : c ∈ zeros count) :
    c.isDigit = true := by
  rw [List.eq_of_mem_replicate member]
  rfl

theorem digits_zero : Digits ['0'] := ⟨by simp, by simp⟩

theorem digits_digitsOf (n : Nat) : Digits (digitsOf n) :=
  ⟨Nat.toDigits_ne_nil, fun _ member => Nat.isDigit_of_mem_toDigits (by decide) (by decide) member⟩

/- Final zeros. -/

theorem exists_eq_significant_append (digits : List Char) :
    ∃ count, digits = significant digits ++ zeros count := by
  obtain ⟨count, rest⟩ : ∃ count, digits.reverse.takeWhile (· == '0') = zeros count := by
    refine ⟨_, List.eq_replicate_iff.mpr ⟨rfl, fun c member => ?_⟩⟩
    simpa using List.mem_takeWhile_imp member
  refine ⟨count, ?_⟩
  calc digits = digits.reverse.reverse := digits.reverse_reverse.symm
    _ = (zeros count ++ digits.reverse.dropWhile (· == '0')).reverse := by
      rw [← rest, List.takeWhile_append_dropWhile]
    _ = significant digits ++ zeros count := by
      rw [List.reverse_append, significant, zeros, List.reverse_replicate]

theorem valueOfDigits_digitsOf (n : Nat) : valueOfDigits (digitsOf n) = n :=
  Nat.ofDigitChars_ten_toDigits

theorem valueOfDigits_zeros_append (count : Nat) (digits : List Char) :
    valueOfDigits (zeros count ++ digits) = valueOfDigits digits := by
  have leading : Nat.ofDigitChars 10 (zeros count) 0 = 0 := by
    rw [zeros, Nat.ofDigitChars_replicate_zero, Nat.mul_zero]
  calc valueOfDigits (zeros count ++ digits)
    _ = Nat.ofDigitChars 10 digits (Nat.ofDigitChars 10 (zeros count) 0) :=
      Nat.ofDigitChars_append 0
    _ = valueOfDigits digits := by rw [leading]; rfl

theorem valueOfDigits_append_zeros (digits : List Char) (count : Nat) :
    valueOfDigits (digits ++ zeros count) = valueOfDigits digits * 10 ^ count :=
  calc valueOfDigits (digits ++ zeros count)
    _ = Nat.ofDigitChars 10 (zeros count) (valueOfDigits digits) := Nat.ofDigitChars_append 0
    _ = valueOfDigits digits * 10 ^ count := by
      rw [zeros, Nat.ofDigitChars_replicate_zero, Nat.mul_comm]

theorem digits_significant {n : Nat} (nonzero : n ≠ 0) : Digits (significant (digitsOf n)) := by
  obtain ⟨count, whole⟩ := exists_eq_significant_append (digitsOf n)
  constructor
  · intro none
    have value := valueOfDigits_digitsOf n
    rw [whole, none, valueOfDigits_append_zeros] at value
    exact nonzero (value.symm.trans (Nat.zero_mul _))
  · intro c member
    exact (digits_digitsOf n).all c (whole ▸ List.mem_append_left _ member)

namespace Layout

variable {layout : Layout} {digits : List Char}

theorem isPlain_plain (point : Int) (own : Digits digits) : IsPlain (plain point digits) := by
  unfold plain
  split
  · exact .point digits_zero own
  · rename_i whole nonzero
    split
    · exact .point (own.append fun _ => isDigit_of_mem_zeros) digits_zero
    · rename_i longer
      refine .point ⟨?_, fun c member => own.all c (List.mem_of_mem_take member)⟩
        ⟨?_, fun c member => own.all c (List.mem_of_mem_drop member)⟩
      · simpa [own.some] using nonzero
      · simpa using longer
  · exact .point digits_zero (own.behind fun _ => isDigit_of_mem_zeros)

theorem point_mem_plain (point : Int) (digits : List Char) : '.' ∈ plain point digits := by
  unfold plain
  split
  · simp
  · split <;> simp
  · simp

theorem digits_exponent (layout : Layout) (exponent : Int) :
    Digits (zeros (layout.exponentDigits - (digitsOf exponent.natAbs).length) ++
      digitsOf exponent.natAbs) :=
  (digits_digitsOf exponent.natAbs).behind fun _ => isDigit_of_mem_zeros

theorem isMarked_marked (mark : layout.mark = 'e') (exponent : Int) (own : Digits digits) :
    IsMarked (if exponent < 0 then '-' else '+') (layout.marked exponent digits) := by
  have power := layout.digits_exponent exponent
  match digits with
  | [] => exact absurd rfl own.some
  | [digit] =>
    simp only [marked, exponentText, mark]
    exact .lone (own.all digit (by simp)) power
  | digit :: second :: rest =>
    simp only [marked, exponentText, mark]
    refine .many (own.all digit (by simp)) ⟨by simp, fun c member => ?_⟩ power
    exact own.all c (List.mem_cons_of_mem _ member)

end Layout

theorem valueLayout_mark : valueLayout.mark = 'e' := rfl

def Decimal.leading (decimal : Decimal) : Int :=
  (digitsOf decimal.digits).length + decimal.exponent - 1

namespace Layout

variable {layout : Layout} {decimal : Decimal}

theorem write_of_zero (zero : decimal.digits = 0) : layout.write decimal = ['0', '.', '0'] := by
  simp only [write, zero, if_true]

theorem write_of_inside (nonzero : decimal.digits ≠ 0)
    (inside : layout.plainFrom ≤ decimal.leading ∧ decimal.leading ≤ layout.plainTo) :
    layout.write decimal =
      plain (decimal.leading + 1) (significant (digitsOf decimal.digits)) := by
  unfold Decimal.leading at *
  simp only [write, nonzero, inside, if_false, and_self, if_true]

theorem write_of_outside (nonzero : decimal.digits ≠ 0)
    (outside : ¬(layout.plainFrom ≤ decimal.leading ∧ decimal.leading ≤ layout.plainTo)) :
    layout.write decimal =
      layout.marked decimal.leading (significant (digitsOf decimal.digits)) := by
  unfold Decimal.leading at *
  simp only [write, nonzero, outside, if_false]

theorem isPlain_or_isMarked_write (mark : layout.mark = 'e') (decimal : Decimal) :
    IsPlain (layout.write decimal) ∨ ∃ sign, IsMarked sign (layout.write decimal) := by
  by_cases zero : decimal.digits = 0
  · left
    rw [write_of_zero zero]
    exact .point digits_zero digits_zero
  by_cases inside : layout.plainFrom ≤ decimal.leading ∧ decimal.leading ≤ layout.plainTo
  · left
    rw [write_of_inside zero inside]
    exact isPlain_plain _ (digits_significant zero)
  · right
    rw [write_of_outside zero inside]
    exact ⟨_, isMarked_marked mark _ (digits_significant zero)⟩

theorem exists_mark_mem_write (mark : layout.mark = 'e') (decimal : Decimal) :
    ∃ c ∈ layout.write decimal, c = '.' ∨ c = 'e' := by
  by_cases zero : decimal.digits = 0
  · exact ⟨'.', by simp [write_of_zero zero], .inl rfl⟩
  by_cases inside : layout.plainFrom ≤ decimal.leading ∧ decimal.leading ≤ layout.plainTo
  · rw [write_of_inside zero inside]
    exact ⟨'.', point_mem_plain _ _, .inl rfl⟩
  · rw [write_of_outside zero inside]
    exact ⟨'e', (isMarked_marked mark _ (digits_significant zero)).mark_mem, .inr rfl⟩

theorem exists_write_eq_cons (mark : layout.mark = 'e') (decimal : Decimal) :
    ∃ c rest, layout.write decimal = c :: rest ∧ c.isDigit = true := by
  obtain plain | ⟨sign, marked⟩ := isPlain_or_isMarked_write mark decimal
  · exact plain.exists_cons
  · exact marked.exists_cons

end Layout

end DatapackAuthoring.Number

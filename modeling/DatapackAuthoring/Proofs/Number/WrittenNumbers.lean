import DatapackAuthoring.Proofs.Number.Numerals
import DatapackAuthoring.Proofs.Number.ReadsBack
import DatapackAuthoring.Proofs.StrippedText
/-!
Writing a number and reading it. A reader takes digits as far as they go, so the parts of a written
decimal come apart where they were put together, and their value is that of the decimal. What is
written of a finite number is therefore read as this number, and no two numbers share a text.
-/
namespace DatapackAuthoring.Number

attribute [local instance (2000)] instPowNat

/-- What can follow digits without being taken for one of them. -/
def Stops (tail : List Char) : Prop := ∀ c ∈ tail.head?, c.isDigit = false

theorem takeWhile_isDigit {digits tail : List Char} (own : ∀ c ∈ digits, c.isDigit = true)
    (stops : Stops tail) : (digits ++ tail).takeWhile Char.isDigit = digits := by
  have none : tail.takeWhile Char.isDigit = [] := by
    cases tail with
    | nil => rfl
    | cons c rest => simp [stops c rfl]
  rw [List.takeWhile_append_of_pos own, none, List.append_nil]

theorem dropWhile_isDigit {digits tail : List Char} (own : ∀ c ∈ digits, c.isDigit = true)
    (stops : Stops tail) : (digits ++ tail).dropWhile Char.isDigit = tail := by
  rw [List.dropWhile_append_of_pos own, Text.dropWhile_of_head? stops]

section

variable {whole places tail : List Char} (negative : Bool)

theorem readDecimal_point (front : Digits whole) (back : ∀ c ∈ places, c.isDigit = true)
    (stops : Stops tail) :
    readDecimal negative (whole ++ '.' :: (places ++ tail)) =
      (readExponent tail).map fun exponent =>
        .ofDecimal negative (valueOfDigits (whole ++ places)) (exponent - (places.length : Int)) := by
  have point : Stops ('.' :: (places ++ tail)) := by simp [Stops]
  have some : whole.isEmpty = false := by simp [front.some]
  simp only [readDecimal, takeWhile_isDigit front.all point, dropWhile_isDigit front.all point,
    takeWhile_isDigit back stops, dropWhile_isDigit back stops, some, Bool.false_and,
    Bool.false_eq_true, if_false]

theorem readDecimal_places (front : Digits whole) (back : ∀ c ∈ places, c.isDigit = true) :
    readDecimal negative (whole ++ '.' :: places) =
      some (.ofDecimal negative (valueOfDigits (whole ++ places)) (-(places.length : Int))) := by
  have stops : Stops [] := by simp [Stops]
  have read := readDecimal_point negative front back stops
  simpa [readExponent] using read

theorem readDecimal_whole (front : Digits whole) (stops : Stops tail)
    (plain : ∀ rest, tail ≠ '.' :: rest) :
    readDecimal negative (whole ++ tail) =
      (readExponent tail).map fun exponent =>
        .ofDecimal negative (valueOfDigits whole) exponent := by
  have some : whole.isEmpty = false := by simp [front.some]
  simp only [readDecimal, takeWhile_isDigit front.all stops, dropWhile_isDigit front.all stops,
    some, Bool.false_and, Bool.false_eq_true, if_false]
  simp

end

namespace Layout

variable {layout : Layout} {digits : List Char}

theorem readExponent_exponentText (mark : layout.mark = 'e') (exponent : Int) :
    readExponent (layout.exponentText exponent) = some exponent := by
  have power := layout.digits_exponent exponent
  have value := valueOfDigits_zeros_append
    (layout.exponentDigits - (digitsOf exponent.natAbs).length) (digitsOf exponent.natAbs)
  rw [valueOfDigits_digitsOf] at value
  have some : (zeros (layout.exponentDigits - (digitsOf exponent.natAbs).length) ++
      digitsOf exponent.natAbs).isEmpty = false := by simpa using power.some
  have all := List.all_eq_true.mpr power.all
  simp only [exponentText, mark]
  by_cases below : exponent < 0
  · simp [below, readExponent, takeSign, all, some, value, abs_of_neg]
  · have above : 0 ≤ exponent := Int.not_lt.mp below
    simp [below, readExponent, takeSign, all, some, value, above]

theorem stops_exponentText (mark : layout.mark = 'e') (exponent : Int) :
    Stops (layout.exponentText exponent) := by
  simp [Stops, exponentText, mark]

theorem readDecimal_plain (negative : Bool) (point : Int) (own : Digits digits) :
    readDecimal negative (plain point digits) =
      some (.ofDecimal negative (valueOfDigits digits) (point - digits.length)) := by
  unfold plain
  split
  · have value : valueOfDigits (['0'] ++ digits) = valueOfDigits digits :=
      valueOfDigits_zeros_append 1 digits
    have read := readDecimal_places negative digits_zero own.all
    rw [value] at read
    simpa using read
  · rename_i whole nonzero
    split
    · rename_i short
      have filled : Digits (digits ++ zeros (whole - digits.length)) :=
        own.append fun _ => isDigit_of_mem_zeros
      have value : valueOfDigits (digits ++ zeros (whole - digits.length) ++ ['0']) =
          valueOfDigits digits * 10 ^ (whole - digits.length + 1) := by
        rw [← valueOfDigits_append_zeros, List.append_assoc, zeros, zeros, ← List.replicate_succ']
      have shift : -((1 : Nat) : Int) + ((whole - digits.length + 1 : Nat) : Int) =
          .ofNat whole - digits.length := by
        simp only [Int.ofNat_eq_natCast]
        omega
      rw [readDecimal_places negative filled digits_zero.all, value, Binary64.ofDecimal_mul_pow,
        List.length_singleton, shift]
    · rename_i longer
      have front : Digits (digits.take whole) :=
        ⟨by simpa [own.some] using nonzero, fun c member => own.all c (List.mem_of_mem_take member)⟩
      have places : -((digits.drop whole).length : Int) = .ofNat whole - digits.length := by
        simp only [Int.ofNat_eq_natCast, List.length_drop]
        omega
      rw [readDecimal_places negative front fun c member => own.all c (List.mem_of_mem_drop member),
        List.take_append_drop, places]
  · rename_i gap
    have value : valueOfDigits (['0'] ++ (zeros (gap + 1) ++ digits)) = valueOfDigits digits := by
      rw [← valueOfDigits_zeros_append (gap + 1) digits]
      exact valueOfDigits_zeros_append 1 _
    have places : -((zeros (gap + 1) ++ digits).length : Int) = .negSucc gap - digits.length := by
      simp only [zeros, List.length_append, List.length_replicate]
      omega
    have filled : Digits (zeros (gap + 1) ++ digits) := own.behind fun _ => isDigit_of_mem_zeros
    have read := readDecimal_places negative digits_zero filled.all
    rw [value, places] at read
    exact read

theorem readDecimal_marked (mark : layout.mark = 'e') (negative : Bool) (exponent : Int)
    (own : Digits digits) :
    readDecimal negative (layout.marked exponent digits) =
      some (.ofDecimal negative (valueOfDigits digits) (exponent + 1 - digits.length)) := by
  have stops := stops_exponentText mark exponent
  have power := readExponent_exponentText mark exponent
  match digits with
  | [] => exact absurd rfl own.some
  | [digit] =>
    have read := readDecimal_whole negative own stops (by simp [exponentText, mark])
    simpa [power, marked] using read
  | digit :: second :: rest =>
    have front : Digits [digit] := ⟨by simp, by simpa using own.all digit (by simp)⟩
    have read := readDecimal_point negative front
      (fun c member => own.all c (List.mem_cons_of_mem digit member)) stops
    have places : exponent + 1 - ((digit :: second :: rest).length : Int) =
        exponent - ((second :: rest).length : Int) := by
      simp only [List.length_cons]
      omega
    rw [places]
    simpa [power, marked] using read

theorem readDecimal_write (mark : layout.mark = 'e') (negative : Bool) (decimal : Decimal) :
    readDecimal negative (layout.write decimal) =
      some (.ofDecimal negative decimal.digits decimal.exponent) := by
  by_cases zero : decimal.digits = 0
  · have nothing (exponent : Int) :
        Binary64.ofDecimal negative 0 exponent = Binary64.ofQuotient negative 0 1 := if_pos rfl
    have read := readDecimal_places negative digits_zero digits_zero.all
    have value : valueOfDigits (['0'] ++ ['0']) = 0 := rfl
    rw [value, nothing] at read
    rw [write_of_zero zero, zero, nothing]
    exact read
  obtain ⟨count, whole⟩ := exists_eq_significant_append (digitsOf decimal.digits)
  have own := digits_significant zero
  have value := valueOfDigits_digitsOf decimal.digits
  have length := congrArg List.length whole
  rw [whole, valueOfDigits_append_zeros] at value
  rw [List.length_append, zeros, List.length_replicate] at length
  have shift : decimal.leading + 1 - (significant (digitsOf decimal.digits)).length =
      decimal.exponent + count := by
    unfold Decimal.leading
    omega
  rw [← value, Binary64.ofDecimal_mul_pow, ← shift]
  by_cases inside : layout.plainFrom ≤ decimal.leading ∧ decimal.leading ≤ layout.plainTo
  · rw [write_of_inside zero inside]
    exact readDecimal_plain negative _ own
  · rw [write_of_outside zero inside]
    exact readDecimal_marked mark negative _ own

end Layout

/- The sign in front. -/

theorem takeSign_signText {body : List Char} (negative : Bool)
    (starts : ∃ c rest, body = c :: rest ∧ c.isDigit = true) :
    takeSign (signText negative ++ body) = (negative, body) := by
  obtain ⟨c, rest, rfl, digit⟩ := starts
  cases negative with
  | true => rfl
  | false =>
    have minus : c ≠ '-' := by
      rintro rfl
      cases digit
    have plus : c ≠ '+' := by
      rintro rfl
      cases digit
    simp [signText, takeSign, minus, plus]

theorem toLower_of_isDigit {c : Char} (digit : c.isDigit = true) : c.toLower = c := by
  unfold Char.toLower
  split
  · rename_i upper
    have order : 'A'.toNat ≤ '9'.toNat :=
      Nat.le_trans (UInt32.le_iff_toNat_le.mp upper.1) (Char.isDigit_iff_toNat.mp digit).2
    exact absurd order (by decide)
  · rfl

theorem lowered_ne_of_digit (word : List Char) {c : Char} {rest : List Char}
    (digit : c.isDigit = true) (letters : word.any Char.isDigit = false) :
    String.ofList ((c :: rest).map Char.toLower) ≠ String.ofList word := by
  intro same
  have member : c ∈ word := by
    rw [← String.ofList_injective same, List.map_cons, toLower_of_isDigit digit]
    exact List.mem_cons_self
  exact List.any_eq_false.mp letters c member digit

theorem Binary64.ofText?_finite (negative : Bool) (size : Magnitude) :
    ofText? (finite negative size).text = some (finite negative size) := by
  have starts := Layout.exists_write_eq_cons valueLayout_mark size.shortest
  have sign := takeSign_signText negative starts
  have read := Layout.readDecimal_write valueLayout_mark negative size.shortest
  rw [size.ofDecimal_shortest negative] at read
  obtain ⟨c, rest, body, digit⟩ := starts
  rw [body] at sign read
  rw [text, body, ofText?]
  simp only [String.toList_ofList, sign]
  rw [if_neg, if_neg, read]
  · exact lowered_ne_of_digit ['n', 'a', 'n'] digit rfl
  · rintro (short | long)
    · exact lowered_ne_of_digit ['i', 'n', 'f'] digit rfl short
    · exact lowered_ne_of_digit ['i', 'n', 'f', 'i', 'n', 'i', 't', 'y'] digit rfl long

end DatapackAuthoring.Number

import DatapackAuthoring.Number.Shortest
import Mathlib.Algebra.Field.Rat
import Mathlib.Algebra.Order.Field.Power
import Mathlib.Algebra.Order.Ring.Rat
import Mathlib.Tactic.FieldSimp
import Mathlib.Tactic.Ring
/-!
The shortest decimal of a number stands for that number. What a decimal is read as depends on its
value alone, however its digits and its power of ten share that value between them.
-/
namespace DatapackAuthoring.Number

attribute [local instance (2000)] instPowNat

/- Rounding depends on the quotient alone. -/

theorem roundQuotient_mul_left {k : Nat} (positive : 0 < k) (a b : Nat) :
    roundQuotient (k * a) (k * b) = roundQuotient a b := by
  have below : 2 * (k * (a % b)) < k * b ↔ 2 * (a % b) < b := by
    rw [Nat.mul_left_comm]
    exact Nat.mul_lt_mul_left positive
  have above : k * b < 2 * (k * (a % b)) ↔ b < 2 * (a % b) := by
    rw [Nat.mul_left_comm]
    exact Nat.mul_lt_mul_left positive
  simp only [roundQuotient, Nat.mul_div_mul_left a b positive, Nat.mul_mod_mul_left, below, above]

theorem round53_mul_left {k : Nat} (positive : 0 < k) (a b : Nat) :
    round53 (k * a) (k * b) = round53 a b := by
  simp only [round53, Nat.mul_div_mul_left a b positive, Nat.mul_assoc,
    roundQuotient_mul_left positive]

theorem round53_congr {a b c d : Nat} (some : 0 < b) (other : 0 < d) (same : a * d = c * b) :
    round53 a b = round53 c d :=
  calc round53 a b = round53 (d * a) (d * b) := (round53_mul_left other a b).symm
    _ = round53 (b * c) (b * d) := by
      rw [Nat.mul_comm d a, same, Nat.mul_comm c b, Nat.mul_comm d b]
    _ = round53 c d := round53_mul_left some c d

theorem round53_of_fits {n : Nat} (fits : Fits53 n) : round53 n 1 = n := by
  unfold Fits53 at fits
  have whole : n % 2 ^ (n.log2 - 52) = 0 := Nat.mod_eq_zero_of_dvd fits
  have exact : roundQuotient n (2 ^ (n.log2 - 52)) = n / 2 ^ (n.log2 - 52) := by
    simp [roundQuotient, whole]
  rw [round53, Nat.div_one, Nat.one_mul, exact, Nat.div_mul_cancel fits]

namespace Binary64

theorem ofQuotient_congr {a b c d : Nat} (some : 0 < b) (other : 0 < d) (same : a * d = c * b)
    (negative : Bool) : ofQuotient negative a b = ofQuotient negative c d := by
  have units : round53 (a * unitsPerOne) b = round53 (c * unitsPerOne) d := by
    apply round53_congr some other
    rw [Nat.mul_right_comm, same, Nat.mul_right_comm]
  simp only [ofQuotient, units]

theorem ofQuotient_eq_finite {a b : Nat} {size : Magnitude}
    (units : round53 (a * unitsPerOne) b = size.units) (negative : Bool) :
    ofQuotient negative a b = .finite negative size := by
  simp only [ofQuotient, units, size.bounded, dif_pos]

end Binary64

namespace Decimal

def value (decimal : Decimal) : ℚ := decimal.digits * 10 ^ decimal.exponent

theorem value_grid (digits places drop : Nat) :
    value ⟨digits, (drop : Int) - places⟩ = (digits * 10 ^ drop : Nat) / (10 ^ places : Nat) := by
  simp only [value]
  rw [zpow_sub₀ (by norm_num), zpow_natCast, zpow_natCast]
  push_cast
  ring

end Decimal

theorem Binary64.ofDecimal_eq_ofQuotient {decimal : Decimal} {a b : Nat} (some : 0 < b)
    (same : decimal.value = a / b) (negative : Bool) :
    ofDecimal negative decimal.digits decimal.exponent = ofQuotient negative a b := by
  obtain ⟨digits, exponent⟩ := decimal
  have bottom : (b : ℚ) ≠ 0 := by exact_mod_cast some.ne'
  cases exponent with
  | ofNat places =>
    rw [ofDecimal_ofNat]
    refine ofQuotient_congr Nat.one_pos some ?_ negative
    rw [Decimal.value, Int.ofNat_eq_natCast, zpow_natCast, eq_div_iff bottom] at same
    rw [Nat.mul_one]
    exact_mod_cast same
  | negSucc places =>
    rw [ofDecimal_negSucc]
    refine ofQuotient_congr (Nat.pow_pos (by omega)) some ?_ negative
    have top : ((10 : ℚ) ^ (places + 1)) ≠ 0 := pow_ne_zero _ (by norm_num)
    rw [Decimal.value, zpow_negSucc, ← div_eq_mul_inv, div_eq_div_iff top bottom] at same
    exact_mod_cast same

theorem Decimal.exists_quotient (decimal : Decimal) :
    ∃ a b : Nat, 0 < b ∧ decimal.value = a / b := by
  have nonnegative : 0 ≤ decimal.value :=
    mul_nonneg (Nat.cast_nonneg _) (zpow_nonneg (by norm_num) _)
  refine ⟨decimal.value.num.toNat, decimal.value.den, decimal.value.den_pos, ?_⟩
  have top : ((decimal.value.num.toNat : Int) : ℚ) = decimal.value.num := by
    rw [Int.toNat_of_nonneg (Rat.num_nonneg.mpr nonnegative)]
  rw [← Int.cast_natCast decimal.value.num.toNat, top, Rat.num_div_den]

theorem Binary64.ofDecimal_congr {decimal other : Decimal} (same : decimal.value = other.value)
    (negative : Bool) :
    ofDecimal negative decimal.digits decimal.exponent =
      ofDecimal negative other.digits other.exponent := by
  obtain ⟨a, b, positive, quotient⟩ := decimal.exists_quotient
  rw [ofDecimal_eq_ofQuotient positive quotient,
    ofDecimal_eq_ofQuotient positive (same ▸ quotient)]

theorem Binary64.ofDecimal_mul_pow (negative : Bool) (digits count : Nat) (exponent : Int) :
    ofDecimal negative (digits * 10 ^ count) exponent =
      ofDecimal negative digits (exponent + count) := by
  have same : Decimal.value ⟨digits * 10 ^ count, exponent⟩ =
      Decimal.value ⟨digits, exponent + count⟩ := by
    simp only [Decimal.value]
    rw [zpow_add₀ (by norm_num), zpow_natCast]
    push_cast
    ring
  exact ofDecimal_congr same negative

namespace Magnitude

variable {size : Magnitude}

/-- The index of the last grid point that is not above the number. -/
def gridBelow (size : Magnitude) (drop : Nat) : Nat :=
  size.units * 10 ^ (340 : Nat) / (unitsPerOne * 10 ^ drop)

theorem exists_of_gridHit {drop : Nat} {decimal : Decimal} (hit : size.gridHit drop = some decimal) :
    ∃ index, decimal = ⟨index, (drop : Int) - 340⟩ ∧ size.readsBack drop index = true ∧
      (index = size.gridBelow drop ∨ index = size.gridBelow drop + 1) := by
  have floor := le_roundQuotient (size.units * 10 ^ (340 : Nat)) (unitsPerOne * 10 ^ drop)
  have ceiling := roundQuotient_le (size.units * 10 ^ (340 : Nat)) (unitsPerOne * 10 ^ drop)
  simp only [gridHit] at hit
  unfold gridBelow
  generalize roundQuotient _ _ = nearer at *
  generalize size.units * 10 ^ (340 : Nat) / (unitsPerOne * 10 ^ drop) = below at *
  generalize other : (if nearer = below then below + 1 else below) = farther at hit
  have beside : farther = below ∨ farther = below + 1 := by
    rw [← other]
    split
    · exact .inr rfl
    · exact .inl rfl
  split at hit
  · rename_i back
    exact ⟨nearer, (Option.some.inj hit).symm, back, by omega⟩
  · split at hit
    · rename_i back
      exact ⟨farther, (Option.some.inj hit).symm, back, beside⟩
    · cases hit

def gridPart (size : Magnitude) : Nat := size.units * 10 ^ (340 : Nat) / unitsPerOne

def gridLength (size : Magnitude) : Nat := (digitsOf size.gridPart).length

theorem shortest_eq (size : Magnitude) :
    size.shortest = ((List.range 17).findSome? fun n =>
      size.gridHit (size.gridLength - (n + 1))).getD size.exactDecimal := rfl

theorem shortest_or (size : Magnitude) :
    (∃ n, size.gridHit (size.gridLength - (n + 1)) = some size.shortest) ∨
      size.shortest = size.exactDecimal := by
  cases hits : (List.range 17).findSome? fun n => size.gridHit (size.gridLength - (n + 1)) with
  | none =>
    right
    rw [shortest_eq, hits, Option.getD_none]
  | some decimal =>
    left
    obtain ⟨n, -, hit⟩ := List.exists_of_findSome?_eq_some hits
    exact ⟨n, by rw [hit, shortest_eq, hits, Option.getD_some]⟩

theorem value_exactDecimal (size : Magnitude) :
    size.exactDecimal.value = size.units / unitsPerOne := by
  obtain ⟨k, bits, power⟩ := unitsPerOne_eq
  have decimal : size.exactDecimal = ⟨size.units * 5 ^ k, -(k : Int)⟩ := by
    rw [bits]
    rfl
  have tens : (10 : ℚ) ^ k = 2 ^ k * 5 ^ k := by
    rw [← mul_pow]
    norm_num
  rw [decimal, Decimal.value, power, zpow_neg, zpow_natCast, tens]
  push_cast
  field_simp

/-- The shortest decimal stands for the number it was made from. -/
theorem ofDecimal_shortest (size : Magnitude) (negative : Bool) :
    Binary64.ofDecimal negative size.shortest.digits size.shortest.exponent =
      .finite negative size := by
  obtain ⟨n, hit⟩ | exact := size.shortest_or
  · obtain ⟨index, decimal, back, -⟩ := exists_of_gridHit hit
    generalize size.gridLength - (n + 1) = drop at *
    have value : Decimal.value ⟨index, (drop : Int) - 340⟩ = _ := Decimal.value_grid index 340 drop
    rw [decimal, Binary64.ofDecimal_eq_ofQuotient (Nat.pow_pos (by omega)) value]
    exact Binary64.ofQuotient_eq_finite (eq_of_beq back) negative
  · rw [exact, Binary64.ofDecimal_eq_ofQuotient unitsPerOne_pos size.value_exactDecimal]
    apply Binary64.ofQuotient_eq_finite
    calc round53 (size.units * unitsPerOne) unitsPerOne
      _ = round53 size.units 1 := round53_congr unitsPerOne_pos Nat.one_pos (Nat.mul_one _)
      _ = size.units := round53_of_fits size.fits

end Magnitude

end DatapackAuthoring.Number

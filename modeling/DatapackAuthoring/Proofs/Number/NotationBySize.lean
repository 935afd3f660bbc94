import DatapackAuthoring.Proofs.Number.Numerals
import DatapackAuthoring.Proofs.Number.ReadsBack
import Mathlib.Tactic.NormNum
/-!
Where the notation changes. The shortest decimal of a number stands between the same powers of ten
as the number itself, so its size alone decides how it is written: a fraction from one
ten-thousandth on has plain digits, and a smaller one a marked power of ten.
-/
namespace DatapackAuthoring.Number

attribute [local instance (2000)] instPowNat

theorem lt_ten_pow_length (n : Nat) : n < 10 ^ (digitsOf n).length :=
  (Nat.length_toDigits_le_iff (by decide) Nat.length_toDigits_pos).mp (Nat.le_refl _)

theorem ten_pow_length_le {n : Nat} (positive : 0 < n) : 10 ^ ((digitsOf n).length - 1) ≤ n := by
  by_cases short : (digitsOf n).length - 1 = 0
  · rw [short]
    exact positive
  · have long : ¬(digitsOf n).length ≤ (digitsOf n).length - 1 := by omega
    exact Nat.le_of_not_lt
      (mt (Nat.length_toDigits_le_iff (by decide) (Nat.pos_of_ne_zero short)).mpr long)

theorem Decimal.value_one (j : Int) : Decimal.value ⟨1, j⟩ = 10 ^ j := by
  simp [Decimal.value]

theorem Decimal.ten_zpow_le_value_iff {decimal : Decimal} (nonzero : decimal.digits ≠ 0) (j : Int) :
    (10 : ℚ) ^ j ≤ decimal.value ↔ j ≤ decimal.leading := by
  have above : (decimal.digits : ℚ) < 10 ^ ((digitsOf decimal.digits).length : Int) := by
    rw [zpow_natCast]
    exact_mod_cast lt_ten_pow_length decimal.digits
  have length : 0 < (digitsOf decimal.digits).length := Nat.length_toDigits_pos
  have below : (10 : ℚ) ^ ((digitsOf decimal.digits).length - 1 : Int) ≤ decimal.digits := by
    have exponent : ((digitsOf decimal.digits).length - 1 : Int) =
        ((digitsOf decimal.digits).length - 1 : Nat) := by omega
    rw [exponent, zpow_natCast]
    exact_mod_cast ten_pow_length_le (Nat.pos_of_ne_zero nonzero)
  have ten : (10 : ℚ) ≠ 0 := by norm_num
  have more : (1 : ℚ) < 10 := by norm_num
  have scale : (0 : ℚ) < 10 ^ decimal.exponent := zpow_pos (by norm_num) _
  constructor
  · intro reached
    have bound : (10 : ℚ) ^ j < 10 ^ ((digitsOf decimal.digits).length + decimal.exponent) :=
      calc (10 : ℚ) ^ j ≤ decimal.digits * 10 ^ decimal.exponent := reached
        _ < 10 ^ ((digitsOf decimal.digits).length : Int) * 10 ^ decimal.exponent :=
          mul_lt_mul_of_pos_right above scale
        _ = _ := (zpow_add₀ ten _ _).symm
    have := (zpow_lt_zpow_iff_right₀ more).mp bound
    unfold leading
    omega
  · intro reached
    unfold leading at reached
    calc (10 : ℚ) ^ j ≤ 10 ^ (((digitsOf decimal.digits).length - 1 : Int) + decimal.exponent) :=
          (zpow_le_zpow_iff_right₀ more).mpr (by omega)
      _ = 10 ^ ((digitsOf decimal.digits).length - 1 : Int) * 10 ^ decimal.exponent :=
          zpow_add₀ ten _ _
      _ ≤ decimal.value := mul_le_mul_of_nonneg_right below scale.le

namespace Magnitude

variable {size : Magnitude}

def value (size : Magnitude) : ℚ := size.units / unitsPerOne

theorem gridBelow_eq (size : Magnitude) (drop : Nat) :
    size.gridBelow drop = size.gridPart / 10 ^ drop := by
  rw [gridBelow, gridPart, Nat.div_div_eq_div_mul]

section

variable {drop index : Nat} (coarse : drop < size.gridLength)
  (beside : index = size.gridBelow drop ∨ index = size.gridBelow drop + 1)
include coarse beside

/-- Neither of the two grid points beside the number is across a power of ten from it. -/
theorem ten_pow_le_point {p : Nat} (reached : 10 ^ p ≤ size.gridPart) :
    10 ^ p ≤ index * 10 ^ drop := by
  have positive : 0 < size.gridPart := Nat.lt_of_lt_of_le (Nat.pow_pos (by omega)) reached
  have length : 10 ^ (size.gridLength - 1) ≤ size.gridPart := ten_pow_length_le positive
  have bound : p < size.gridLength :=
    (Nat.pow_lt_pow_iff_right (by omega)).mp
      (Nat.lt_of_le_of_lt reached (lt_ten_pow_length size.gridPart))
  have split : 10 ^ (size.gridLength - 1) = 10 ^ (size.gridLength - 1 - drop) * 10 ^ drop := by
    rw [← Nat.pow_add]
    congr 1
    omega
  have below : 10 ^ (size.gridLength - 1 - drop) ≤ size.gridBelow drop := by
    rw [gridBelow_eq, Nat.le_div_iff_mul_le (Nat.pow_pos (by omega)), ← split]
    exact length
  calc 10 ^ p ≤ 10 ^ (size.gridLength - 1) := Nat.pow_le_pow_right (by omega) (by omega)
    _ = 10 ^ (size.gridLength - 1 - drop) * 10 ^ drop := split
    _ ≤ index * 10 ^ drop := Nat.mul_le_mul_right _ (by omega)

theorem point_le_ten_pow {p : Nat} (missed : size.gridPart < 10 ^ p) :
    index * 10 ^ drop ≤ 10 ^ p := by
  have length : size.gridLength ≤ p + 1 := by
    refine (Nat.length_toDigits_le_iff (by decide) (by omega)).mpr ?_
    exact Nat.lt_of_lt_of_le missed (Nat.pow_le_pow_right (by omega) (by omega))
  have split : 10 ^ p = 10 ^ (p - drop) * 10 ^ drop := by
    rw [← Nat.pow_add]
    congr 1
    omega
  have below : size.gridBelow drop < 10 ^ (p - drop) := by
    rw [gridBelow_eq, Nat.div_lt_iff_lt_mul (Nat.pow_pos (by omega)), ← split]
    exact missed
  rw [split]
  exact Nat.mul_le_mul_right _ (by omega)

end

theorem gridLength_pos (size : Magnitude) : 0 < size.gridLength := Nat.length_toDigits_pos

theorem ten_zpow_grid (p places : Nat) :
    (10 : ℚ) ^ ((p : Int) - places) = (10 ^ p : Nat) / (10 ^ places : Nat) := by
  rw [zpow_sub₀ (by norm_num), zpow_natCast, zpow_natCast]
  push_cast
  rfl

theorem ten_pow_le_gridPart_iff {p : Nat} :
    10 ^ p ≤ size.gridPart ↔ (10 : ℚ) ^ ((p : Int) - (340 : Nat)) ≤ size.value := by
  rw [gridPart, Nat.le_div_iff_mul_le unitsPerOne_pos, value, ten_zpow_grid]
  generalize (340 : Nat) = places
  have unit : (0 : ℚ) < unitsPerOne := by exact_mod_cast unitsPerOne_pos
  have grid : (0 : ℚ) < (10 ^ places : Nat) := by exact_mod_cast Nat.pow_pos (by omega)
  rw [div_le_div_iff₀ grid unit]
  exact_mod_cast Iff.rfl

/-- The shortest decimal is across no power of ten from the number. -/
theorem decade_shortest (size : Magnitude) (p : Nat) :
    ((10 : ℚ) ^ ((p : Int) - (340 : Nat)) ≤ size.value →
      (10 : ℚ) ^ ((p : Int) - (340 : Nat)) ≤ size.shortest.value) ∧
    (size.value < (10 : ℚ) ^ ((p : Int) - (340 : Nat)) →
      size.shortest.value ≤ (10 : ℚ) ^ ((p : Int) - (340 : Nat))) := by
  obtain ⟨n, hit⟩ | exact := size.shortest_or
  · obtain ⟨index, decimal, -, beside⟩ := exists_of_gridHit hit
    have coarse : size.gridLength - (n + 1) < size.gridLength := by
      have := size.gridLength_pos
      omega
    have value : size.shortest.value =
        (index * 10 ^ (size.gridLength - (n + 1)) : Nat) / (10 ^ (340 : Nat) : Nat) := by
      rw [decimal]
      exact Decimal.value_grid index 340 _
    have grid (places : Nat) : (0 : ℚ) < (10 ^ places : Nat) :=
      Nat.cast_pos.mpr (Nat.pow_pos (by omega))
    rw [← not_le, ← ten_pow_le_gridPart_iff, not_le, value, ten_zpow_grid,
      div_le_div_iff_of_pos_right (grid 340), div_le_div_iff_of_pos_right (grid 340), Nat.cast_le,
      Nat.cast_le]
    exact ⟨ten_pow_le_point coarse beside, point_le_ten_pow coarse beside⟩
  · rw [exact, value_exactDecimal]
    exact ⟨id, le_of_lt⟩

/-- A fraction has bits below one, so it is below the numbers of which all bits are whole. -/
theorem units_lt_of_fraction (fraction : size.isWhole = false) :
    size.units < 2 ^ (53 : Nat) * unitsPerOne := by
  by_contra large
  obtain ⟨k, -, power⟩ := unitsPerOne_eq
  rw [power, ← Nat.pow_add, Nat.not_lt] at large
  have nonzero : size.units ≠ 0 := by
    have := Nat.two_pow_pos (53 + k)
    omega
  have length : 53 + k ≤ size.units.log2 := (Nat.le_log2 nonzero).mpr large
  have whole : unitsPerOne ∣ size.units := by
    rw [power]
    exact Nat.dvd_trans (Nat.pow_dvd_pow 2 (by omega)) size.fits
  rw [isWhole, Nat.mod_eq_zero_of_dvd whole] at fraction
  cases fraction

theorem value_lt_of_fraction (fraction : size.isWhole = false) :
    size.value < (10 : ℚ) ^ (16 : Int) := by
  have unit : (0 : ℚ) < unitsPerOne := by exact_mod_cast unitsPerOne_pos
  have bound : (size.units : ℚ) < (2 ^ (53 : Nat) : Nat) * unitsPerOne := by
    rw [← Nat.cast_mul]
    exact Nat.cast_lt.mpr (units_lt_of_fraction fraction)
  have room : ((2 ^ (53 : Nat) : Nat) : ℚ) ≤ 10 ^ (16 : Int) := by norm_num
  rw [value, div_lt_iff₀ unit]
  exact bound.trans_le (mul_le_mul_of_nonneg_right room unit.le)

theorem ten_thousandth_le_value_iff (size : Magnitude) :
    (10 : ℚ) ^ (-4 : Int) ≤ size.value ↔ unitsPerOne ≤ 10000 * size.units := by
  have unit : (0 : ℚ) < unitsPerOne := by exact_mod_cast unitsPerOne_pos
  have power : (10 : ℚ) ^ (-4 : Int) = 1 / 10000 := by norm_num
  rw [value, power, div_le_div_iff₀ (by norm_num) unit, one_mul, mul_comm]
  exact_mod_cast Iff.rfl

theorem ofDecimal_of_value {decimal : Decimal} (same : size.shortest.value = decimal.value) :
    Binary64.ofDecimal false decimal.digits decimal.exponent = .finite false size :=
  (Binary64.ofDecimal_congr same false).symm.trans (size.ofDecimal_shortest false)

end Magnitude

def Binary64.magnitude? : Binary64 → Option Magnitude
  | .finite _ size => some size
  | _ => none

namespace Magnitude

variable {size : Magnitude}

theorem value_ne_of_fraction (fraction : size.isWhole = false) {decimal : Decimal}
    (whole : (Binary64.ofDecimal false decimal.digits decimal.exponent).magnitude?.any isWhole =
      true) :
    size.shortest.value ≠ decimal.value := by
  intro same
  rw [ofDecimal_of_value same, Binary64.magnitude?, Option.any_some, fraction] at whole
  cases whole

theorem digits_ne_zero_of_fraction (fraction : size.isWhole = false) :
    size.shortest.digits ≠ 0 := by
  intro zero
  have nothing : size.shortest.value = Decimal.value ⟨0, 0⟩ := by simp [Decimal.value, zero]
  exact value_ne_of_fraction fraction (by decide +kernel) nothing

theorem leading_le_of_fraction (fraction : size.isWhole = false) : size.shortest.leading ≤ 15 := by
  by_contra far
  have reached : (10 : ℚ) ^ (16 : Int) ≤ size.shortest.value :=
    (Decimal.ten_zpow_le_value_iff (digits_ne_zero_of_fraction fraction) 16).mpr (by omega)
  have bound : size.shortest.value ≤ (10 : ℚ) ^ (16 : Int) :=
    (size.decade_shortest 356).2 (value_lt_of_fraction fraction)
  have same : size.shortest.value = Decimal.value ⟨1, 16⟩ :=
    (le_antisymm bound reached).trans (Decimal.value_one 16).symm
  exact value_ne_of_fraction fraction (by decide +kernel) same

theorem le_leading_iff_of_fraction (fraction : size.isWhole = false) :
    -4 ≤ size.shortest.leading ↔ unitsPerOne ≤ 10000 * size.units := by
  rw [← ten_thousandth_le_value_iff,
    ← Decimal.ten_zpow_le_value_iff (digits_ne_zero_of_fraction fraction)]
  have decade : ((10 : ℚ) ^ (-4 : Int) ≤ size.value → (10 : ℚ) ^ (-4 : Int) ≤ size.shortest.value) ∧
      (size.value < (10 : ℚ) ^ (-4 : Int) → size.shortest.value ≤ (10 : ℚ) ^ (-4 : Int)) :=
    size.decade_shortest 336
  obtain ⟨above, below⟩ := decade
  constructor
  · intro reached
    by_contra missed
    have same : size.shortest.value = Decimal.value ⟨1, -4⟩ :=
      (le_antisymm (below (not_le.mp missed)) reached).trans (Decimal.value_one (-4)).symm
    have large : ((Binary64.ofDecimal false 1 (-4)).magnitude?.any fun size =>
        decide (unitsPerOne ≤ 10000 * size.units)) = true := by decide +kernel
    rw [ofDecimal_of_value same] at large
    simp only [Binary64.magnitude?, Option.any_some, decide_eq_true_eq] at large
    exact missed (size.ten_thousandth_le_value_iff.mpr large)
  · exact above

/-- Above zero and below one ten-thousandth. -/
def isTiny (size : Magnitude) : Bool :=
  decide (0 < size.units) && decide (10000 * size.units < unitsPerOne)

theorem isTiny_iff_of_fraction (fraction : size.isWhole = false) :
    size.isTiny = true ↔ 10000 * size.units < unitsPerOne := by
  have positive : 0 < size.units := by
    by_contra zero
    rw [isWhole, Nat.eq_zero_of_not_pos zero, Nat.zero_mod] at fraction
    cases fraction
  simp [isTiny, positive]

theorem isWhole_of_isTiny (tiny : size.isTiny = true) : size.isWhole = false := by
  rw [isTiny, Bool.and_eq_true, decide_eq_true_eq, decide_eq_true_eq] at tiny
  rw [isWhole, Nat.mod_eq_of_lt (by omega), beq_eq_false_iff_ne]
  omega

theorem isPlain_write (fraction : size.isWhole = false) (usual : size.isTiny = false) :
    IsPlain (valueLayout.write size.shortest) := by
  have nonzero := digits_ne_zero_of_fraction fraction
  have large : unitsPerOne ≤ 10000 * size.units := by
    rw [← Nat.not_lt, ← isTiny_iff_of_fraction fraction, usual]
    exact Bool.false_ne_true
  have inside : valueLayout.plainFrom ≤ size.shortest.leading ∧
      size.shortest.leading ≤ valueLayout.plainTo :=
    ⟨(le_leading_iff_of_fraction fraction).mpr large, leading_le_of_fraction fraction⟩
  rw [Layout.write_of_inside nonzero inside]
  exact Layout.isPlain_plain _ (digits_significant nonzero)

theorem isMarked_write (tiny : size.isTiny = true) :
    IsMarked '-' (valueLayout.write size.shortest) := by
  have fraction := isWhole_of_isTiny tiny
  have nonzero := digits_ne_zero_of_fraction fraction
  have small : ¬-4 ≤ size.shortest.leading := by
    rw [le_leading_iff_of_fraction fraction, Nat.not_le]
    exact (isTiny_iff_of_fraction fraction).mp tiny
  have below : size.shortest.leading < 0 := by omega
  have marked := Layout.isMarked_marked valueLayout_mark size.shortest.leading
    (digits_significant nonzero)
  rw [if_pos below] at marked
  rwa [Layout.write_of_outside nonzero fun inside => small inside.1]

end Magnitude

end DatapackAuthoring.Number

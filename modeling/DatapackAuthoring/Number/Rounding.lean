/-!
Rounding a quotient of natural numbers: to the nearest whole number, and to the nearest number
of at most 53 significant bits. A tie goes to even in both.
-/
namespace DatapackAuthoring.Number

-- Powers are those of natural numbers themselves, not those of a monoid.
attribute [local instance (2000)] instPowNat

/-- The whole number nearest to `a / b`; halfway between two, the even one. -/
def roundQuotient (a b : Nat) : Nat :=
  if 2 * (a % b) < b then a / b
  else if b < 2 * (a % b) then a / b + 1
  else a / b + a / b % 2

theorem roundQuotient_le (a b : Nat) : roundQuotient a b ≤ a / b + 1 := by
  unfold roundQuotient
  split
  · omega
  · split <;> omega

theorem le_roundQuotient (a b : Nat) : a / b ≤ roundQuotient a b := by
  unfold roundQuotient
  split
  · omega
  · split <;> omega

/-- Without its final zeros the number has at most 53 binary digits. -/
def Fits53 (n : Nat) : Prop := 2 ^ (n.log2 - 52) ∣ n

instance (n : Nat) : Decidable (Fits53 n) := inferInstanceAs (Decidable (_ ∣ _))

/-- The number of at most 53 significant bits nearest to `a / b`. The bits of the quotient beyond
    the leading 53 decide the direction, and so does what the division leaves over. -/
def round53 (a b : Nat) : Nat :=
  let spare := (a / b).log2 - 52
  roundQuotient a (b * 2 ^ spare) * 2 ^ spare

theorem round53_of_small {a b : Nat} (small : 2 * a < b) : round53 a b = 0 := by
  have quotient : a / b = 0 := Nat.div_eq_of_lt (by omega)
  have remainder : a % b = a := Nat.mod_eq_of_lt (by omega)
  simp [round53, roundQuotient, quotient, remainder, small]

theorem two_pow_le_round53 {a k : Nat} (large : 2 ^ k ≤ a) : 2 ^ k ≤ round53 a 1 := by
  have nonzero : a ≠ 0 := by have := Nat.two_pow_pos k; omega
  have length : k ≤ a.log2 := (Nat.le_log2 nonzero).mpr large
  have whole := le_roundQuotient a (2 ^ (a.log2 - 52))
  simp only [round53, Nat.div_one, Nat.one_mul]
  refine Nat.le_trans ?_ (Nat.mul_le_mul_right _ whole)
  by_cases short : a.log2 ≤ 52
  · have none : a.log2 - 52 = 0 := by omega
    simpa [none] using large
  · have lead : 2 ^ (52 : Nat) ≤ a / 2 ^ (a.log2 - 52) := by
      rw [Nat.le_div_iff_mul_le (Nat.two_pow_pos _), ← Nat.pow_add]
      have : 52 + (a.log2 - 52) = a.log2 := by omega
      rw [this]
      exact Nat.log2_self_le nonzero
    refine Nat.le_trans ?_ (Nat.mul_le_mul_right _ lead)
    rw [← Nat.pow_add]
    exact Nat.pow_le_pow_right (by omega) (by omega)

theorem le_round53_of_eq {limit j k a : Nat} (power : limit = 2 ^ j * 2 ^ k) (large : limit ≤ a) :
    limit ≤ round53 a 1 := by
  rw [power, ← Nat.pow_add] at large ⊢
  exact two_pow_le_round53 large

theorem two_pow_le_ten_pow {j places : Nat} (far : j ≤ 3 * places) : 2 ^ j ≤ 10 ^ places :=
  calc 2 ^ j ≤ 2 ^ (3 * places) := Nat.pow_le_pow_right (by decide) far
    _ = 8 ^ places := Nat.pow_mul 2 3 places
    _ ≤ 10 ^ places := Nat.pow_le_pow_left (by decide) places

theorem double_lt_ten_pow {digits unit k places : Nat} (power : unit = 2 ^ k)
    (far : digits.log2 + k + 2 ≤ 3 * places) : 2 * (digits * unit) < 10 ^ (places + 1) := by
  have units : digits * unit < 2 ^ (digits.log2 + 1) * 2 ^ k := by
    rw [power]
    exact Nat.mul_lt_mul_of_pos_right Nat.lt_log2_self (Nat.two_pow_pos k)
  have whole : 2 ^ (digits.log2 + 1 + k + 1) ≤ 10 ^ places := two_pow_le_ten_pow (by omega)
  rw [Nat.pow_succ, Nat.pow_add] at whole
  rw [Nat.pow_succ]
  omega

theorem fits53_mul_two_pow (m k : Nat) (small : m ≤ 2 ^ (53 : Nat)) : Fits53 (m * 2 ^ k) := by
  unfold Fits53
  by_cases zero : m = 0
  · simp [zero]
  by_cases full : m = 2 ^ (53 : Nat)
  · rw [full, ← Nat.pow_add, Nat.log2_two_pow]
    exact Nat.pow_dvd_pow 2 (by omega)
  · have nonzero : m * 2 ^ k ≠ 0 :=
      Nat.mul_ne_zero zero (Nat.pos_iff_ne_zero.mp (Nat.two_pow_pos k))
    have bound : m * 2 ^ k < 2 ^ (53 + k) := by
      rw [Nat.pow_add]
      exact Nat.mul_lt_mul_of_pos_right (by omega) (Nat.two_pow_pos k)
    have length := (Nat.log2_lt nonzero).mpr bound
    exact Nat.dvd_trans (Nat.pow_dvd_pow 2 (by omega)) (Nat.dvd_mul_left _ _)

theorem round53_fits (a b : Nat) : Fits53 (round53 a b) := by
  unfold round53
  apply fits53_mul_two_pow
  have upper := roundQuotient_le a (b * 2 ^ ((a / b).log2 - 52))
  rw [← Nat.div_div_eq_div_mul] at upper
  have lead : a / b / 2 ^ ((a / b).log2 - 52) < 2 ^ (53 : Nat) := by
    rw [Nat.div_lt_iff_lt_mul (Nat.two_pow_pos _), ← Nat.pow_add]
    exact Nat.lt_of_lt_of_le Nat.lt_log2_self (Nat.pow_le_pow_right (by omega) (by omega))
  omega

end DatapackAuthoring.Number

import DatapackAuthoring.Number.Rounding
/-!
Binary floating point numbers of 64 bits. Every finite one is a whole multiple of the smallest,
`2 ^ (-1074)`, so its size is a natural number of such units and comparisons are exact.
-/
namespace DatapackAuthoring.Number

attribute [local instance (2000)] instPowNat

def unitsPerOne : Nat := 2 ^ (1074 : Nat)

/-- Units in `2 ^ 1024`, the first size that has no room. -/
def unitLimit : Nat := 2 ^ (1024 : Nat) * unitsPerOne

/- Here the exponents stand behind names, for proofs that have to leave the powers alone. -/

theorem unitsPerOne_eq : ∃ k : Nat, k = 1074 ∧ unitsPerOne = 2 ^ k :=
  ⟨_, rfl, unitsPerOne.eq_def⟩

theorem unitsPerOne_pos : 0 < unitsPerOne := by
  obtain ⟨k, -, power⟩ := unitsPerOne_eq
  rw [power]
  exact Nat.two_pow_pos k

theorem unitLimit_eq : ∃ j : Nat, j = 1024 ∧ unitLimit = 2 ^ j * unitsPerOne :=
  ⟨_, rfl, unitLimit.eq_def⟩

/-- The size of a finite number, in units of `2 ^ (-1074)`. -/
structure Magnitude where
  units : Nat
  fits : Fits53 units
  bounded : units < unitLimit
deriving DecidableEq

inductive Binary64 where
  | finite (negative : Bool) (size : Magnitude)
  | infinite (negative : Bool)
  /-- Not a number. No two of them are equal, so each is known by where it occurred. -/
  | nan (occurrence : Nat)
deriving DecidableEq

namespace Binary64

/-- The number nearest to `a / b`, infinite when the rounded size has no room. -/
def ofQuotient (negative : Bool) (a b : Nat) : Binary64 :=
  let units := round53 (a * unitsPerOne) b
  if bounded : units < unitLimit then
    .finite negative ⟨units, round53_fits (a * unitsPerOne) b, bounded⟩
  else .infinite negative

/-- The number nearest to `digits * 10 ^ exponent`. What is far too large or far too small is
    recognized without its power of ten, which may have any size. -/
def ofDecimal (negative : Bool) (digits : Nat) (exponent : Int) : Binary64 :=
  if digits = 0 then ofQuotient negative 0 1
  else match exponent with
    | .ofNat places =>
      if 342 ≤ places then .infinite negative
      else ofQuotient negative (digits * 10 ^ places) 1
    | .negSucc places =>
      if digits.log2 + 1080 ≤ 3 * places then ofQuotient negative 0 1
      else ofQuotient negative digits (10 ^ (places + 1))

theorem ofQuotient_of_large {a b : Nat} (large : unitLimit ≤ round53 (a * unitsPerOne) b)
    (negative : Bool) : ofQuotient negative a b = .infinite negative := by
  unfold ofQuotient
  rw [dif_neg (by omega)]

theorem ofQuotient_of_small {a b : Nat} (small : 2 * (a * unitsPerOne) < b) (negative : Bool) :
    ofQuotient negative a b = ofQuotient negative 0 1 := by
  have zero : round53 (a * unitsPerOne) b = 0 := round53_of_small small
  have none : round53 (0 * unitsPerOne) 1 = 0 := round53_of_small (by simp)
  unfold ofQuotient
  simp only [zero, none]

theorem ofDecimal_ofNat (negative : Bool) (digits places : Nat) :
    ofDecimal negative digits (.ofNat places) = ofQuotient negative (digits * 10 ^ places) 1 := by
  unfold ofDecimal
  by_cases none : digits = 0
  · simp [none]
  by_cases far : 342 ≤ places
  · simp only [none, far, if_false, if_true]
    refine (ofQuotient_of_large ?_ negative).symm
    obtain ⟨k, -, one⟩ := unitsPerOne_eq
    obtain ⟨j, bits, limit⟩ := unitLimit_eq
    have grown : 2 ^ j ≤ digits * 10 ^ places :=
      Nat.le_trans (two_pow_le_ten_pow (by omega))
        (Nat.le_mul_of_pos_left _ (Nat.pos_of_ne_zero none))
    refine le_round53_of_eq (one ▸ limit) ?_
    rw [limit]
    exact Nat.mul_le_mul_right _ grown
  · simp only [none, far, if_false]

theorem ofDecimal_negSucc (negative : Bool) (digits places : Nat) :
    ofDecimal negative digits (.negSucc places) =
      ofQuotient negative digits (10 ^ (places + 1)) := by
  unfold ofDecimal
  by_cases none : digits = 0
  · simp only [none, if_true]
    refine (ofQuotient_of_small ?_ negative).symm
    have : 0 < 10 ^ (places + 1) := Nat.pow_pos (by omega)
    omega
  by_cases far : digits.log2 + 1080 ≤ 3 * places
  · simp only [none, far, if_false, if_true]
    refine (ofQuotient_of_small ?_ negative).symm
    obtain ⟨k, bits, one⟩ := unitsPerOne_eq
    exact double_lt_ten_pow one (by omega)
  · simp only [none, far, if_false]

end Binary64

def signedUnits (negative : Bool) (size : Magnitude) : Int :=
  if negative then -(size.units : Int) else size.units

namespace Magnitude

def isWhole (size : Magnitude) : Bool := size.units % unitsPerOne == 0

def wholePart (size : Magnitude) : Nat := size.units / unitsPerOne

end Magnitude

end DatapackAuthoring.Number

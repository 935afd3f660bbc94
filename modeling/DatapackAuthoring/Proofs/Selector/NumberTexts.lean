import DatapackAuthoring.Proofs.Number.NotationBySize
import DatapackAuthoring.Proofs.Number.WrittenNumbers
import DatapackAuthoring.Proofs.Selector.SingleLimit

namespace DatapackAuthoring

open Number

theorem Number.wholeText_injective {m n : Int} (same : wholeText m = wholeText n) : m = n := by
  have read (k : Int) := takeSign_signText (k < 0) (digits_digitsOf k.natAbs).exists_cons
  have shown : (decide (m < 0), digitsOf m.natAbs) = (decide (n < 0), digitsOf n.natAbs) := by
    rw [← read m, ← read n, ← String.ofList_injective same]
  obtain ⟨sign, digits⟩ := Prod.mk.inj shown
  have size : m.natAbs = n.natAbs := by
    rw [← valueOfDigits_digitsOf m.natAbs, digits, valueOfDigits_digitsOf]
  have side : m < 0 ↔ n < 0 := decide_eq_decide.mp sign
  omega

namespace Value

/-- An integer that can be written, or a floating point number that is finite. -/
def isNumber : Value → Bool
  | int n => !Number.isOverlong n
  | float (.finite ..) => true
  | _ => false

theorem isNumber_iff {value : Value} :
    value.isNumber = true ↔
      (∃ n, Number.isOverlong n = false ∧ value = int n) ∨
        ∃ negative size, value = float (.finite negative size) := by
  constructor
  · intro number
    cases value with
    | int n => exact .inl ⟨n, by simpa [isNumber] using number, rfl⟩
    | float x =>
      cases x with
      | finite negative size => exact .inr ⟨negative, size, rfl⟩
      | _ => cases number
    | _ => cases number
  · rintro (⟨n, short, rfl⟩ | ⟨negative, size, rfl⟩)
    · rw [isNumber, short, Bool.not_false]
    · rfl

inductive IsWhole : Value → Int → Prop where
  | int {n : Int} (short : Number.isOverlong n = false) : IsWhole (int n) n
  | float {size : Magnitude} (negative : Bool) (whole : size.isWhole = true) :
      IsWhole (float (.finite negative size))
        (if negative then -(size.wholePart : Int) else size.wholePart)

theorem whole_or_fraction {value : Value} (number : value.isNumber = true) :
    (∃ n, value.IsWhole n) ∨
      ∃ negative size, value = float (.finite negative size) ∧ size.isWhole = false := by
  obtain ⟨n, short, rfl⟩ | ⟨negative, size, rfl⟩ := isNumber_iff.mp number
  · exact .inl ⟨n, .int short⟩
  · cases whole : size.isWhole with
    | true => exact .inl ⟨_, .float negative whole⟩
    | false => exact .inr ⟨negative, size, rfl, whole⟩

theorem IsWhole.numberText {value : Value} {n : Int} (whole : value.IsWhole n) :
    value.numberText = .ok (wholeText n) := by
  cases whole with
  | int short =>
    simp only [Value.numberText, numberForm, plain]
    exact literal_eq_ok_iff.mpr ⟨short, rfl⟩
  | float negative whole => simp only [Value.numberText, numberForm, whole, if_true]

theorem numberText_of_fraction {negative : Bool} {size : Magnitude}
    (fraction : size.isWhole = false) :
    (float (.finite negative size)).numberText = .ok (Binary64.finite negative size).text := by
  simp only [numberText, numberForm, fraction, Bool.false_eq_true, if_false]
  rfl

theorem IsWhole.exactUnits? {value : Value} {n : Int} (whole : value.IsWhole n) :
    value.exactUnits? = some (n * unitsPerOne) := by
  cases whole with
  | int => rfl
  | @float size negative whole =>
    have units : size.wholePart * unitsPerOne = size.units :=
      Nat.div_mul_cancel (Nat.dvd_of_mod_eq_zero (eq_of_beq whole))
    rw [Value.exactUnits?, signedUnits, ← units]
    cases negative with
    | false => rw [if_neg Bool.false_ne_true, if_neg Bool.false_ne_true, Int.natCast_mul]
    | true => rw [if_pos rfl, if_pos rfl, Int.natCast_mul, Int.neg_mul]

theorem same_of_isNumber {a b : Value} (first : a.isNumber = true) (second : b.isNumber = true) :
    ∃ m n, a.exactUnits? = some m ∧ b.exactUnits? = some n ∧ a.same b = (m == n) := by
  obtain ⟨m, -, rfl⟩ | ⟨negative, size, rfl⟩ := isNumber_iff.mp first <;>
    obtain ⟨n, -, rfl⟩ | ⟨side, other, rfl⟩ := isNumber_iff.mp second <;>
      exact ⟨_, _, rfl, rfl, rfl⟩

theorem same_iff_of_isNumber {a b : Value} (first : a.isNumber = true) (second : b.isNumber = true) :
    a.same b = true ↔ a.exactUnits? = b.exactUnits? := by
  obtain ⟨m, n, units, others, same⟩ := same_of_isNumber first second
  rw [units, others, same, beq_iff_eq, Option.some.injEq]

end Value

namespace Number

variable {negative side : Bool} {size other : Magnitude}

theorem signedUnits_ne_of_fraction (fraction : size.isWhole = false) (n : Int) :
    signedUnits negative size ≠ n * unitsPerOne := by
  intro same
  have divides : (unitsPerOne : Int) ∣ size.units := by
    have factor : (unitsPerOne : Int) ∣ signedUnits negative size := same ▸ Int.dvd_mul_left _ _
    cases negative with
    | false => exact factor
    | true => exact (Int.dvd_neg).mp factor
  rw [Magnitude.isWhole, Nat.mod_eq_zero_of_dvd (Int.natCast_dvd_natCast.mp divides)] at fraction
  cases fraction

/-- Only zero has two signs. -/
theorem finite_eq_of_signedUnits (fraction : size.isWhole = false)
    (same : signedUnits negative size = signedUnits side other) :
    Binary64.finite negative size = .finite side other := by
  have nonzero : size.units ≠ 0 := by
    intro zero
    rw [Magnitude.isWhole, zero, Nat.zero_mod] at fraction
    cases fraction
  have equal : size.units = other.units → size = other := by
    cases size
    cases other
    rintro rfl
    rfl
  unfold signedUnits at same
  cases negative <;> cases side <;> simp only [Bool.false_eq_true, if_true, if_false] at same
  · rw [equal (by omega)]
  · omega
  · omega
  · rw [equal (by omega)]

theorem text_ne_wholeText (negative : Bool) (size : Magnitude) (n : Int) :
    (Binary64.finite negative size).text ≠ wholeText n := by
  intro same
  obtain ⟨c, member, mark⟩ := Layout.exists_mark_mem_write valueLayout_mark size.shortest
  have inside : c ∈ (wholeText n).toList := by
    rw [← same, Binary64.text, String.toList_ofList]
    exact List.mem_append_right _ member
  rw [wholeText, String.toList_ofList, List.mem_append] at inside
  obtain sign | digit := inside
  · have minus : c = '-' := by
      unfold signText at sign
      split at sign
      · simpa using sign
      · cases sign
    obtain rfl | rfl := mark <;> cases minus
  · have known := (digits_digitsOf n.natAbs).all c digit
    obtain rfl | rfl := mark <;> cases known

end Number

namespace Value

def isTiny : Value → Bool
  | float (.finite _ size) => size.isTiny
  | _ => false

/-- A tiny number is written with a power of ten, and all others in plain digits. -/
theorem exists_numeral {value : Value} (number : value.isNumber = true) :
    ∃ negative body, value.numberText = .ok (String.ofList (signText negative ++ body)) ∧
      if value.isTiny then IsMarked '-' body else IsPlain body := by
  obtain ⟨n, whole⟩ | ⟨negative, size, rfl, fraction⟩ := whole_or_fraction number
  · have usual : value.isTiny = false := by
      cases whole with
      | int => rfl
      | float negative whole =>
        rw [isTiny, Bool.eq_false_iff]
        intro tiny
        rw [Magnitude.isWhole_of_isTiny tiny] at whole
        cases whole
    rw [usual, whole.numberText]
    exact ⟨n < 0, digitsOf n.natAbs, rfl, .whole (digits_digitsOf n.natAbs)⟩
  · refine ⟨negative, valueLayout.write size.shortest, numberText_of_fraction fraction, ?_⟩
    rw [isTiny]
    cases tiny : size.isTiny with
    | true => exact Magnitude.isMarked_write tiny
    | false => exact Magnitude.isPlain_write fraction tiny

theorem numberText_eq_iff {a b : Value} (first : a.isNumber = true) (second : b.isNumber = true) :
    a.numberText = b.numberText ↔ a.same b = true := by
  rw [same_iff_of_isNumber first second]
  obtain ⟨m, whole⟩ | ⟨negative, size, rfl, fraction⟩ := whole_or_fraction first
  · rw [whole.numberText, whole.exactUnits?]
    obtain ⟨n, other⟩ | ⟨side, other, rfl, fraction⟩ := whole_or_fraction second
    · rw [other.numberText, other.exactUnits?, Except.ok.injEq, Option.some.injEq]
      constructor
      · intro same
        rw [wholeText_injective same]
      · intro same
        have one : (unitsPerOne : Int) ≠ 0 := Int.natCast_ne_zero.mpr unitsPerOne_pos.ne'
        rw [Int.eq_of_mul_eq_mul_right one same]
    · rw [numberText_of_fraction fraction, exactUnits?, Except.ok.injEq, Option.some.injEq]
      exact iff_of_false (text_ne_wholeText side other m).symm
        (signedUnits_ne_of_fraction fraction m).symm
  · rw [numberText_of_fraction fraction, exactUnits?]
    obtain ⟨n, whole⟩ | ⟨side, other, rfl, part⟩ := whole_or_fraction second
    · rw [whole.numberText, whole.exactUnits?, Except.ok.injEq, Option.some.injEq]
      exact iff_of_false (text_ne_wholeText negative size n) (signedUnits_ne_of_fraction fraction n)
    · rw [numberText_of_fraction part, exactUnits?, Except.ok.injEq, Option.some.injEq]
      constructor
      · intro same
        -- Both texts are read as the number they were made from.
        have read := Binary64.ofText?_finite negative size
        rw [same, Binary64.ofText?_finite] at read
        obtain ⟨rfl, rfl⟩ := Binary64.finite.inj (Option.some.inj read)
        rfl
      · intro same
        rw [finite_eq_of_signedUnits fraction same]

end Value

end DatapackAuthoring

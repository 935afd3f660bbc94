import DatapackAuthoring.Number.Shortest

namespace DatapackAuthoring.Number

attribute [local instance (2000)] instPowNat

/-- How a decimal is written: between two exponents of its leading digit with a plain point,
    otherwise with a marked power of ten. -/
structure Layout where
  plainFrom : Int
  plainTo : Int
  mark : Char
  exponentDigits : Nat

/-- Written values keep a plain point from `0.0001` up to below `10 ^ 16`; beyond these the power
    of ten follows an `e`, with its sign and at least two digits. -/
def valueLayout : Layout := ⟨-4, 15, 'e', 2⟩

def zeros (count : Nat) : List Char := List.replicate count '0'

def significant (digits : List Char) : List Char :=
  (digits.reverse.dropWhile (· == '0')).reverse

namespace Layout

/-- Digits with a point after the first `point` of them, zeros filling up either side. -/
def plain (point : Int) (digits : List Char) : List Char :=
  match point with
  | .ofNat 0 => '0' :: '.' :: digits
  | .ofNat whole =>
    if digits.length ≤ whole then digits ++ zeros (whole - digits.length) ++ ['.', '0']
    else digits.take whole ++ '.' :: digits.drop whole
  | .negSucc gap => '0' :: '.' :: zeros (gap + 1) ++ digits

def exponentText (layout : Layout) (exponent : Int) : List Char :=
  let digits := digitsOf exponent.natAbs
  layout.mark :: (if exponent < 0 then '-' else '+') ::
    zeros (layout.exponentDigits - digits.length) ++ digits

def marked (layout : Layout) (exponent : Int) : List Char → List Char
  | [] => []
  | [digit] => digit :: layout.exponentText exponent
  | digit :: rest => digit :: '.' :: rest ++ layout.exponentText exponent

def write (layout : Layout) (decimal : Decimal) : List Char :=
  let all := digitsOf decimal.digits
  let leading := (all.length : Int) + decimal.exponent - 1
  if decimal.digits = 0 then ['0', '.', '0']
  else if layout.plainFrom ≤ leading ∧ leading ≤ layout.plainTo then
    plain (leading + 1) (significant all)
  else layout.marked leading (significant all)

end Layout

def signText (negative : Bool) : List Char := if negative then ['-'] else []

def wholeText (n : Int) : String := String.ofList (signText (n < 0) ++ digitsOf n.natAbs)

def digitLimit : Nat := 4300

def isOverlong (n : Int) : Bool := decide (digitLimit < (digitsOf n.natAbs).length)

theorem isOverlong_iff {n : Int} : isOverlong n = true ↔ 10 ^ digitLimit ≤ n.natAbs := by
  rw [isOverlong, decide_eq_true_eq, ← Nat.not_le, digitsOf,
    Nat.length_toDigits_le_iff (by decide) (by decide), Nat.not_lt]

theorem isOverlong_ten_pow {k : Nat} (large : digitLimit ≤ k) : isOverlong (10 ^ k : Nat) = true :=
  isOverlong_iff.mpr (Nat.pow_le_pow_right (by decide) large)

namespace Binary64

def text : Binary64 → String
  | .finite negative size =>
    String.ofList (signText negative ++ valueLayout.write size.shortest)
  | .infinite negative => String.ofList (signText negative ++ ['i', 'n', 'f'])
  | .nan _ => "nan"

end Binary64

/- Reading. -/

def valueOfDigits (digits : List Char) : Nat :=
  digits.foldl (fun n c => 10 * n + (c.toNat - '0'.toNat)) 0

def takeSign : List Char → Bool × List Char
  | '-' :: rest => (true, rest)
  | '+' :: rest => (false, rest)
  | rest => (false, rest)

def readExponent : List Char → Option Int
  | [] => some 0
  | mark :: rest =>
    let signed := takeSign rest
    if (mark == 'e' || mark == 'E') && !signed.2.isEmpty && signed.2.all Char.isDigit then
      some (if signed.1 then -(valueOfDigits signed.2 : Int) else valueOfDigits signed.2)
    else none

def readDecimal (negative : Bool) (text : List Char) : Option Binary64 :=
  let whole := text.takeWhile Char.isDigit
  let after := text.dropWhile Char.isDigit
  let places := match after with
    | '.' :: rest => rest.takeWhile Char.isDigit
    | _ => []
  let rest := match after with
    | '.' :: rest => rest.dropWhile Char.isDigit
    | other => other
  if whole.isEmpty && places.isEmpty then none
  else (readExponent rest).map fun exponent =>
    .ofDecimal negative (valueOfDigits (whole ++ places)) (exponent - (places.length : Int))

def Binary64.ofText? (text : String) : Option Binary64 :=
  let signed := takeSign text.toList
  let word := String.ofList (signed.2.map Char.toLower)
  if word = "inf" ∨ word = "infinity" then some (.infinite signed.1)
  else if word = "nan" then some (.nan 0)
  else readDecimal signed.1 signed.2

/- What is written reads back, also where the notation changes and at both ends of the range. -/
example :
    (["0.0", "-0.0", "0.1", "0.0001", "1e-05", "100.0", "1000000000000000.0", "1e+16",
      "1.2345678901234568e+17", "5e-324", "1.7976931348623157e+308", "-inf", "nan"].all fun text =>
        (Binary64.ofText? text).map Binary64.text == some text) = true := by
  decide +kernel

/- A tie goes to the even neighbour, and what is too large for a finite number is infinite. -/
example : (Binary64.ofText? "9007199254740993").map Binary64.text = some "9007199254740992.0" ∧
    (Binary64.ofText? "1.8e308").map Binary64.text = some "inf" := by
  decide +kernel

end DatapackAuthoring.Number

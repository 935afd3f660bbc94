import DatapackAuthoring.Number.Binary64
/-!
The shortest decimal of a binary number: of all decimals that read back as the number, those with
the fewest digits, and of these the nearest.
-/
namespace DatapackAuthoring.Number

attribute [local instance (2000)] instPowNat

structure Decimal where
  digits : Nat
  exponent : Int
deriving DecidableEq

def digitsOf (n : Nat) : List Char := Nat.toDigits 10 n

namespace Magnitude

/- A decimal grid has the spacing `10 ^ drop` in units of `10 ^ (-340)`, which leaves seventeen
   digits to the smallest number as well. -/

def readsBack (size : Magnitude) (drop index : Nat) : Bool :=
  round53 (index * 10 ^ drop * unitsPerOne) (10 ^ (340 : Nat)) == size.units

def gridHit (size : Magnitude) (drop : Nat) : Option Decimal :=
  let spacing := unitsPerOne * 10 ^ drop
  let below := size.units * 10 ^ (340 : Nat) / spacing
  let nearer := roundQuotient (size.units * 10 ^ (340 : Nat)) spacing
  let farther := if nearer = below then below + 1 else below
  let point (index : Nat) : Decimal := ⟨index, (drop : Int) - 340⟩
  if size.readsBack drop nearer then some (point nearer)
  else if size.readsBack drop farther then some (point farther)
  else none

/-- All decimal digits of `size`: `2 ^ (-1074)` is `5 ^ 1074 * 10 ^ (-1074)`. -/
def exactDecimal (size : Magnitude) : Decimal := ⟨size.units * 5 ^ (1074 : Nat), -1074⟩

/-- Grids of one digit, two digits and so on to seventeen; the first with a hit decides. -/
def shortest (size : Magnitude) : Decimal :=
  let length := (digitsOf (size.units * 10 ^ (340 : Nat) / unitsPerOne)).length
  ((List.range 17).findSome? fun n => size.gridHit (length - (n + 1))).getD size.exactDecimal

end Magnitude

end DatapackAuthoring.Number

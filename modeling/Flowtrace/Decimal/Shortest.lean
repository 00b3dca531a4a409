import Flowtrace.Binary64

/-! The shortest decimal that reads back as a given number. A decimal reads back if it lies in
the interval of values that round to the number, whose ends belong to it iff the significand is
even. On the grid of decimals with a given count of digits only the two neighbours of the value
have to be tried: if any point of the grid lies in the interval, so does one of them. -/

namespace Flowtrace.Decimal

/-- The positive value `digits * 10 ^ exponent`. -/
structure Scientific where
  digits : Nat
  exponent : Int
deriving DecidableEq, Inhabited

def Scientific.ratio (value : Scientific) : Nat × Nat :=
  if 0 ≤ value.exponent then (value.digits * Nat.pow 10 value.exponent.toNat, 1)
  else (value.digits, Nat.pow 10 (-value.exponent).toNat)

def ratioLess (left right : Nat × Nat) : Bool := left.1 * right.2 < right.1 * left.2

def ratioAtMost (left right : Nat × Nat) : Bool := left.1 * right.2 ≤ right.1 * left.2

/-- The ends of the interval of values that round to a number, in quarters of the distance to
its upper neighbour. Below a power of two the lower neighbour is half as far away. -/
def interval (value : Dyadic) : (Nat × Nat) × (Nat × Nat) :=
  let below := if value.significand = Binary64.blockSize ∧ value.exponent ≠ -1074 then 1 else 2
  (Dyadic.ratio ⟨4 * value.significand - below, value.exponent - 2⟩,
    Dyadic.ratio ⟨4 * value.significand + 2, value.exponent - 2⟩)

def readsBack (value : Dyadic) (decimal : Scientific) : Bool :=
  let (lower, upper) := interval value
  if value.significand % 2 = 0 then
    ratioAtMost lower decimal.ratio && ratioAtMost decimal.ratio upper
  else ratioLess lower decimal.ratio && ratioLess decimal.ratio upper

/-- The number of places before the decimal point, negative for leading zeros after it:
`10 ^ (p - 1) ≤ value < 10 ^ p`. The estimate from the binary length is at most two too low. -/
def pointPosition (value : Dyadic) : Int :=
  let estimate := (Int.ofNat value.significand.log2 + value.exponent) * 30103 / 100000
  if ratioLess value.ratio (Scientific.ratio ⟨1, estimate⟩) then estimate
  else if ratioLess value.ratio (Scientific.ratio ⟨1, estimate + 1⟩) then estimate + 1
  else estimate + 2

/-- The decimal of the given exponent just below a value, or the value itself. -/
def floorAt (value : Dyadic) (exponent : Int) : Nat :=
  let (numerator, denominator) := value.ratio
  if 0 ≤ exponent then numerator / (denominator * Nat.pow 10 exponent.toNat)
  else numerator * Nat.pow 10 (-exponent).toNat / denominator

def nearerOf (value : Dyadic) (exponent : Int) (lower : Nat) : Nat :=
  let middle := Scientific.ratio ⟨2 * lower + 1, exponent⟩
  let (numerator, denominator) := value.ratio
  let twice := (2 * numerator, denominator)
  if ratioLess twice middle then lower
  else if ratioLess middle twice then lower + 1
  else lower + lower % 2

/-- The decimal of the given exponent that reads back and is nearest to the value, if any. -/
def atExponent? (value : Dyadic) (exponent : Int) : Option Scientific :=
  let lower := floorAt value exponent
  let below := readsBack value ⟨lower, exponent⟩
  let above := readsBack value ⟨lower + 1, exponent⟩
  if below && above then some ⟨nearerOf value exponent lower, exponent⟩
  else if below then some ⟨lower, exponent⟩
  else if above then some ⟨lower + 1, exponent⟩
  else none

/-- The shortest decimal that reads back, for a value that is not zero. Seventeen digits always
suffice. -/
def shortest (value : Dyadic) : Scientific :=
  let point := pointPosition value
  ((List.range 17).findSome? fun count => atExponent? value (point - (Int.ofNat count + 1))).getD
    ⟨floorAt value (point - 17), point - 17⟩

end Flowtrace.Decimal

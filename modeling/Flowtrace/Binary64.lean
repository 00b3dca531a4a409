/-! Double precision numbers as bit patterns. Nothing here computes with them: a number is read
from decimal text, compared, and written as the shortest decimal text that reads back, all in
exact integer arithmetic, so that every result can be computed inside a proof. -/

namespace Flowtrace

structure Binary64 where
  bits : UInt64
deriving DecidableEq, Inhabited

/-- The exact value of a number that is not negative: `significand * 2 ^ exponent`. -/
structure Dyadic where
  significand : Nat
  exponent : Int
deriving DecidableEq

namespace Dyadic

def ratio (value : Dyadic) : Nat × Nat :=
  if 0 ≤ value.exponent then (value.significand * Nat.pow 2 value.exponent.toNat, 1)
  else (value.significand, Nat.pow 2 (-value.exponent).toNat)

end Dyadic

namespace Binary64

/-- The count of ranks between one power of two and the next. -/
def blockSize : Nat := Nat.pow 2 52

def signBit : Nat := Nat.pow 2 63

/-- The position of the infinity among the numbers that are not negative, in ascending order
from zero. What lies beyond it is not a number. -/
def infiniteRank : Nat := 2047 * blockSize

def ofRank (negative : Bool) (rank : Nat) : Binary64 :=
  ⟨UInt64.ofNat (rank + if negative then signBit else 0)⟩

def nan : Binary64 := ofRank false (infiniteRank + blockSize / 2)

def infinite (negative : Bool) : Binary64 := ofRank negative infiniteRank

def isNegative (x : Binary64) : Bool := signBit ≤ x.bits.toNat

def rank (x : Binary64) : Nat := x.bits.toNat % signBit

def isNaN (x : Binary64) : Bool := infiniteRank < x.rank

def isInfinite (x : Binary64) : Bool := x.rank == infiniteRank

def isZero (x : Binary64) : Bool := x.rank == 0

/-- The absolute value of a finite number. The first two blocks of ranks count in multiples of the
least number, and each later block doubles the distance between neighbours. -/
def magnitude (x : Binary64) : Dyadic :=
  if x.rank < blockSize then ⟨x.rank, -1074⟩
  else ⟨blockSize + x.rank % blockSize, Int.ofNat (x.rank / blockSize) - 1075⟩

/-- The quotient to the nearest whole number, a half to the even one. -/
def roundedQuotient (numerator denominator : Nat) : Nat :=
  let whole := numerator / denominator
  let twice := 2 * (numerator % denominator)
  if twice < denominator then whole
  else if denominator < twice then whole + 1
  else whole + whole % 2

/-- The number nearest to a quotient. A significand that rounds up to `2 ^ 53` carries into the
next block of ranks, and past the last block the result is infinite. -/
def nearest (negative : Bool) (numerator denominator : Nat) : Binary64 :=
  if numerator = 0 then ofRank negative 0 else
  let scaled (exponent : Int) : Nat × Nat :=
    if 0 ≤ exponent then (numerator, denominator * Nat.pow 2 exponent.toNat)
    else (numerator * Nat.pow 2 (-exponent).toNat, denominator)
  let guess := max (-1074) (Int.ofNat numerator.log2 - Int.ofNat denominator.log2 - 53)
  let exponent :=
    if (scaled guess).1 / (scaled guess).2 < 2 * blockSize then guess else guess + 1
  let significand := roundedQuotient (scaled exponent).1 (scaled exponent).2
  ofRank negative (min infiniteRank ((exponent + 1074).toNat * blockSize + significand))

def digitCount (n : Nat) : Nat := (Nat.toDigits 10 n).length

/-- The number nearest to `digits * 10 ^ exponent`. Exponents that decide the result alone are
answered first, so that no huge power is computed. -/
def ofDecimal (negative : Bool) (digits : Nat) (exponent : Int) : Binary64 :=
  if digits = 0 then ofRank negative 0
  else if 310 < exponent + digitCount digits then infinite negative
  else if exponent + digitCount digits < -330 then ofRank negative 0
  else if 0 ≤ exponent then nearest negative (digits * Nat.pow 10 exponent.toNat) 1
  else nearest negative digits (Nat.pow 10 (-exponent).toNat)

def toInt? (x : Binary64) : Option Int :=
  if infiniteRank ≤ x.rank then none else
  let (numerator, denominator) := x.magnitude.ratio
  if numerator % denominator = 0 then
    some (if x.isNegative then -Int.ofNat (numerator / denominator)
      else Int.ofNat (numerator / denominator))
  else none

/-- Equality as numbers: zero has two spellings, and what is not a number equals nothing. -/
def equals (x y : Binary64) : Bool :=
  !x.isNaN && !y.isNaN && (x == y || (x.isZero && y.isZero))

def exceeds (x : Binary64) (bound : Nat) : Bool :=
  if x.isNaN || x.isNegative then false
  else if x.isInfinite then true
  else
    let (numerator, denominator) := x.magnitude.ratio
    bound * denominator < numerator

def isPositive (x : Binary64) : Bool := !x.isNaN && !x.isNegative && !x.isZero

end Binary64

end Flowtrace

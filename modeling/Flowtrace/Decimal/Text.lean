import Flowtrace.Decimal.Shortest

/-! Decimal text of numbers: the spelling that reports and messages use, and the reading of
every spelling that inputs may use. -/

namespace Flowtrace

namespace Decimal

def zeros (count : Nat) : List Char := List.replicate count '0'

def dropTrailingZeros (digits : List Char) : List Char :=
  (digits.reverse.dropWhile (· == '0')).reverse

/-- The exponent always has a sign and at least two digits. -/
def exponentText (exponent : Int) : List Char :=
  let digits := Nat.toDigits 10 exponent.natAbs
  (if exponent < 0 then '-' else '+') ::
    (if digits.length < 2 then '0' :: digits else digits)

/-- Digits with the point at the given position: positional while the decimal exponent lies
between -4 and 15, where a whole number keeps one zero after the point, and in exponent form
otherwise. -/
def layOut (digits : List Char) (point : Int) : List Char :=
  if -4 < point ∧ point ≤ 16 then
    if point ≤ 0 then '0' :: '.' :: zeros (-point).toNat ++ digits
    else
      let whole := point.toNat
      if digits.length ≤ whole then digits ++ zeros (whole - digits.length) ++ ['.', '0']
      else digits.take whole ++ '.' :: digits.drop whole
  else
    let fraction := digits.drop 1
    digits.take 1 ++ (if fraction.isEmpty then [] else '.' :: fraction) ++
      'e' :: exponentText (point - 1)

def magnitudeText (value : Dyadic) : List Char :=
  if value.significand = 0 then ['0', '.', '0'] else
  let decimal := shortest value
  let digits := Nat.toDigits 10 decimal.digits
  layOut (dropTrailingZeros digits) (decimal.exponent + digits.length)

end Decimal

namespace Binary64

def text (x : Binary64) : String :=
  if x.isNaN then "nan"
  else
    let magnitude := if x.isInfinite then "inf" else String.ofList (Decimal.magnitudeText x.magnitude)
    if x.isNegative then "-" ++ magnitude else magnitude

end Binary64

namespace Decimal

/-- A decimal number as written: the digits with the point removed, the count of digits after
the point, and the exponent. -/
structure Literal where
  negative : Bool
  digits : Nat
  places : Nat
  exponent : Int
deriving DecidableEq

def Literal.value (literal : Literal) : Binary64 :=
  Binary64.ofDecimal literal.negative literal.digits (literal.exponent - literal.places)

def digitsValue (digits : List Char) : Nat :=
  digits.foldl (fun total digit => 10 * total + (digit.toNat - '0'.toNat)) 0

def takeSign : List Char → Bool × List Char
  | '-' :: rest => (true, rest)
  | '+' :: rest => (false, rest)
  | rest => (false, rest)

/-- What follows the mark of an exponent. No mark stands for exponent zero. -/
def readExponent : List Char → Option Int
  | [] => some 0
  | mark :: rest =>
    if mark == 'e' || mark == 'E' then
      let (negative, digits) := takeSign rest
      if digits.isEmpty || !digits.all Char.isDigit then none
      else some (if negative then -Int.ofNat (digitsValue digits) else Int.ofNat (digitsValue digits))
    else none

def readLiteral (characters : List Char) : Option Literal :=
  let (negative, unsigned) := takeSign characters
  let whole := unsigned.takeWhile Char.isDigit
  let (fraction, rest) := match unsigned.dropWhile Char.isDigit with
    | '.' :: after => (after.takeWhile Char.isDigit, after.dropWhile Char.isDigit)
    | other => ([], other)
  if whole.isEmpty && fraction.isEmpty then none
  else (readExponent rest).map fun exponent =>
    ⟨negative, digitsValue (whole ++ fraction), fraction.length, exponent⟩

end Decimal

namespace Binary64

/-- Reads a decimal in any spelling, the infinities and `nan`. -/
def ofText? (spelled : String) : Option Binary64 :=
  let (negative, word) := Decimal.takeSign spelled.toLower.toList
  if word == ['n', 'a', 'n'] then some nan
  else if word == ['i', 'n', 'f'] || word == "infinity".toList then some (infinite negative)
  else (Decimal.readLiteral spelled.toList).map Decimal.Literal.value

end Binary64

example : (["1.0", "-0.0", "1e15", "1e16", "0.0001", "1e-5", "5e-324", "123456789012345678"].filterMap
    Binary64.ofText?).map Binary64.text =
      ["1.0", "-0.0", "1000000000000000.0", "1e+16", "0.0001", "1e-05", "5e-324",
        "1.2345678901234568e+17"] := by
  decide +kernel

end Flowtrace

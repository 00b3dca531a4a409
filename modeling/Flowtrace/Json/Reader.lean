import Flowtrace.Decimal.Text
import Flowtrace.Json
import Flowtrace.Text.CodePoints

/-! Reading JSON text. The reader accepts exactly the standard's grammar: no raw control characters,
no number beyond the range of floating point, and unpaired surrogates only where the texts to be
read may hold them. A repeated key keeps its first position and its last value. -/

namespace Flowtrace.Json

def isBlank (c : Char) : Bool := c == ' ' || c == '\t' || c == '\n' || c == '\r'

def skipBlanks (input : List Char) : List Char := input.dropWhile isBlank

def hexValue? (c : Char) : Option Nat :=
  if '0' ≤ c ∧ c ≤ '9' then some (c.toNat - '0'.toNat)
  else if 'a' ≤ c ∧ c ≤ 'f' then some (c.toNat - 'a'.toNat + 10)
  else if 'A' ≤ c ∧ c ≤ 'F' then some (c.toNat - 'A'.toNat + 10)
  else none

def readUnit : List Char → Option (CodePoint × List Char)
  | a :: b :: c :: d :: rest => do
    let a ← hexValue? a
    let b ← hexValue? b
    let c ← hexValue? c
    let d ← hexValue? d
    return (.ofNat (a * 0x1000 + b * 0x100 + c * 0x10 + d), rest)
  | _ => none

/-- The low surrogate that an escape in front of the input spells. -/
def readLow : List Char → Option (CodePoint × List Char)
  | '\\' :: 'u' :: rest => (readUnit rest).filter fun found => found.1.isLow
  | _ => none

/-- One code unit, or a high surrogate and the low one that follows it. -/
def readUnicodeEscape (input : List Char) : Option (CodePoint × List Char) := do
  let (unit, rest) ← readUnit input
  if unit.isHigh then
    match readLow rest with
    | some (low, rest) => return (unit.paired low, rest)
    | none => return (unit, rest)
  else return (unit, rest)

/-- The character that a letter after a backslash stands for. -/
def namedEscape? : Char → Option Char
  | '"' => some '"'
  | '\\' => some '\\'
  | '/' => some '/'
  | 'b' => some '\x08'
  | 'f' => some '\x0c'
  | 'n' => some '\n'
  | 'r' => some '\r'
  | 't' => some '\t'
  | _ => none

/-- The code points up to the closing quote, for an input no longer than the fuel. -/
def readStringBody : Nat → List Char → Option (RawText × List Char)
  | 0, _ => none
  | _ + 1, [] => none
  | _ + 1, '"' :: rest => some ([], rest)
  | fuel + 1, '\\' :: 'u' :: rest => do
    let (point, rest) ← readUnicodeEscape rest
    let (text, rest) ← readStringBody fuel rest
    return (point :: text, rest)
  | fuel + 1, '\\' :: letter :: rest => do
    let c ← namedEscape? letter
    let (text, rest) ← readStringBody fuel rest
    return (.ofChar c :: text, rest)
  | fuel + 1, c :: rest =>
    if c = '\\' ∨ c.toNat < 0x20 then none else do
      let (text, rest) ← readStringBody fuel rest
      return (.ofChar c :: text, rest)

def readString {τ : Type} [Wording τ] (input : List Char) : Option (τ × List Char) := do
  let (points, rest) ← readStringBody (input.length + 1) input
  let text ← Wording.ofPoints? points
  return (text, rest)

def isNumberChar (c : Char) : Bool :=
  c.isDigit || c == '-' || c == '+' || c == '.' || c == 'e' || c == 'E'

/-- A whole part has no leading zero, and a fraction has at least one digit. -/
def isNumberShape (spelled : List Char) : Bool :=
  let unsigned := match spelled with
    | '-' :: rest => rest
    | other => other
  let whole := unsigned.takeWhile Char.isDigit
  let wholeValid := !whole.isEmpty && (whole.length == 1 || whole.head? != some '0')
  let fractionValid := match unsigned.dropWhile Char.isDigit with
    | '.' :: after => !(after.takeWhile Char.isDigit).isEmpty
    | _ => true
  spelled.head? != some '+' && wholeValid && fractionValid

/-- A number with neither point nor exponent is whole. -/
def numberOf {τ : Type} (spelled : List Char) : Option (Json τ) :=
  if isNumberShape spelled then do
    let literal ← Decimal.readLiteral spelled
    if spelled.any fun c => c == '.' || c == 'e' || c == 'E' then
      if literal.value.isInfinite then none else some (.float literal.value)
    else
      some (.int (if literal.negative then -Int.ofNat literal.digits else Int.ofNat literal.digits))
  else none

def readNumber {τ : Type} (input : List Char) : Option (Json τ × List Char) :=
  (numberOf (input.takeWhile isNumberChar)).map fun number =>
    (number, input.dropWhile isNumberChar)

section

variable {τ : Type} [Wording τ] [BEq τ]

mutual

def readValue : Nat → List Char → Option (Json τ × List Char)
  | 0, _ => none
  | fuel + 1, input =>
    match skipBlanks input with
    | 'n' :: 'u' :: 'l' :: 'l' :: rest => some (.null, rest)
    | 't' :: 'r' :: 'u' :: 'e' :: rest => some (.bool true, rest)
    | 'f' :: 'a' :: 'l' :: 's' :: 'e' :: rest => some (.bool false, rest)
    | '"' :: rest => (readString rest).map fun (text, rest) => (.str text, rest)
    | '[' :: rest =>
      match skipBlanks rest with
      | ']' :: rest => some (.arr [], rest)
      | rest => do
        let (item, rest) ← readValue fuel rest
        let (items, rest) ← readItems fuel rest
        return (.arr (item :: items), rest)
    | '\x7b' :: rest =>
      match skipBlanks rest with
      | '\x7d' :: rest => some (.obj [], rest)
      | rest => do
        let (field, rest) ← readField fuel rest
        let (fields, rest) ← readFields fuel rest
        return (.obj (Entries.collect (· == ·) (field :: fields)), rest)
    | rest => readNumber rest

def readItems : Nat → List Char → Option (List (Json τ) × List Char)
  | 0, _ => none
  | fuel + 1, input =>
    match skipBlanks input with
    | ']' :: rest => some ([], rest)
    | ',' :: rest => do
      let (item, rest) ← readValue fuel rest
      let (items, rest) ← readItems fuel rest
      return (item :: items, rest)
    | _ => none

def readField : Nat → List Char → Option ((τ × Json τ) × List Char)
  | 0, _ => none
  | fuel + 1, input =>
    match skipBlanks input with
    | '"' :: rest => do
      let (key, rest) ← readString rest
      match skipBlanks rest with
      | ':' :: rest => do
        let (item, rest) ← readValue fuel rest
        return ((key, item), rest)
      | _ => none
    | _ => none

def readFields : Nat → List Char → Option (List (τ × Json τ) × List Char)
  | 0, _ => none
  | fuel + 1, input =>
    match skipBlanks input with
    | '\x7d' :: rest => some ([], rest)
    | ',' :: rest => do
      let (field, rest) ← readField fuel rest
      let (fields, rest) ← readFields fuel rest
      return (field :: fields, rest)
    | _ => none

end

/-- The document that a whole text spells. Each level of the grammar consumes a character or
spends at most two units of fuel before the next one does, so the fuel never runs out. -/
def parse? (text : String) : Option (Json τ) :=
  match readValue (3 * text.length + 3) text.toList with
  | some (document, rest) => if (skipBlanks rest).isEmpty then some document else none
  | none => none

end

end Flowtrace.Json

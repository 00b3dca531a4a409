/-! Texts by code points. A text may hold any of them, also surrogates, alone or in pairs; a
`String` is made of characters, and no surrogate is one. -/

namespace Flowtrace

abbrev CodePoint := Fin 0x110000

abbrev RawText := List CodePoint

namespace CodePoint

def ofNat (n : Nat) : CodePoint := Fin.ofNat 0x110000 n

def ofChar (c : Char) : CodePoint :=
  ⟨c.toNat, by
    rcases c.valid with low | ⟨_, below⟩
    · exact Nat.lt_trans low (by decide)
    · exact below⟩

def isHigh (point : CodePoint) : Bool := 0xD800 ≤ point.val && point.val < 0xDC00

def isLow (point : CodePoint) : Bool := 0xDC00 ≤ point.val && point.val < 0xE000

def char? (point : CodePoint) : Option Char :=
  if point.isHigh || point.isLow then none else some (Char.ofNat point.val)

/-- The code point that a high surrogate and a low one stand for. -/
def paired (high low : CodePoint) : CodePoint :=
  ofNat (0x10000 + (high.val - 0xD800) * 0x400 + (low.val - 0xDC00))

end CodePoint

/-- Every high surrogate joined with the low one directly behind it. -/
def RawText.joined : RawText → RawText
  | [] => []
  | [point] => [point]
  | high :: low :: rest =>
    if high.isHigh && low.isLow then high.paired low :: joined rest
    else high :: joined (low :: rest)

/-- A kind of text: the code points of each, and the text of code points, if they make one. -/
class Wording (τ : Type) where
  ofString : String → τ
  points : τ → RawText
  ofPoints? : RawText → Option τ

instance : Wording String where
  ofString text := text
  points text := text.toList.map .ofChar
  ofPoints? points := (points.mapM CodePoint.char?).map String.ofList

instance : Wording RawText where
  ofString text := text.toList.map .ofChar
  points text := text
  ofPoints? text := some text

end Flowtrace

import Flowtrace.Decimal.Text
import Flowtrace.Json
import Flowtrace.Text.CodePoints
import Flowtrace.Text.Quoted

/-! The text of a JSON document, in ASCII. A character outside ASCII is written by its UTF-16
code units, so the one text serves a terminal, a log and a URL alike. -/

namespace Flowtrace.Json

/-- What stands between items and what stands between a key and its value. -/
structure Spacing where
  afterItem : List Char
  afterKey : List Char

def Spacing.wide : Spacing := ⟨[',', ' '], [':', ' ']⟩

def Spacing.compact : Spacing := ⟨[','], [':']⟩

def codeUnit (n : Nat) : List Char := '\\' :: 'u' :: Text.hexPadded 4 n

/-- The escape of a character by its code units: a pair of surrogates beyond the first plane. -/
def unicodeEscape (n : Nat) : List Char :=
  if n < 0x10000 then codeUnit n
  else codeUnit (0xD800 + (n - 0x10000) / 0x400) ++ codeUnit (0xDC00 + (n - 0x10000) % 0x400)

def escapedChar (c : Char) : List Char :=
  if c = '"' then ['\\', '"']
  else if c = '\\' then ['\\', '\\']
  else if c = '\n' then ['\\', 'n']
  else if c = '\r' then ['\\', 'r']
  else if c = '\t' then ['\\', 't']
  else if c = '\x08' then ['\\', 'b']
  else if c = '\x0c' then ['\\', 'f']
  else if 0x20 ≤ c.toNat ∧ c.toNat ≤ 0x7E then [c]
  else unicodeEscape c.toNat

/-- A surrogate is its own code unit. -/
def escapedPoint (point : CodePoint) : List Char :=
  match point.char? with
  | some c => escapedChar c
  | none => codeUnit point.val

variable {τ : Type} [Wording τ]

def stringChars (text : τ) : List Char := '"' :: (Wording.points text).flatMap escapedPoint ++ ['"']

/-- What has no JSON spelling keeps the customary words. -/
def floatChars (value : Binary64) : List Char :=
  if value.isNaN then "NaN".toList
  else if value.isInfinite then
    if value.isNegative then "-Infinity".toList else "Infinity".toList
  else value.text.toList

mutual

def chars (spacing : Spacing) : Json τ → List Char
  | .null => "null".toList
  | .bool true => "true".toList
  | .bool false => "false".toList
  | .int value => (toString value).toList
  | .float value => floatChars value
  | .str value => stringChars value
  | .arr [] => ['[', ']']
  | .arr (item :: items) => '[' :: chars spacing item ++ itemChars spacing items ++ [']']
  | .obj [] => ['\x7b', '\x7d']
  | .obj ((key, item) :: fields) =>
    '\x7b' :: stringChars key ++ spacing.afterKey ++ chars spacing item ++
      fieldChars spacing fields ++ ['\x7d']

/-- The items after the first, each behind a comma. -/
def itemChars (spacing : Spacing) : List (Json τ) → List Char
  | [] => []
  | item :: items => spacing.afterItem ++ chars spacing item ++ itemChars spacing items

def fieldChars (spacing : Spacing) : List (τ × Json τ) → List Char
  | [] => []
  | (key, item) :: fields =>
    spacing.afterItem ++ stringChars key ++ spacing.afterKey ++ chars spacing item ++
      fieldChars spacing fields

end

def print (spacing : Spacing) (document : Json τ) : String := String.ofList (document.chars spacing)

example : print .wide (.obj [("a", .arr [.int 1, .str "\u00e9\n\u2028"]), ("b", .null)]) =
    "\x7b\"a\": [1, \"\\u00e9\\n\\u2028\"], \"b\": null\x7d" := by
  decide +kernel

end Flowtrace.Json

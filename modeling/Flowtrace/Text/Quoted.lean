import Flowtrace.Text.Printable

/-! Quoted text. Single quotes surround it, unless it holds a single quote and no double quote.
The quote in use and the backslash are escaped, the three common control characters have names,
and every other character that cannot be printed is written as its code point. -/

namespace Flowtrace.Text

/-- The hexadecimal digits of a number in lower case, padded with zeros to a width. -/
def hexPadded (width n : Nat) : List Char :=
  let digits := Nat.toDigits 16 n
  List.replicate (width - digits.length) '0' ++ digits

/-- A code point in the shortest of the three widths that holds it. -/
def escapedCodePoint (n : Nat) : List Char :=
  if n < 0x100 then '\\' :: 'x' :: hexPadded 2 n
  else if n < 0x10000 then '\\' :: 'u' :: hexPadded 4 n
  else '\\' :: 'U' :: hexPadded 8 n

def quotedChar (quote c : Char) : List Char :=
  if c = quote || c = '\\' then ['\\', c]
  else if c = '\n' then ['\\', 'n']
  else if c = '\r' then ['\\', 'r']
  else if c = '\t' then ['\\', 't']
  else if isPrintable c then [c]
  else escapedCodePoint c.toNat

def quoteFor (characters : List Char) : Char :=
  if characters.contains '\'' && !characters.contains '"' then '"' else '\''

def quotedChars (characters : List Char) : List Char :=
  let quote := quoteFor characters
  quote :: characters.flatMap (quotedChar quote) ++ [quote]

def quoted (text : String) : String := String.ofList (quotedChars text.toList)

/-- Bytes are quoted like ASCII text, and every other byte is written in hexadecimal. -/
def quotedByte (quote : Char) (byte : UInt8) : List Char :=
  let c := Char.ofNat byte.toNat
  if byte.toNat < 0x80 then quotedChar quote c else escapedCodePoint byte.toNat

def quotedBytes (bytes : List UInt8) : String :=
  let quote := quoteFor (bytes.map fun byte => Char.ofNat byte.toNat)
  String.ofList ('b' :: quote :: bytes.flatMap (quotedByte quote) ++ [quote])

example : ["it's", "say \"it's\"", "tab\tend", "\u00ad", "\u00e9"].map quoted =
    ["\"it's\"", "'say \"it\\'s\"'", "'tab\\tend'", "'\\xad'", "'\u00e9'"] := by
  decide +kernel

end Flowtrace.Text

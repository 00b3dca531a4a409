/-! Catch patterns. A star at the start of a pattern stands for any text before, a star at its
end for any text after; every other star is literal. A lone star matches everything. -/

namespace Flowtrace

structure Pattern where
  core : List Char
  openStart : Bool
  openEnd : Bool
deriving DecidableEq

namespace Pattern

/-- One star counts once: in a pattern that is a single star it opens both ends. -/
def ofChars (spelled : List Char) : Pattern :=
  let openStart := spelled.head? == some '*'
  let openEnd := spelled.getLast? == some '*'
  let trimmed := if openStart then spelled.tail else spelled
  let core := if openEnd && trimmed.getLast? == some '*' then trimmed.dropLast else trimmed
  ⟨core, openStart, openEnd⟩

def ofText (spelled : String) : Pattern := ofChars spelled.toList

def occursIn (core : List Char) : List Char → Bool
  | [] => core.isEmpty
  | c :: rest => core.isPrefixOf (c :: rest) || occursIn core rest

def accepts (pattern : Pattern) (text : List Char) : Bool :=
  match pattern.openStart, pattern.openEnd with
  | true, true => occursIn pattern.core text
  | true, false => pattern.core.isSuffixOf text
  | false, true => pattern.core.isPrefixOf text
  | false, false => pattern.core == text

end Pattern

def matchesText (pattern text : String) : Bool := (Pattern.ofText pattern).accepts text.toList

example : ["*Timeout*", "Timeout*", "*Timeout", "Timeout", "*", "**", "***"].map
    (matchesText · "a Timeout") = [true, false, true, false, true, true, false] := by
  decide

end Flowtrace

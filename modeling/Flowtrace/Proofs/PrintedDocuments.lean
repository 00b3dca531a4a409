import Mathlib.Data.List.Forall2
import Flowtrace.Json.Printer
import Flowtrace.Json.Reader
import Flowtrace.Proofs.CodePoints
import Flowtrace.Proofs.Collected

/-! Documents printed and read back. A printed document is visible ASCII, whatever it says. The
reader takes exactly the characters that were printed, whatever comes behind them, so what a
document reads back as is settled by its texts and its other leaves. -/

namespace Flowtrace

namespace Json

/-- A character of ASCII that shows, or a blank. -/
def Visible (c : Char) : Prop := 0x20 ≤ c.toNat ∧ c.toNat ≤ 0x7E

instance (c : Char) : Decidable (Visible c) :=
  inferInstanceAs (Decidable (0x20 ≤ c.toNat ∧ c.toNat ≤ 0x7E))

theorem visible_of_all {characters : List Char}
    (all : (characters.all fun c => decide (Visible c)) = true) : ∀ c ∈ characters, Visible c := by
  simpa using all

section Hexadecimal

theorem visible_digitChar : ∀ digit < 16, Visible digit.digitChar := by
  decide

theorem hexValue?_digitChar : ∀ digit < 16, hexValue? digit.digitChar = some digit := by
  decide

theorem hexPadded_one {n : Nat} (small : n < 16) : Text.hexPadded 1 n = [n.digitChar] := by
  simp [Text.hexPadded, Nat.toDigits_of_lt_base small]

theorem hexPadded_succ {width : Nat} (positive : 0 < width) (n : Nat) :
    Text.hexPadded (width + 1) n = Text.hexPadded width (n / 16) ++ [(n % 16).digitChar] := by
  by_cases small : n < 16
  · -- One digit behind nothing but zeros.
    obtain ⟨less, rfl⟩ := Nat.exists_eq_succ_of_ne_zero (Nat.ne_of_gt positive)
    simp [Text.hexPadded, Nat.toDigits_of_lt_base small, Nat.div_eq_of_lt small,
      Nat.mod_eq_of_lt small, Nat.toDigits_zero, List.replicate_succ']
  · have digits := Nat.toDigits_of_base_le (b := 16) (by omega) (Nat.le_of_not_lt small)
    simp [Text.hexPadded, digits]

theorem hexPadded_four {n : Nat} (small : n < 0x10000) :
    Text.hexPadded 4 n = [(n / 16 / 16 / 16).digitChar, (n / 16 / 16 % 16).digitChar,
      (n / 16 % 16).digitChar, (n % 16).digitChar] := by
  rw [hexPadded_succ (by omega), hexPadded_succ (by omega), hexPadded_succ (by omega),
    hexPadded_one (by omega)]
  rfl

theorem visible_hexPadded {n : Nat} (small : n < 0x10000) :
    ∀ c ∈ Text.hexPadded 4 n, Visible c := by
  rw [hexPadded_four small]
  intro c member
  simp only [List.mem_cons, List.not_mem_nil, or_false] at member
  rcases member with rfl | rfl | rfl | rfl
  all_goals exact visible_digitChar _ (by omega)

theorem readUnit_hexPadded {n : Nat} (small : n < 0x10000) (rest : List Char) :
    readUnit (Text.hexPadded 4 n ++ rest) = some (.ofNat n, rest) := by
  have high : n / 16 / 16 / 16 < 16 := by omega
  rw [hexPadded_four small]
  have whole : n / 16 / 16 / 16 * 0x1000 + n / 16 / 16 % 16 * 0x100 + n / 16 % 16 * 0x10 + n % 16 =
      n := by
    omega
  simp [readUnit, hexValue?_digitChar, Nat.mod_lt, high, whole]

end Hexadecimal

section Escapes

/-- The ways to write a code point: a letter behind a backslash, itself, its own code unit, or the
units of two surrogates. -/
inductive Escaped : CodePoint → List Char → Prop where
  | named {c letter : Char} (notUnit : letter ≠ 'u') (visible : Visible letter)
      (stands : namedEscape? letter = some c) : Escaped (.ofChar c) ['\\', letter]
  | itself {c : Char} (visible : Visible c) (notQuote : c ≠ '"') (notBackslash : c ≠ '\\') :
      Escaped (.ofChar c) [c]
  | unit {point : CodePoint} (first : point.val < 0x10000) : Escaped point (codeUnit point.val)
  | units {point : CodePoint} (upper lower : Nat) (high : upper < 0x400) (low : lower < 0x400)
      (whole : 0x10000 + upper * 0x400 + lower = point.val) :
      Escaped point (codeUnit (0xD800 + upper) ++ codeUnit (0xDC00 + lower))

theorem escaped_unicodeEscape (point : CodePoint) : Escaped point (unicodeEscape point.val) := by
  unfold unicodeEscape
  split
  · exact .unit (by assumption)
  · exact .units _ _ (by omega) (by omega) (by omega)

theorem escaped_escapedChar (c : Char) : Escaped (.ofChar c) (escapedChar c) := by
  have visible : ∀ letter ∈ ['"', '\\', 'n', 'r', 't', 'b', 'f'], Visible letter :=
    visible_of_all (by decide)
  unfold escapedChar
  split_ifs with quote backslash newline back tab backspace feed shown
  · subst quote; exact .named (by decide) (visible _ (by simp)) rfl
  · subst backslash; exact .named (by decide) (visible _ (by simp)) rfl
  · subst newline; exact .named (by decide) (visible _ (by simp)) rfl
  · subst back; exact .named (by decide) (visible _ (by simp)) rfl
  · subst tab; exact .named (by decide) (visible _ (by simp)) rfl
  · subst backspace; exact .named (by decide) (visible _ (by simp)) rfl
  · subst feed; exact .named (by decide) (visible _ (by simp)) rfl
  · exact .itself shown quote backslash
  · exact escaped_unicodeEscape (.ofChar c)

theorem escapedPoint_surrogate {point : CodePoint} (surrogate : point.isHigh ∨ point.isLow) :
    escapedPoint point = codeUnit point.val := by
  simp [escapedPoint, CodePoint.char?, surrogate]

theorem escaped_escapedPoint (point : CodePoint) : Escaped point (escapedPoint point) := by
  unfold escapedPoint
  split
  · rename_i c character
    rw [CodePoint.eq_ofChar_of_char? character]
    exact escaped_escapedChar c
  · rename_i none
    have surrogate : point.isHigh = false → point.isLow = true := by
      simpa [CodePoint.char?] using none
    rw [Bool.eq_false_iff, Ne, CodePoint.isHigh_iff, CodePoint.isLow_iff] at surrogate
    exact .unit (by omega)

theorem visible_codeUnit {n : Nat} (small : n < 0x10000) : ∀ shown ∈ codeUnit n, Visible shown := by
  intro shown member
  simp only [codeUnit, List.mem_cons] at member
  rcases member with rfl | rfl | digit
  · decide
  · decide
  · exact visible_hexPadded small shown digit

section Reading

variable {point : CodePoint} {spelled : List Char}

theorem Escaped.visible (escaped : Escaped point spelled) : ∀ shown ∈ spelled, Visible shown := by
  cases escaped with
  | named notUnit visible stands =>
    intro shown member
    simp only [List.mem_cons, List.not_mem_nil, or_false] at member
    rcases member with rfl | rfl
    · decide
    · exact visible
  | itself visible => simpa using visible
  | unit first => exact visible_codeUnit first
  | units upper lower high low =>
    intro shown member
    rcases List.mem_append.mp member with front | back
    · exact visible_codeUnit (by omega) shown front
    · exact visible_codeUnit (by omega) shown back

theorem Escaped.nonempty (escaped : Escaped point spelled) : spelled ≠ [] := by
  cases escaped with
  | named => simp
  | itself => simp
  | unit => exact List.cons_ne_nil _ _
  | units => exact List.append_ne_nil_of_left_ne_nil (List.cons_ne_nil _ _) _

theorem readLow_codeUnit {n : Nat} (small : n < 0x10000) (input : List Char) :
    readLow (codeUnit n ++ input) =
      if (CodePoint.ofNat n).isLow then some (.ofNat n, input) else none := by
  rw [codeUnit, List.cons_append, List.cons_append, readLow, readUnit_hexPadded small]
  rfl

/-- What spells another code point is not taken for a low surrogate. -/
theorem Escaped.readLow (escaped : Escaped point spelled) (notLow : point.isLow = false)
    (input : List Char) : readLow (spelled ++ input) = none := by
  cases escaped with
  | named notUnit =>
    rw [List.cons_append, List.cons_append, Json.readLow]
    exact fun _ same => notUnit (List.cons.inj (List.cons.inj same).2).1
  | itself visible notQuote notBackslash =>
    rw [List.cons_append, Json.readLow]
    exact fun _ same => notBackslash (List.cons.inj same).1
  | unit first => simp [readLow_codeUnit first, notLow]
  | units upper lower high low =>
    have apart : (CodePoint.ofNat (0xD800 + upper)).isLow = false := by
      rw [Bool.eq_false_iff, Ne, CodePoint.isLow_iff, CodePoint.val_ofNat (by omega)]
      omega
    rw [List.append_assoc, readLow_codeUnit (by omega), apart]
    rfl

theorem readUnicodeEscape_hexPadded {n : Nat} (small : n < 0x10000) (input : List Char) :
    readUnicodeEscape (Text.hexPadded 4 n ++ input) =
      if (CodePoint.ofNat n).isHigh then
        match readLow input with
        | some (low, rest) => some ((CodePoint.ofNat n).paired low, rest)
        | none => some (.ofNat n, input)
      else some (.ofNat n, input) := by
  rw [readUnicodeEscape, readUnit_hexPadded small]
  rfl

theorem readStringBody_pair (upper lower : Nat) {input rest : List Char} {text : RawText}
    {fuel : Nat} (high : 0xD800 ≤ upper ∧ upper < 0xDC00) (low : 0xDC00 ≤ lower ∧ lower < 0xE000)
    (tail : readStringBody fuel input = some (text, rest)) :
    readStringBody (fuel + 1) (codeUnit upper ++ (codeUnit lower ++ input)) =
      some (.ofNat (0x10000 + (upper - 0xD800) * 0x400 + (lower - 0xDC00)) :: text, rest) := by
  have upperHigh : (CodePoint.ofNat upper).isHigh = true := by
    rwa [CodePoint.isHigh_iff, CodePoint.val_ofNat (by omega)]
  have lowerLow : (CodePoint.ofNat lower).isLow = true := by
    rwa [CodePoint.isLow_iff, CodePoint.val_ofNat (by omega)]
  have upperVal := CodePoint.val_ofNat (n := upper) (by omega)
  have lowerVal := CodePoint.val_ofNat (n := lower) (by omega)
  rw [codeUnit, List.cons_append, List.cons_append, readStringBody,
    readUnicodeEscape_hexPadded (by omega), upperHigh, readLow_codeUnit (by omega), lowerLow]
  simp [CodePoint.paired, upperVal, lowerVal, tail]

/-- One unit of fuel reads one code point, however it is written, unless it is joined with the next
one. -/
theorem Escaped.read {input rest : List Char} {text : RawText} {fuel : Nat}
    (escaped : Escaped point spelled) (alone : point.isHigh → Json.readLow input = none)
    (tail : readStringBody fuel input = some (text, rest)) :
    readStringBody (fuel + 1) (spelled ++ input) = some (point :: text, rest) := by
  cases escaped with
  | @named c letter notUnit visible stands =>
    rw [List.cons_append, List.cons_append, List.nil_append, readStringBody]
    · simp [stands, tail]
    · exact notUnit
  | @itself c visible notQuote notBackslash =>
    have raw : ¬ (c = '\\' ∨ c.toNat < 0x20) := by
      rintro (backslash | control)
      · exact notBackslash backslash
      · exact absurd visible.1 (Nat.not_le_of_lt control)
    rw [List.cons_append, List.nil_append, readStringBody]
    · simp [raw, tail]
    · exact notQuote
    all_goals simp [notBackslash]
  | unit first =>
    rw [codeUnit, List.cons_append, List.cons_append, readStringBody,
      readUnicodeEscape_hexPadded first]
    cases high : point.isHigh
    · simp [high, tail]
    · simp [high, alone high, tail]
  | units upper lower high low whole =>
    have joined : 0x10000 + (0xD800 + upper - 0xD800) * 0x400 + (0xDC00 + lower - 0xDC00) =
        point.val := by
      rw [Nat.add_sub_cancel_left, Nat.add_sub_cancel_left, whole]
    have read := readStringBody_pair (0xD800 + upper) (0xDC00 + lower) (by omega) (by omega) tail
    rwa [joined, CodePoint.ofNat_val, ← List.append_assoc] at read

end Reading

end Escapes

section Texts

variable {τ : Type} [Wording τ]

theorem visible_stringChars (text : τ) : ∀ c ∈ stringChars text, Visible c := by
  have quote : Visible '"' := by decide
  intro c member
  simp only [stringChars, List.mem_append, List.mem_cons, List.not_mem_nil, or_false,
    List.mem_flatMap] at member
  rcases member with (rfl | ⟨written, _, shown⟩) | rfl
  · exact quote
  · exact (escaped_escapedPoint written).visible c shown
  · exact quote

theorem readStringBody_escaped (text : RawText) (rest : List Char) :
    ∀ fuel, (text.flatMap escapedPoint).length < fuel →
      readStringBody fuel (text.flatMap escapedPoint ++ '"' :: rest) =
        some (text.joined, rest) := by
  induction text using RawText.joined.induct with
  | case1 =>
    intro fuel enough
    obtain ⟨less, rfl⟩ := Nat.exists_eq_succ_of_ne_zero (Nat.ne_of_gt enough)
    rfl
  | case2 point =>
    intro fuel enough
    have escaped := escaped_escapedPoint point
    have spent := List.length_pos_iff.mpr escaped.nonempty
    rw [List.flatMap_singleton] at enough ⊢
    obtain ⟨less, rfl⟩ := Nat.exists_eq_add_of_le' (by omega : 2 ≤ fuel)
    exact escaped.read (fun _ => rfl) rfl
  | case3 high low others pair ih =>
    intro fuel enough
    have surrogates : high.isHigh = true ∧ low.isLow = true := by simpa using pair
    have first := escapedPoint_surrogate (.inl surrogates.1)
    have second := escapedPoint_surrogate (.inr surrogates.2)
    simp only [List.flatMap_cons, first, second, List.length_append, codeUnit,
      List.length_cons] at enough
    obtain ⟨less, rfl⟩ := Nat.exists_eq_succ_of_ne_zero (Nat.ne_zero_of_lt enough)
    rw [RawText.joined, if_pos pair, CodePoint.paired, List.flatMap_cons, List.flatMap_cons, first,
      second, List.append_assoc, List.append_assoc]
    exact readStringBody_pair high.val low.val (CodePoint.isHigh_iff.mp surrogates.1)
      (CodePoint.isLow_iff.mp surrogates.2) (ih less (by omega))
  | case4 point next others apart ih =>
    intro fuel enough
    have escaped := escaped_escapedPoint point
    have spent := List.length_pos_iff.mpr escaped.nonempty
    rw [List.flatMap_cons, List.length_append] at enough
    obtain ⟨less, rfl⟩ := Nat.exists_eq_succ_of_ne_zero (Nat.ne_zero_of_lt enough)
    rw [RawText.joined, if_neg apart, List.flatMap_cons, List.append_assoc]
    refine escaped.read (fun high => ?_) (ih less (by omega))
    rw [List.flatMap_cons, List.append_assoc]
    exact (escaped_escapedPoint next).readLow (by simpa [high] using apart) _

theorem flatMap_points (text : String) :
    (Wording.points text).flatMap escapedPoint = text.toList.flatMap escapedChar := by
  have each : ∀ c, escapedPoint (.ofChar c) = escapedChar c := by simp [escapedPoint]
  simp [Wording.points, List.flatMap_map, each]

theorem stringChars_append (text : τ) (rest : List Char) :
    stringChars text ++ rest =
      '"' :: ((Wording.points text).flatMap escapedPoint ++ '"' :: rest) := by
  simp [stringChars]

def TextReadsAs (text found : τ) : Prop :=
  Wording.ofPoints? (Wording.points text).joined = some found

theorem textReadsAs_self (text : String) : TextReadsAs text text :=
  Wording.ofPoints?_joined_points text

theorem textReadsAs_joined (text : RawText) : TextReadsAs text text.joined := rfl

theorem TextReadsAs.readString {text found : τ} (reads : TextReadsAs text found)
    (rest : List Char) :
    readString ((Wording.points text).flatMap escapedPoint ++ '"' :: rest) =
      some (found, rest) := by
  rw [Json.readString, readStringBody_escaped _ _ _ ?_]
  · simp [show Wording.ofPoints? _ = some found from reads]
  · rw [List.length_append]
    omega

end Texts

section Blanks

theorem skipBlanks_append {blanks : List Char} (blank : ∀ c ∈ blanks, isBlank c = true)
    (input : List Char) : skipBlanks (blanks ++ input) = skipBlanks input := by
  induction blanks with
  | nil => rfl
  | cons c blanks ih =>
    obtain ⟨first, others⟩ := List.forall_mem_cons.mp blank
    simpa [skipBlanks, first] using ih others

theorem skipBlanks_cons {c : Char} (dark : isBlank c = false) (rest : List Char) :
    skipBlanks (c :: rest) = c :: rest := by
  simp [skipBlanks, dark]

structure Spacing.Separates (spacing : Spacing) : Prop where
  item : ∃ blanks, spacing.afterItem = ',' :: blanks ∧ ∀ c ∈ blanks, isBlank c = true ∧ Visible c
  key : ∃ blanks, spacing.afterKey = ':' :: blanks ∧ ∀ c ∈ blanks, isBlank c = true ∧ Visible c

theorem Spacing.separates_wide : Spacing.wide.Separates where
  item := ⟨[' '], rfl, by simpa using (by decide : isBlank ' ' = true ∧ Visible ' ')⟩
  key := ⟨[' '], rfl, by simpa using (by decide : isBlank ' ' = true ∧ Visible ' ')⟩

theorem Spacing.separates_compact : Spacing.compact.Separates where
  item := ⟨[], rfl, by simp⟩
  key := ⟨[], rfl, by simp⟩

end Blanks

section Documents

variable {τ : Type} [Wording τ] [BEq τ]

/-- With a certain spacing a document is printed in visible characters, and the reader makes the
document found of exactly these, whatever comes behind them. -/
structure ReadsAs (spacing : Spacing) (document found : Json τ) : Prop where
  visible : ∀ c ∈ document.chars spacing, Visible c
  opens : ∃ c rest, document.chars spacing = c :: rest ∧ isBlank c = false ∧ c ≠ ']' ∧ c ≠ '\x7d'
  read : ∀ fuel rest, (document.chars spacing).length ≤ fuel →
    readValue fuel (document.chars spacing ++ rest) = some (found, rest)

structure FieldReadsAs (spacing : Spacing) (field found : τ × Json τ) : Prop where
  key : TextReadsAs field.1 found.1
  item : ReadsAs spacing field.2 found.2

variable {spacing : Spacing}

namespace ReadsAs

theorem null : ReadsAs spacing (.null : Json τ) .null where
  visible := by
    rw [chars]
    exact visible_of_all (by decide)
  opens := ⟨'n', "ull".toList, rfl, by decide⟩
  read := by
    intro fuel rest enough
    obtain ⟨less, rfl⟩ := Nat.exists_eq_succ_of_ne_zero (Nat.ne_zero_of_lt enough)
    rw [chars, readValue]
    simp [skipBlanks, isBlank]

theorem bool (value : Bool) : ReadsAs spacing (.bool value : Json τ) (.bool value) where
  visible := by
    cases value
    all_goals
      rw [chars]
      exact visible_of_all (by decide)
  opens := by
    cases value
    · exact ⟨'f', "alse".toList, rfl, by decide⟩
    · exact ⟨'t', "rue".toList, rfl, by decide⟩
  read := by
    intro fuel rest enough
    cases value
    all_goals
      obtain ⟨less, rfl⟩ := Nat.exists_eq_succ_of_ne_zero (Nat.ne_zero_of_lt enough)
      rw [chars, readValue]
      simp [skipBlanks, isBlank]

theorem str {text found : τ} (reads : TextReadsAs text found) :
    ReadsAs spacing (.str text) (.str found) where
  visible := by
    rw [chars]
    exact visible_stringChars text
  opens := ⟨'"', (Wording.points text).flatMap escapedPoint ++ ['"'], rfl, by decide⟩
  read := by
    intro fuel rest enough
    rw [chars] at enough ⊢
    have some : (stringChars text).length ≠ 0 := by simp [stringChars]
    obtain ⟨less, rfl⟩ := Nat.exists_eq_succ_of_ne_zero (by omega : fuel ≠ 0)
    rw [stringChars_append, readValue, skipBlanks_cons (by decide)]
    simp [reads.readString]

end ReadsAs

section Containers

theorem readValue_blanks {blanks : List Char} (blank : ∀ c ∈ blanks, isBlank c = true)
    (fuel : Nat) (input : List Char) :
    (readValue fuel (blanks ++ input) : Option (Json τ × List Char)) = readValue fuel input := by
  cases fuel with
  | zero => rw [readValue, readValue]
  | succ fuel => rw [readValue, readValue, skipBlanks_append blank]

theorem readField_blanks {blanks : List Char} (blank : ∀ c ∈ blanks, isBlank c = true)
    (fuel : Nat) (input : List Char) :
    (readField fuel (blanks ++ input) : Option ((τ × Json τ) × List Char)) =
      readField fuel input := by
  cases fuel with
  | zero => rw [readField, readField]
  | succ fuel => rw [readField, readField, skipBlanks_append blank]

variable (separates : spacing.Separates)
include separates

theorem readItems_itemChars {items found : List (Json τ)}
    (each : List.Forall₂ (ReadsAs spacing) items found) (rest : List Char) :
    ∀ fuel, (itemChars spacing items).length < fuel →
      readItems fuel (itemChars spacing items ++ ']' :: rest) = some (found, rest) := by
  obtain ⟨blanks, comma, blank⟩ := separates.item
  induction each with
  | nil =>
    intro fuel enough
    obtain ⟨less, rfl⟩ := Nat.exists_eq_succ_of_ne_zero (Nat.ne_zero_of_lt enough)
    rw [itemChars, List.nil_append, readItems, skipBlanks_cons (by decide)]
    rfl
  | @cons item _ items _ here _ ih =>
    intro fuel enough
    obtain ⟨less, rfl⟩ := Nat.exists_eq_succ_of_ne_zero (Nat.ne_zero_of_lt enough)
    simp only [itemChars, comma, List.length_append, List.length_cons] at enough
    have first := here.read less (itemChars spacing items ++ ']' :: rest) (by omega)
    have others := ih less (by omega)
    simp only [itemChars, comma, List.cons_append, List.append_assoc]
    rw [readItems, skipBlanks_cons (by decide)]
    simp [readValue_blanks fun c among => (blank c among).1, first, others]

theorem readField_chars {field found : τ × Json τ} (reads : FieldReadsAs spacing field found)
    (rest : List Char) {fuel : Nat} (enough : (field.2.chars spacing).length ≤ fuel) :
    readField (fuel + 1)
        (stringChars field.1 ++ (spacing.afterKey ++ (field.2.chars spacing ++ rest))) =
      some (found, rest) := by
  obtain ⟨blanks, colon, blank⟩ := separates.key
  have value := reads.item.read fuel rest enough
  rw [stringChars_append, readField, skipBlanks_cons (by decide)]
  simp only [reads.key.readString, colon, List.cons_append,
    skipBlanks_cons (c := ':') (by decide), Option.bind_eq_bind, Option.bind_some,
    readValue_blanks fun c among => (blank c among).1, value]
  rfl

theorem readFields_fieldChars {fields found : List (τ × Json τ)}
    (each : List.Forall₂ (FieldReadsAs spacing) fields found) (rest : List Char) :
    ∀ fuel, (fieldChars spacing fields).length < fuel →
      readFields fuel (fieldChars spacing fields ++ '\x7d' :: rest) = some (found, rest) := by
  obtain ⟨blanks, comma, blank⟩ := separates.item
  obtain ⟨_, colon, _⟩ := separates.key
  induction each with
  | nil =>
    intro fuel enough
    obtain ⟨less, rfl⟩ := Nat.exists_eq_succ_of_ne_zero (Nat.ne_zero_of_lt enough)
    rw [fieldChars, List.nil_append, readFields, skipBlanks_cons (by decide)]
    rfl
  | @cons field _ fields _ here _ ih =>
    intro fuel enough
    simp only [fieldChars, comma, colon, List.length_append, List.length_cons] at enough
    obtain ⟨less, rfl⟩ := Nat.exists_eq_add_of_le' (by omega : 2 ≤ fuel)
    have spent : (field.2.chars spacing).length ≤ less := by omega
    have first := readField_chars separates here
      (fieldChars spacing fields ++ '\x7d' :: rest) spent
    have others := ih (less + 1) (by omega)
    simp only [fieldChars, comma, List.cons_append, List.append_assoc]
    rw [readFields, skipBlanks_cons (by decide)]
    simp [readField_blanks fun c among => (blank c among).1, first, others]

theorem visible_itemChars {items found : List (Json τ)}
    (each : List.Forall₂ (ReadsAs spacing) items found) :
    ∀ c ∈ itemChars spacing items, Visible c := by
  obtain ⟨blanks, comma, blank⟩ := separates.item
  induction each with
  | nil => simp [itemChars]
  | cons first _ ih =>
    intro c member
    simp only [itemChars, comma, List.mem_append, List.mem_cons] at member
    rcases member with ((rfl | among) | here) | later
    · decide
    · exact (blank c among).2
    · exact first.visible c here
    · exact ih c later

theorem visible_fieldChars {fields found : List (τ × Json τ)}
    (each : List.Forall₂ (FieldReadsAs spacing) fields found) :
    ∀ c ∈ fieldChars spacing fields, Visible c := by
  obtain ⟨blanks, comma, blank⟩ := separates.item
  obtain ⟨gap, colon, clear⟩ := separates.key
  induction each with
  | nil => simp [fieldChars]
  | @cons field _ _ _ first _ ih =>
    intro c member
    simp only [fieldChars, comma, colon, List.mem_append, List.mem_cons] at member
    rcases member with (((((rfl | among) | name) | rfl | between) | here) | later)
    · decide
    · exact (blank c among).2
    · exact visible_stringChars field.1 c name
    · decide
    · exact (clear c between).2
    · exact first.item.visible c here
    · exact ih c later

theorem ReadsAs.arr {items found : List (Json τ)}
    (each : List.Forall₂ (ReadsAs spacing) items found) :
    ReadsAs spacing (.arr items) (.arr found) := by
  have brackets : Visible '[' ∧ Visible ']' := by decide
  cases each with
  | nil =>
    refine ⟨?_, ⟨'[', [']'], by rw [chars], by decide⟩, ?_⟩
    · simpa [chars] using brackets
    · intro fuel rest enough
      obtain ⟨less, rfl⟩ := Nat.exists_eq_succ_of_ne_zero (Nat.ne_zero_of_lt enough)
      rw [chars, readValue]
      simp [skipBlanks, isBlank]
  | @cons item _ items _ first later =>
    refine ⟨?_, ⟨'[', _, by rw [chars]; rfl, by decide⟩, ?_⟩
    · intro c member
      simp only [chars, List.mem_append, List.mem_cons, List.not_mem_nil, or_false] at member
      rcases member with ((rfl | here) | others) | rfl
      · exact brackets.1
      · exact first.visible c here
      · exact visible_itemChars separates later c others
      · exact brackets.2
    · intro fuel rest enough
      simp only [chars, List.length_append, List.length_cons, List.length_nil] at enough
      obtain ⟨less, rfl⟩ := Nat.exists_eq_succ_of_ne_zero (by omega : fuel ≠ 0)
      have value := first.read less (itemChars spacing items ++ ']' :: rest) (by omega)
      have others := readItems_itemChars separates later rest less (by omega)
      obtain ⟨c, tail, opens, dark, notClosing, _⟩ := first.opens
      simp only [chars, List.cons_append, List.append_assoc, List.nil_append, opens] at value ⊢
      rw [readValue, skipBlanks_cons (by decide)]
      simp [skipBlanks_cons dark, notClosing, value, others]

theorem ReadsAs.obj [LawfulBEq τ] {fields found : List (τ × Json τ)}
    (each : List.Forall₂ (FieldReadsAs spacing) fields found)
    (distinct : (found.map Prod.fst).Nodup) : ReadsAs spacing (.obj fields) (.obj found) := by
  have braces : Visible '\x7b' ∧ Visible '\x7d' := by decide
  cases each with
  | nil =>
    refine ⟨?_, ⟨'\x7b', ['\x7d'], by rw [chars], by decide⟩, ?_⟩
    · simpa [chars] using braces
    · intro fuel rest enough
      obtain ⟨less, rfl⟩ := Nat.exists_eq_succ_of_ne_zero (Nat.ne_zero_of_lt enough)
      rw [chars, readValue]
      simp [skipBlanks, isBlank]
  | @cons field _ fields _ first later =>
    obtain ⟨gap, colon, clear⟩ := separates.key
    refine ⟨?_, ⟨'\x7b', _, by rw [chars]; rfl, by decide⟩, ?_⟩
    · intro c member
      simp only [chars, colon, List.mem_append, List.mem_cons, List.not_mem_nil, or_false] at member
      rcases member with ((((rfl | name) | rfl | between) | here) | others) | rfl
      · exact braces.1
      · exact visible_stringChars field.1 c name
      · decide
      · exact (clear c between).2
      · exact first.item.visible c here
      · exact visible_fieldChars separates later c others
      · exact braces.2
    · intro fuel rest enough
      simp only [chars, colon, List.length_append, List.length_cons, List.length_nil] at enough
      obtain ⟨less, rfl⟩ := Nat.exists_eq_add_of_le' (by omega : 2 ≤ fuel)
      have spent : (field.2.chars spacing).length ≤ less := by omega
      have value := readField_chars separates first
        (fieldChars spacing fields ++ '\x7d' :: rest) spent
      have others := readFields_fieldChars separates later rest (less + 1) (by omega)
      have kept := Entries.collect_of_nodup distinct
      rw [stringChars_append] at value
      simp only [chars, List.cons_append, List.append_assoc, List.nil_append, stringChars_append]
      rw [readValue, skipBlanks_cons (by decide)]
      simp [skipBlanks_cons (c := '"') (by decide), value, others, kept]

end Containers

namespace ReadsAs

variable {document found : Json τ}

theorem visible_print (reads : ReadsAs spacing document found) :
    ∀ c ∈ (document.print spacing).toList, Visible c := by
  simpa [print] using reads.visible

theorem parse?_print (reads : ReadsAs spacing document found) :
    parse? (document.print spacing) = some found := by
  have spelled : (document.print spacing).toList = document.chars spacing := String.toList_ofList
  have length : (document.print spacing).length = (document.chars spacing).length :=
    String.length_ofList
  have whole := reads.read (3 * (document.print spacing).length + 3) [] (by omega)
  rw [List.append_nil] at whole
  rw [parse?, spelled, whole]
  rfl

end ReadsAs

end Documents

end Json

end Flowtrace

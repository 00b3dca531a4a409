import Flowtrace.Text.CodePoints

/-! Texts and their code points. Joining surrogates changes a text exactly where a high one stands
directly before a low one, so it changes no text of characters. -/

namespace Flowtrace

namespace CodePoint

theorem val_ofNat {n : Nat} (bound : n < 0x110000) : (ofNat n).val = n := Nat.mod_eq_of_lt bound

@[simp] theorem ofNat_val (point : CodePoint) : ofNat point.val = point :=
  Fin.ext (val_ofNat point.isLt)

theorem isHigh_iff {point : CodePoint} :
    point.isHigh = true ↔ 0xD800 ≤ point.val ∧ point.val < 0xDC00 := by
  simp [isHigh]

theorem isLow_iff {point : CodePoint} :
    point.isLow = true ↔ 0xDC00 ≤ point.val ∧ point.val < 0xE000 := by
  simp [isLow]

theorem ofChar_range (c : Char) :
    (ofChar c).val < 0xD800 ∨ 0xE000 ≤ (ofChar c).val ∧ (ofChar c).val < 0x110000 := by
  rcases c.valid with low | ⟨above, below⟩
  · exact .inl low
  · exact .inr ⟨Nat.lt_of_succ_le above, below⟩

@[simp] theorem isHigh_ofChar (c : Char) : (ofChar c).isHigh = false := by
  have range := ofChar_range c
  rw [Bool.eq_false_iff, Ne, isHigh_iff]
  omega

@[simp] theorem isLow_ofChar (c : Char) : (ofChar c).isLow = false := by
  have range := ofChar_range c
  rw [Bool.eq_false_iff, Ne, isLow_iff]
  omega

@[simp] theorem char?_ofChar (c : Char) : (ofChar c).char? = some c := by
  rw [char?, isHigh_ofChar, isLow_ofChar]
  exact congrArg some (Char.ofNat_toNat c)

theorem ofChar_inj {c d : Char} : ofChar c = ofChar d ↔ c = d := by
  rw [ofChar, ofChar, Fin.mk.injEq, Char.toNat_inj]

theorem eq_ofChar_of_char? {point : CodePoint} {c : Char} (character : point.char? = some c) :
    point = ofChar c := by
  have apart : ¬ (point.isHigh = true ∨ point.isLow = true) := by
    intro surrogate
    simp [char?, surrogate] at character
  have valid : point.val.isValidChar := by
    have bound := point.isLt
    rw [isHigh_iff, isLow_iff] at apart
    unfold Nat.isValidChar
    omega
  have spelled : Char.ofNat point.val = c := by simpa [char?, apart] using character
  have number : (Char.ofNat point.val).toNat = point.val := by
    rw [Char.ofNat, dif_pos valid]
    rfl
  exact Fin.ext (spelled ▸ number.symm)

end CodePoint

namespace RawText

/-- Somewhere a high surrogate stands directly before a low one. -/
def HasPair (text : RawText) : Prop :=
  ∃ high low, [high, low] <:+: text ∧ high.isHigh ∧ low.isLow

theorem hasPair_cons_cons {first second : CodePoint} {rest : RawText} :
    HasPair (first :: second :: rest) ↔
      first.isHigh ∧ second.isLow ∨ HasPair (second :: rest) := by
  constructor
  · intro ⟨high, low, within, isHigh, isLow⟩
    rcases List.infix_cons_iff.mp within with front | later
    · simp only [List.cons_prefix_cons, List.nil_prefix, and_true] at front
      obtain ⟨rfl, rfl⟩ := front
      exact .inl ⟨isHigh, isLow⟩
    · exact .inr ⟨high, low, later, isHigh, isLow⟩
  · intro found
    rcases found with ⟨isHigh, isLow⟩ | ⟨high, low, within, isHigh, isLow⟩
    · exact ⟨first, second, (List.prefix_append [first, second] rest).isInfix, isHigh, isLow⟩
    · exact ⟨high, low, within.trans (List.suffix_cons first _).isInfix, isHigh, isLow⟩

theorem length_joined_le (text : RawText) : text.joined.length ≤ text.length := by
  induction text using joined.induct with
  | case1 => exact Nat.le_refl _
  | case2 point => exact Nat.le_refl _
  | case3 high low rest pair ih =>
    simp only [joined, if_pos pair, List.length_cons]
    omega
  | case4 high low rest apart ih =>
    simp only [joined, if_neg apart, List.length_cons] at ih ⊢
    omega

theorem joined_eq_self_iff {text : RawText} : text.joined = text ↔ ¬ text.HasPair := by
  induction text using joined.induct with
  | case1 => simp [joined, HasPair]
  | case2 point => simp [joined, HasPair, List.infix_cons_iff]
  | case3 high low rest pair _ =>
    have surrogates : high.isHigh ∧ low.isLow := by simpa using pair
    -- A pair that was joined has left the text shorter.
    have shorter : (joined (high :: low :: rest)).length < (high :: low :: rest).length := by
      have bound := length_joined_le rest
      simp only [joined, if_pos pair, List.length_cons]
      omega
    have changed : joined (high :: low :: rest) ≠ high :: low :: rest :=
      fun same => absurd shorter (by simp [same])
    simp [hasPair_cons_cons, surrogates, changed]
  | case4 high low rest apart ih =>
    have none : ¬ (high.isHigh ∧ low.isLow) := by simpa using apart
    simp [joined, apart, hasPair_cons_cons, none, ih]

theorem not_hasPair_map_ofChar (characters : List Char) :
    ¬ HasPair (characters.map CodePoint.ofChar) := by
  intro ⟨high, low, within, isHigh, _⟩
  obtain ⟨c, -, rfl⟩ := List.mem_map.mp (within.subset (List.mem_cons_self ..))
  simp at isHigh

end RawText

theorem Wording.ofPoints?_joined_points (text : String) :
    ofPoints? (points text).joined = some text := by
  have kept := RawText.joined_eq_self_iff.mpr (RawText.not_hasPair_map_ofChar text.toList)
  have read : (text.toList.map CodePoint.ofChar).mapM CodePoint.char? = some text.toList := by
    induction text.toList with
    | nil => rfl
    | cons c characters ih => simp [ih]
  simp only [points, ofPoints?, kept, read, Option.map_some, String.ofList_toList]

end Flowtrace

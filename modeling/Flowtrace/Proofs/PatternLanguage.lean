import Flowtrace.Pattern

/-! The language of catch patterns. A pattern is its core, with a star before it or after it, or
both, or neither; what the pattern accepts is its core with any text in place of those stars. The
only stars that are not taken literally are the first and the last character of a pattern. -/

namespace Flowtrace

namespace Pattern

def BeginsOpen (spelled : String) : Prop := ∃ rest, spelled = "*" ++ rest

def EndsOpen (spelled : String) : Prop := ∃ rest, spelled = rest ++ "*"

/-- What is left of a pattern without a star at its start and a star at its end. A single star is
an open start without a core: it is not taken away twice. -/
inductive HasCore : String → String → Prop where
  | closed {core} (start : ¬ BeginsOpen core) (stop : ¬ EndsOpen core) : HasCore core core
  | openStart {core} (stop : ¬ EndsOpen core) : HasCore ("*" ++ core) core
  | openEnd {core} (start : ¬ BeginsOpen core) : HasCore (core ++ "*") core
  | openBoth {core} : HasCore ("*" ++ core ++ "*") core

/-- The core stands in the text, and only an open end of the pattern lets text stand beside it. -/
def Decomposes (spelled core text : String) : Prop :=
  ∃ before after, text = before ++ core ++ after ∧
    (before = "" ∨ BeginsOpen spelled) ∧ (after = "" ∨ EndsOpen spelled)

theorem occursIn_iff_infix (core text : List Char) : occursIn core text = true ↔ core <:+: text := by
  induction text with
  | nil => rw [occursIn, List.isEmpty_iff, List.infix_nil]
  | cons c rest ih =>
    rw [occursIn, Bool.or_eq_true, List.isPrefixOf_iff_prefix, ih, List.infix_cons_iff]

/-- Each of the four shapes of a pattern is a case of one decomposition. -/
theorem accepts_iff (pattern : Pattern) (text : List Char) :
    pattern.accepts text = true ↔ ∃ before after, text = before ++ pattern.core ++ after ∧
      (before = [] ∨ pattern.openStart = true) ∧ (after = [] ∨ pattern.openEnd = true) := by
  obtain ⟨core, openStart, openEnd⟩ := pattern
  cases openStart with
  | true =>
    cases openEnd with
    | true =>
      simp only [accepts, occursIn_iff_infix, or_true, and_true]
      exact exists_congr fun before => exists_congr fun after => eq_comm
    | false =>
      simp only [accepts, List.isSuffixOf_iff_suffix, or_true, true_and, Bool.false_eq_true,
        or_false, exists_eq_right, List.append_nil]
      exact exists_congr fun before => eq_comm
  | false =>
    cases openEnd with
    | true =>
      simp only [accepts, List.isPrefixOf_iff_prefix, or_true, and_true, Bool.false_eq_true,
        or_false]
      constructor
      · rintro ⟨after, rfl⟩
        exact ⟨[], after, rfl, rfl⟩
      · rintro ⟨before, after, rfl, rfl⟩
        exact ⟨after, rfl⟩
    | false =>
      simp only [accepts, Bool.false_eq_true, or_false, beq_iff_eq]
      constructor
      · rintro rfl
        exact ⟨[], [], by simp, rfl, rfl⟩
      · rintro ⟨before, after, rfl, rfl, rfl⟩
        simp

theorem beginsOpen_iff (spelled : String) :
    BeginsOpen spelled ↔ spelled.toList.head? = some '*' := by
  rw [List.head?_eq_some_iff]
  constructor
  · rintro ⟨rest, rfl⟩
    exact ⟨rest.toList, by simp⟩
  · rintro ⟨rest, same⟩
    exact ⟨String.ofList rest, String.toList_inj.mp (by simp [same])⟩

theorem endsOpen_iff (spelled : String) :
    EndsOpen spelled ↔ spelled.toList.getLast? = some '*' := by
  rw [List.getLast?_eq_some_iff]
  constructor
  · rintro ⟨rest, rfl⟩
    exact ⟨rest.toList, by simp⟩
  · rintro ⟨rest, same⟩
    exact ⟨String.ofList rest, String.toList_inj.mp (by simp [same])⟩

theorem openStart_iff (spelled : String) :
    (ofText spelled).openStart = true ↔ BeginsOpen spelled := by
  rw [beginsOpen_iff, ofText, ofChars, beq_iff_eq]

theorem openEnd_iff (spelled : String) : (ofText spelled).openEnd = true ↔ EndsOpen spelled := by
  rw [endsOpen_iff, ofText, ofChars, beq_iff_eq]

/-- Behind a star at the start only a star of the rest is a star at the end. -/
theorem core_of_open (rest : List Char) :
    (ofChars ('*' :: rest)).core =
      if rest.getLast? = some '*' then rest.dropLast else rest := by
  by_cases last : rest.getLast? = some '*'
  · simp [ofChars, List.getLast?_cons, last]
  · simp [ofChars, last]

theorem core_of_not_open {letters : List Char} (start : letters.head? ≠ some '*') :
    (ofChars letters).core =
      if letters.getLast? = some '*' then letters.dropLast else letters := by
  by_cases last : letters.getLast? = some '*'
  · simp [ofChars, start, last]
  · simp [ofChars, start, last]

theorem HasCore.core_eq {spelled core : String} (has : HasCore spelled core) :
    (ofText spelled).core = core.toList := by
  cases has with
  | closed start stop =>
    rw [beginsOpen_iff] at start
    rw [endsOpen_iff] at stop
    rw [ofText, core_of_not_open start, if_neg stop]
  | openStart stop =>
    rw [endsOpen_iff] at stop
    rw [ofText, String.toList_append]
    exact (core_of_open core.toList).trans (if_neg stop)
  | openEnd start =>
    rw [beginsOpen_iff] at start
    rw [ofText, String.toList_append]
    cases letters : core.toList with
    | nil => rfl
    | cons c rest =>
      rw [letters] at start
      have begins : (c :: rest ++ ['*']).head? ≠ some '*' := start
      have last : (c :: rest ++ ['*']).getLast? = some '*' := List.getLast?_concat
      exact (core_of_not_open begins).trans ((if_pos last).trans List.dropLast_concat)
  | openBoth =>
    rw [ofText, String.append_assoc, String.toList_append]
    exact (core_of_open _).trans (by simp)

theorem exists_hasCore (spelled : String) : ∃ core, HasCore spelled core := by
  by_cases start : BeginsOpen spelled
  · obtain ⟨rest, rfl⟩ := start
    by_cases stop : EndsOpen rest
    · obtain ⟨core, rfl⟩ := stop
      rw [← String.append_assoc]
      exact ⟨core, .openBoth⟩
    · exact ⟨rest, .openStart stop⟩
  · by_cases stop : EndsOpen spelled
    · obtain ⟨core, rfl⟩ := stop
      refine ⟨core, .openEnd ?_⟩
      rintro ⟨rest, rfl⟩
      exact start ⟨rest ++ "*", String.append_assoc⟩
    · exact ⟨spelled, .closed start stop⟩

theorem HasCore.eq_iff {spelled core : String} (has : HasCore spelled core) (other : String) :
    HasCore spelled other ↔ other = core := by
  constructor
  · intro also
    exact String.toList_inj.mp (also.core_eq.symm.trans has.core_eq)
  · rintro rfl
    exact has

end Pattern

/-- Every pattern has one core, and it accepts exactly the texts in which that core stands, alone
but for what the open ends of the pattern let stand beside it. -/
theorem patterns_accept_their_language (spelled : String) :
    ∃ core, (∀ other, Pattern.HasCore spelled other ↔ other = core) ∧
      ∀ text, matchesText spelled text = true ↔ Pattern.Decomposes spelled core text := by
  obtain ⟨core, has⟩ := Pattern.exists_hasCore spelled
  refine ⟨core, has.eq_iff, fun text => ?_⟩
  rw [matchesText, Pattern.accepts_iff, has.core_eq, Pattern.openStart_iff, Pattern.openEnd_iff]
  constructor
  · rintro ⟨before, after, same, start, stop⟩
    refine ⟨String.ofList before, String.ofList after, String.toList_inj.mp ?_, ?_, ?_⟩
    · simpa using same
    · exact start.imp_left fun empty => by rw [empty, String.ofList_nil]
    · exact stop.imp_left fun empty => by rw [empty, String.ofList_nil]
  · rintro ⟨before, after, rfl, start, stop⟩
    refine ⟨before.toList, after.toList, by simp, ?_, ?_⟩
    · exact start.imp_left String.toList_eq_nil_iff.mpr
    · exact stop.imp_left String.toList_eq_nil_iff.mpr

end Flowtrace

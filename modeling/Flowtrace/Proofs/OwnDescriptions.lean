import Flowtrace.Proofs.FailureRouting
import Flowtrace.Proofs.PatternLanguage

/-! Failures caught by their own names. A description is arbitrary text, and as a pattern its first
and its last star stand for any text instead of for themselves. That never loses the text it was
read from, so a failure can always be caught by what it is called. -/

namespace Flowtrace

variable {φ : Type}

namespace Pattern

/-- A pattern that ends in a star matches whatever begins as it does. -/
theorem accepts_of_stem (stem rest : List Char) :
    (ofChars (stem ++ ['*'])).accepts (stem ++ rest) = true := by
  have stops : (stem ++ ['*']).getLast? = some '*' := List.getLast?_concat
  have openEnd : (ofChars (stem ++ ['*'])).openEnd = true := by simp [ofChars]
  rw [accepts_iff]
  cases stem with
  | nil =>
    -- The one star opens both ends.
    exact ⟨rest, [], by simp [ofChars], .inr rfl, .inl rfl⟩
  | cons c others =>
    by_cases star : c = '*'
    · subst star
      have last : (others ++ ['*']).getLast? = some '*' := List.getLast?_concat
      have core : (ofChars ('*' :: (others ++ ['*']))).core = others := by
        rw [core_of_open, if_pos last, List.dropLast_concat]
      exact ⟨['*'], rest, by simp [core], .inr rfl, .inr openEnd⟩
    · have begins : (c :: (others ++ ['*'])).head? ≠ some '*' := by simpa using star
      have dropped : (c :: others ++ ['*']).dropLast = c :: others := List.dropLast_concat
      have core : (ofChars (c :: (others ++ ['*']))).core = c :: others :=
        (core_of_not_open begins).trans ((if_pos stops).trans dropped)
      exact ⟨[], rest, by simp [core], .inl rfl, .inr openEnd⟩

/-- Read as a pattern, a text matches itself. -/
theorem accepts_self (letters : List Char) : (ofChars letters).accepts letters = true := by
  by_cases stops : letters.getLast? = some '*'
  · obtain ⟨stem, rfl⟩ := List.getLast?_eq_some_iff.mp stops
    exact accepts_of_stem stem ['*']
  · rw [accepts_iff]
    by_cases begins : letters.head? = some '*'
    · obtain ⟨rest, rfl⟩ := List.head?_eq_some_iff.mp begins
      have inner : rest.getLast? ≠ some '*' := by
        intro last
        exact stops (by simp [List.getLast?_cons, last])
      have core : (ofChars ('*' :: rest)).core = rest := by rw [core_of_open, if_neg inner]
      exact ⟨['*'], [], by simp [core], .inr rfl, .inl rfl⟩
    · have core : (ofChars letters).core = letters := by
        rw [core_of_not_open begins, if_neg stops]
      exact ⟨[], [], by simp [core], .inl rfl, .inl rfl⟩

end Pattern

theorem matchesText_self (text : String) : matchesText text text = true :=
  Pattern.accepts_self text.toList

theorem matchesText_of_stem (stem rest : String) :
    matchesText (stem ++ "*") (stem ++ rest) = true := by
  unfold matchesText Pattern.ofText
  rw [String.toList_append, String.toList_append]
  exact Pattern.accepts_of_stem stem.toList rest.toList

namespace Fault

/-- The class comes first, whatever the message, and stands alone if there is no message. -/
theorem qualified_eq (fault : Fault) : ∃ rest, fault.qualified = fault.className ++ rest := by
  unfold qualified
  split
  · exact ⟨"", String.append_empty.symm⟩
  · exact ⟨": " ++ fault.message, String.append_assoc⟩

theorem qualified_described (fault : Fault) : fault.qualified ∈ fault.toValue.descriptions := by
  simp [Value.descriptions, Value.toFault?, toValue]

end Fault

namespace Value

/-- The patterns that name a failure: its own descriptions, and for a fault its class with
anything behind it. -/
inductive NamedBy (error : Value) : String → Prop where
  | description {description} (described : description ∈ error.descriptions) :
      NamedBy error description
  | className {fault : Fault} (raised : error = fault.toValue) :
      NamedBy error (fault.className ++ "*")

theorem NamedBy.caught {error : Value} {pattern : String} (named : error.NamedBy pattern) :
    error.isCaughtBy pattern = true := by
  rw [isCaughtBy_eq_true_iff]
  cases named with
  | description described => exact ⟨pattern, described, matchesText_self pattern⟩
  | @className fault raised =>
    subst raised
    obtain ⟨rest, qualified⟩ := fault.qualified_eq
    refine ⟨fault.qualified, fault.qualified_described, ?_⟩
    rw [qualified]
    exact matchesText_of_stem fault.className rest

end Value

namespace Task

def CatchesOnly (task : Task φ) (pattern : String) (target : Pointer) : Prop :=
  ∃ next catches, task.routing = .activity next (some catches) ∧
    catches.entries = [(pattern, target)]

theorem CatchesOnly.catches {task : Task φ} {pattern : String} {target : Pointer} {error : Value}
    (only : task.CatchesOnly pattern target) (caught : error.isCaughtBy pattern = true) :
    task.Catches error 0 pattern target := by
  obtain ⟨next, catches, routing, entries⟩ := only
  constructor
  · simp [Routing.catchEntries, routing, entries]
  · exact (error.isCaughtBy_eq_true_iff pattern).mp caught
  · intro earlier other sooner
    exact absurd sooner (Nat.not_lt_zero earlier)

end Task

/-- Every text matches itself as a pattern, stars included. So every failure is caught by each of
its descriptions, and every fault by its class with a star behind it, whatever its message; and an
activity that catches nothing but such a name never lets that failure end a run: the failure goes
the way of the one catch entry. -/
theorem failures_are_caught_by_name :
    (∀ text, matchesText text text = true) ∧
    (∀ (error : Value), ∀ description ∈ error.descriptions,
      error.isCaughtBy description = true) ∧
    (∀ fault : Fault, fault.toValue.isCaughtBy (fault.className ++ "*") = true) ∧
    ∀ (engine : Engine φ) (graph : TaskGraph φ) (input : Value) (context : Context) (turn : Nat)
      (visit : Visit φ) (error : Value) (pattern : String) (target : Pointer),
      (engine.run turn graph input context).visit? = some visit →
      visit.conclusion engine = .settled (.failure error) →
      error.NamedBy pattern → visit.task.CatchesOnly pattern target →
      ¬ FailsOn engine graph input context turn visit ∧
        (engine.refusal? .stepFailed = none →
          Takes engine graph input context turn visit pattern target (.caught pattern error)) := by
  refine ⟨matchesText_self, fun error description described => ?_, fun fault => ?_, ?_⟩
  · exact Value.NamedBy.caught (.description described)
  · exact Value.NamedBy.caught (.className rfl)
  · intro engine graph input context turn visit error pattern target calls failed named only
    have catches := only.catches named.caught
    constructor
    · intro fails
      have missed := Engine.misses_of_failsOn failed fails
      have found := (visit.task.catchFor?_eq_some_iff error pattern target).mpr ⟨0, catches⟩
      rw [(visit.task.catchFor?_eq_none_iff error).mpr missed] at found
      cases found
    · intro taken
      exact Engine.takes_of_catches calls failed taken catches

def Retry.stuck : Fault := ⟨.exception "ValueError", [.text "*stuck*"]⟩

/-- Its one catch pattern is the message of its failure, stars included. -/
def Retry.starred : Task Step where
  name := "fetch"
  step := ⟨.awaited, fun _ context => ⟨.raised Retry.stuck, context, []⟩⟩
  routing := .activity none (some (.ofList [("*stuck*", none)]))
  start := true

theorem retry_failure_is_caught_by_name :
    "*stuck*" ∈ Retry.stuck.toValue.descriptions ∧
      Retry.stuck.toValue.isCaughtBy "*stuck*" = true ∧
      (Retry.engine.run 2 (.ofList [Retry.starred]) .null []).visit? =
        some ⟨Retry.starred, .null, []⟩ ∧
      (⟨Retry.starred, .null, []⟩ : Visit Step).conclusion Retry.engine =
        .settled (.failure Retry.stuck.toValue) ∧
      Retry.stuck.toValue.NamedBy "*stuck*" ∧ Retry.starred.CatchesOnly "*stuck*" none ∧
      Retry.engine.refusal? .stepFailed = none ∧
      ¬ FailsOn Retry.engine (.ofList [Retry.starred]) .null [] 2 ⟨Retry.starred, .null, []⟩ ∧
      Takes Retry.engine (.ofList [Retry.starred]) .null [] 2 ⟨Retry.starred, .null, []⟩
        "*stuck*" none (.caught "*stuck*" Retry.stuck.toValue) := by
  have described : "*stuck*" ∈ Retry.stuck.toValue.descriptions := by decide
  have named : Retry.stuck.toValue.NamedBy "*stuck*" := .description described
  have only : Retry.starred.CatchesOnly "*stuck*" none := ⟨none, _, rfl, rfl⟩
  obtain ⟨_, caught, _, routed⟩ := failures_are_caught_by_name (φ := Step)
  obtain ⟨stays, takes⟩ := routed Retry.engine (.ofList [Retry.starred]) .null [] 2
    ⟨Retry.starred, .null, []⟩ Retry.stuck.toValue "*stuck*" none rfl rfl named only
  exact ⟨described, caught _ _ described, rfl, rfl, named, only, rfl, stays, takes rfl⟩

end Flowtrace

import Flowtrace.Text.Base64
import Mathlib.Tactic.Common

/-! Octets in base64. Every digit tells its six bits, so decoding returns the octets that were
encoded, in each of the three length classes. Only the last digit of a group can be the slash. -/

namespace Flowtrace.Text.Base64

theorem value?_digit : ∀ n < 64, value? (digit n) = some n := by decide

theorem digit_ne_pad {n : Nat} (small : n < 64) : digit n ≠ '=' := by
  intro pad
  have value := value?_digit n small
  rw [pad] at value
  cases value

theorem decode_group {a b c d : Nat} (first : a < 64) (second : b < 64) (third : c < 64)
    (fourth : d < 64) {rest : List Char} {octets : List Nat} (tail : decode rest = some octets) :
    decode (digit a :: digit b :: digit c :: digit d :: rest) =
      some ((a * 4 + b / 16) :: (b % 16 * 16 + c / 4) :: (c % 4 * 64 + d) :: octets) := by
  have full := digit_ne_pad fourth
  rw [decode]
  · simp [value?_digit, first, second, third, fourth, tail]
  · intro _ pad
    exact absurd pad full
  · intro pad
    exact absurd pad full

theorem decode_pair {a b c : Nat} (first : a < 64) (second : b < 64) (third : c < 64)
    (canonical : c % 4 = 0) :
    decode [digit a, digit b, digit c, '='] = some [a * 4 + b / 16, b % 16 * 16 + c / 4] := by
  rw [decode]
  · simp [value?_digit, first, second, third, canonical]
  · exact digit_ne_pad third

theorem decode_single {a b : Nat} (first : a < 64) (second : b < 64) (canonical : b % 16 = 0) :
    decode [digit a, digit b, '=', '='] = some [a * 4 + b / 16] := by
  rw [decode]
  simp [value?_digit, first, second, canonical]

theorem decode_encode (octets : List Nat) (small : ∀ octet ∈ octets, octet < 256) :
    decode (encode octets) = some octets := by
  fun_induction encode octets with
  | case1 => rfl
  | case2 a =>
    have first : a < 256 := small a (by simp)
    rw [decode_single (by omega) (by omega) (by omega)]
    simp only [Option.some.injEq, List.cons.injEq, and_true]
    omega
  | case3 a b =>
    have first : a < 256 := small a (by simp)
    have second : b < 256 := small b (by simp)
    rw [decode_pair (by omega) (by omega) (by omega) (by omega)]
    simp only [Option.some.injEq, List.cons.injEq, and_true]
    omega
  | case4 a b c rest ih =>
    have first : a < 256 := small a (by simp)
    have second : b < 256 := small b (by simp)
    have third : c < 256 := small c (by simp)
    have others := ih fun octet later => small octet (by simp [later])
    rw [decode_group (by omega) (by omega) (by omega) (by omega) others]
    simp only [Option.some.injEq, List.cons.injEq, and_true]
    omega

theorem mem_encode {octets : List Nat} (small : ∀ octet ∈ octets, octet < 256) {c : Char}
    (member : c ∈ encode octets) : c = '=' ∨ ∃ n < 64, c = digit n := by
  fun_induction encode octets with
  | case1 => cases member
  | case2 a =>
    have first : a < 256 := small a (by simp)
    simp only [List.mem_cons, List.not_mem_nil, or_false] at member
    rcases member with rfl | rfl | rfl | rfl
    exacts [.inr ⟨_, by omega, rfl⟩, .inr ⟨_, by omega, rfl⟩, .inl rfl, .inl rfl]
  | case3 a b =>
    have first : a < 256 := small a (by simp)
    have second : b < 256 := small b (by simp)
    simp only [List.mem_cons, List.not_mem_nil, or_false] at member
    rcases member with rfl | rfl | rfl | rfl
    exacts [.inr ⟨_, by omega, rfl⟩, .inr ⟨_, by omega, rfl⟩, .inr ⟨_, by omega, rfl⟩, .inl rfl]
  | case4 a b c rest ih =>
    have first : a < 256 := small a (by simp)
    have second : b < 256 := small b (by simp)
    have third : c < 256 := small c (by simp)
    simp only [List.mem_cons] at member
    rcases member with rfl | rfl | rfl | rfl | later
    exacts [.inr ⟨_, by omega, rfl⟩, .inr ⟨_, by omega, rfl⟩, .inr ⟨_, by omega, rfl⟩,
      .inr ⟨_, by omega, rfl⟩,
      ih (fun octet among => small octet (by simp [among])) later]

/-- Of octets that are visible characters, the slash comes from question marks alone, and only from
those at the end of a group of three. -/
theorem slash_mem_encode_iff {octets : List Nat}
    (visible : ∀ octet ∈ octets, 0x20 ≤ octet ∧ octet ≤ 0x7E) :
    '/' ∈ encode octets ↔ ∃ position, octets[position]? = some '?'.toNat ∧ position % 3 = 2 := by
  have slash : ∀ n < 64, '/' = digit n ↔ n = 63 := by decide
  fun_induction encode octets with
  | case1 => simp
  | case2 a =>
    have first := visible a (by simp)
    constructor
    · intro member
      simp only [List.mem_cons, List.not_mem_nil, Char.reduceEq, or_false,
        slash (a / 4) (by omega), slash (a % 4 * 16) (by omega)] at member
      omega
    · rintro ⟨position, found, last⟩
      obtain ⟨inside, _⟩ := List.getElem?_eq_some_iff.mp found
      rw [List.length_singleton] at inside
      omega
  | case3 a b =>
    have first := visible a (by simp)
    have second := visible b (by simp)
    constructor
    · intro member
      simp only [List.mem_cons, List.not_mem_nil, Char.reduceEq, or_false,
        slash (a / 4) (by omega), slash (a % 4 * 16 + b / 16) (by omega),
        slash (b % 16 * 4) (by omega)] at member
      omega
    · rintro ⟨position, found, last⟩
      obtain ⟨inside, _⟩ := List.getElem?_eq_some_iff.mp found
      simp only [List.length_cons, List.length_nil] at inside
      omega
  | case4 a b c rest ih =>
    have first := visible a (by simp)
    have second := visible b (by simp)
    have third := visible c (by simp)
    have later := ih fun octet among => visible octet (by simp [among])
    have fourth : '/' = digit (c % 64) ↔ c = '?'.toNat := by
      rw [slash _ (by omega)]
      change c % 64 = 63 ↔ c = 63
      omega
    simp only [List.mem_cons, slash (a / 4) (by omega), slash (a % 4 * 16 + b / 16) (by omega),
      slash (b % 16 * 4 + c / 64) (by omega), fourth, later]
    constructor
    · rintro (high | middle | low | ends | ⟨position, found, last⟩)
      · omega
      · omega
      · omega
      · exact ⟨2, by simp [ends], rfl⟩
      · exact ⟨position + 3, by simpa using found, by omega⟩
    · rintro ⟨position, found, last⟩
      match position with
      | 0 | 1 => omega
      | 2 =>
        have ends : c = '?'.toNat := Option.some.inj found
        exact .inr (.inr (.inr (.inl ends)))
      | position + 3 =>
        exact .inr (.inr (.inr (.inr ⟨position, by simpa using found, by omega⟩)))

end Flowtrace.Text.Base64

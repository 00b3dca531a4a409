import Flowtrace.Diagram.Url
import Flowtrace.Proofs.Base64
import Flowtrace.Proofs.PrintedDocuments
import Flowtrace.Proofs.Turns

/-! Addresses of charts. Whoever takes an address apart gets back the very chart that it was made
from, through base64, UTF-8 and JSON, so different charts never share one. As the path of an image
the text in base64 is one segment, unless a question mark of the chart ends one of its groups. -/

namespace Flowtrace

variable {φ : Type}

open Diagram

namespace Json

theorem fromUTF8?_of_visible {characters : List Char} (visible : ∀ c ∈ characters, Visible c) :
    String.fromUTF8? ((characters.map Char.toNat).map UInt8.ofNat).toByteArray =
      some (String.ofList characters) := by
  have octets : (characters.map Char.toNat).map UInt8.ofNat =
      characters.flatMap String.utf8EncodeChar := by
    induction characters with
    | nil => rfl
    | cons c characters ih =>
      obtain ⟨shown, others⟩ := List.forall_mem_cons.mp visible
      have single : c.utf8Size = 1 :=
        Char.utf8Size_eq_one_iff.mpr (Nat.le_trans shown.2 (by decide))
      have later := ih others
      rw [List.map_cons, List.map_cons, List.flatMap_cons, later,
        String.utf8EncodeChar_eq_singleton single]
      rfl
  have valid : (characters.flatMap String.utf8EncodeChar).toByteArray.IsValidUTF8 :=
    ByteArray.isValidUTF8_utf8Encode
  rw [octets, String.fromUTF8?, dif_pos valid]
  rfl

/-- A question mark is written as itself, and nothing else is written with one. -/
theorem Escaped.question {point : CodePoint} {spelled : List Char}
    (escaped : Escaped point spelled) (member : '?' ∈ spelled) : point = .ofChar '?' := by
  have digits : ∀ digit < 16, '?' ≠ digit.digitChar := by decide
  have unit : ∀ {n : Nat}, n < 0x10000 → '?' ∉ codeUnit n := by
    intro n small among
    simp only [codeUnit, hexPadded_four small, List.mem_cons, List.not_mem_nil, or_false] at among
    rcases among with letter | letter | digit | digit | digit | digit
    · cases letter
    · cases letter
    all_goals exact digits _ (by omega) digit
  cases escaped with
  | named notUnit visible stands =>
    simp only [List.mem_cons, List.not_mem_nil, or_false] at member
    rcases member with letter | rfl
    · cases letter
    · cases stands
  | itself => exact congrArg CodePoint.ofChar (List.mem_singleton.mp member).symm
  | unit first => exact absurd member (unit first)
  | units upper lower high low =>
    rcases List.mem_append.mp member with front | back
    · exact absurd front (unit (by omega))
    · exact absurd back (unit (by omega))

theorem question_at_iff (text : List Char) (position : Nat) :
    (text.flatMap escapedChar)[position]? = some '?' ↔
      ∃ before after, text = before ++ '?' :: after ∧
        (before.flatMap escapedChar).length = position := by
  induction text generalizing position with
  | nil => simp
  | cons c text ih =>
    rw [List.flatMap_cons, List.getElem?_append]
    split
    · rename_i inside
      constructor
      · intro found
        have same := CodePoint.ofChar_inj.mp
          ((escaped_escapedChar c).question (List.mem_of_getElem? found))
        subst same
        have single : escapedChar '?' = ['?'] := by decide
        rw [single, List.length_singleton] at inside
        exact ⟨[], text, rfl, by simpa using (Nat.lt_one_iff.mp inside).symm⟩
      · rintro ⟨before, after, split, reached⟩
        cases before with
        | nil =>
          obtain ⟨rfl, rfl⟩ := List.cons.inj split
          subst reached
          decide
        | cons d before =>
          obtain ⟨rfl, rfl⟩ := List.cons.inj split
          rw [List.flatMap_cons, List.length_append] at reached
          omega
    · rename_i beyond
      rw [ih]
      constructor
      · rintro ⟨before, after, rfl, reached⟩
        exact ⟨c :: before, after, rfl, by rw [List.flatMap_cons, List.length_append]; omega⟩
      · rintro ⟨before, after, split, reached⟩
        cases before with
        | nil =>
          have spent := List.length_pos_iff.mpr (escaped_escapedChar c).nonempty
          rw [List.flatMap_nil, List.length_nil] at reached
          omega
        | cons d before =>
          obtain ⟨rfl, rfl⟩ := List.cons.inj split
          rw [List.flatMap_cons, List.length_append] at reached
          exact ⟨before, after, rfl, by omega⟩

end Json

namespace Diagram

def carried? (encoded : String) : Option (Json String) := do
  let octets ← Text.Base64.decode encoded.toList
  let text ← String.fromUTF8? (octets.map UInt8.ofNat).toByteArray
  Json.parse? text

theorem state_readsBack (chart : String) (theme : Option String) :
    Json.ReadsAs .compact (state chart theme) (state chart theme) := by
  refine .obj Json.Spacing.separates_compact (List.forall₂_same.mpr ?_)
    (by cases theme <;> simp)
  intro field member
  refine ⟨Json.textReadsAs_self _, ?_⟩
  simp only [List.mem_append, List.mem_cons, List.not_mem_nil, or_false] at member
  rcases member with (rfl | themed) | rfl | rfl | rfl
  · exact .str (Json.textReadsAs_self _)
  · cases theme with
    | none => cases themed
    | some theme =>
      obtain rfl := List.mem_singleton.mp themed
      exact .str (Json.textReadsAs_self _)
  all_goals exact .bool _

theorem octet_of_state (chart : String) (theme : Option String) :
    ∀ octet ∈ ((state chart theme).chars .compact).map Char.toNat, octet < 256 := by
  intro octet member
  obtain ⟨c, among, rfl⟩ := List.mem_map.mp member
  have below := ((state_readsBack chart theme).visible c among).2
  omega

theorem carried?_encodedState (chart : String) (theme : Option String) :
    carried? (encodedState chart theme) = some (state chart theme) := by
  have reads := state_readsBack chart theme
  have decoded := Text.Base64.decode_encode _ (octet_of_state chart theme)
  have text := Json.fromUTF8?_of_visible reads.visible
  have document := reads.parse?_print
  rw [Json.print] at document
  simp only [carried?, encodedState, Text.Base64.encodeAscii, String.toList_ofList, decoded,
    Option.bind_eq_bind, Option.bind_some, text, document]

theorem encodedState_injective {chart other : String} {theme : Option String}
    (same : encodedState chart theme = encodedState other theme) : chart = other := by
  have carried := congrArg carried? same
  rw [carried?_encodedState, carried?_encodedState] at carried
  simpa [state] using carried

theorem imageUrl_inj (chart other : String) : imageUrl chart = imageUrl other ↔ chart = other := by
  refine ⟨fun same => ?_, congrArg imageUrl⟩
  have behind := (String.append_left_inj _).mp same
  exact encodedState_injective ((String.append_right_inj _).mp behind)

theorem editorUrl_inj (chart other : String) :
    editorUrl chart = editorUrl other ↔ chart = other := by
  refine ⟨fun same => ?_, congrArg editorUrl⟩
  exact encodedState_injective ((String.append_right_inj _).mp same)

section Segments

/-- A question mark of a chart ends a group of three characters, counted in the spelling of what
stands before it. -/
def EndsGroup (chart : String) : Prop :=
  ∃ before after, chart.toList = before ++ '?' :: after ∧
    (before.flatMap Json.escapedChar).length % 3 = 2

/-- The parts of an address up to its query or fragment, cut at the slashes. -/
def segments (address : String) : List String :=
  ((address.toList.takeWhile fun c => c ≠ '?' && c ≠ '#').splitOn '/').map String.ofList

/-- The chart stands in its document behind three whole groups. -/
theorem state_chars (chart : String) :
    (state chart none).chars .compact = "\x7b\"code\":\"".toList ++
      (chart.toList.flatMap Json.escapedChar ++
        "\",\"autoSync\":true,\"rough\":false,\"updateDiagram\":true\x7d".toList) := by
  have names : Json.stringChars "code" = "\"code\"".toList ∧
      Json.stringChars "autoSync" = "\"autoSync\"".toList ∧
      Json.stringChars "rough" = "\"rough\"".toList ∧
      Json.stringChars "updateDiagram" = "\"updateDiagram\"".toList := by decide
  simp only [state, Json.chars, Json.fieldChars, names, Json.Spacing.compact, List.append_nil,
    List.cons_append, List.nil_append]
  simp [Json.stringChars, Json.flatMap_points]

theorem getElem?_between {c : Char} {before after : List Char} (first : c ∉ before)
    (last : c ∉ after) (between : List Char) (position : Nat) :
    (before ++ (between ++ after))[position]? = some c ↔
      before.length ≤ position ∧ between[position - before.length]? = some c := by
  constructor
  · intro found
    rw [List.getElem?_append] at found
    split at found
    · exact absurd (List.mem_of_getElem? found) first
    · rename_i beyond
      rw [List.getElem?_append] at found
      split at found
      · exact ⟨by omega, found⟩
      · exact absurd (List.mem_of_getElem? found) last
  · rintro ⟨beyond, found⟩
    obtain ⟨inside, _⟩ := List.getElem?_eq_some_iff.mp found
    rw [List.getElem?_append_right beyond, List.getElem?_append_left inside, found]

theorem question_in_state_iff (chart : String) (position : Nat) :
    ((state chart none).chars .compact)[position]? = some '?' ↔
      9 ≤ position ∧ ∃ before after, chart.toList = before ++ '?' :: after ∧
        (before.flatMap Json.escapedChar).length = position - 9 := by
  rw [state_chars, getElem?_between (by decide) (by decide), Json.question_at_iff]
  rfl

theorem slash_mem_encodedState_iff (chart : String) :
    '/' ∈ (encodedState chart none).toList ↔ EndsGroup chart := by
  have visible : ∀ octet ∈ ((state chart none).chars .compact).map Char.toNat,
      0x20 ≤ octet ∧ octet ≤ 0x7E := by
    intro octet member
    obtain ⟨c, among, rfl⟩ := List.mem_map.mp member
    exact (state_readsBack chart none).visible c among
  have octet : ∀ position : Nat, (((state chart none).chars .compact).map Char.toNat)[position]? =
      some '?'.toNat ↔ ((state chart none).chars .compact)[position]? = some '?' := by
    intro position
    rw [List.getElem?_map, Option.map_eq_some_iff]
    constructor
    · rintro ⟨c, found, same⟩
      rw [found, Char.toNat_inj.mp same]
    · exact fun found => ⟨'?', found, rfl⟩
  rw [encodedState, String.toList_ofList, Text.Base64.encodeAscii,
    Text.Base64.slash_mem_encode_iff visible]
  simp only [octet, question_in_state_iff]
  constructor
  · rintro ⟨position, ⟨beyond, before, after, split, reached⟩, last⟩
    exact ⟨before, after, split, by omega⟩
  · rintro ⟨before, after, split, last⟩
    exact ⟨_ + 9, ⟨by omega, before, after, split, rfl⟩, by omega⟩

theorem encodedState_unreserved (chart : String) (theme : Option String) :
    '?' ∉ (encodedState chart theme).toList ∧ '#' ∉ (encodedState chart theme).toList := by
  have other : ∀ n < 64, '?' ≠ Text.Base64.digit n ∧ '#' ≠ Text.Base64.digit n := by decide
  rw [encodedState, String.toList_ofList, Text.Base64.encodeAscii]
  constructor
  all_goals
    intro member
    rcases Text.Base64.mem_encode (octet_of_state chart theme) member with pad | ⟨n, inside, same⟩
    · cases pad
  · exact (other n inside).1 same
  · exact (other n inside).2 same

theorem splitOn_eq_singleton_iff {c : Char} (characters : List Char) :
    characters.splitOn c = [characters] ↔ c ∉ characters := by
  refine ⟨fun whole member => ?_, List.splitOn_eq_singleton⟩
  obtain ⟨before, after, rfl, first⟩ := List.eq_append_cons_of_mem member
  rw [List.splitOn_append_cons_self_of_not_mem first] at whole
  exact absurd (List.cons.inj whole).2 (List.splitOn_ne_nil _ _)

theorem imageUrl_eq (chart : String) : imageUrl chart =
    "https://mermaid.ink/img/" ++ ("base64:" ++ encodedState chart none) ++ "?type=png" := by
  have joined : "https://mermaid.ink/img/" ++ "base64:" = "https://mermaid.ink/img/base64:" := by
    simp
  unfold imageUrl
  generalize encodedState chart none = encoded
  have regrouped : "https://mermaid.ink/img/" ++ "base64:" ++ encoded =
      "https://mermaid.ink/img/" ++ ("base64:" ++ encoded) := String.append_assoc
  rw [← regrouped, joined]

theorem segments_of_image {encoded : String} (query : '?' ∉ encoded.toList)
    (fragment : '#' ∉ encoded.toList) :
    segments ("https://mermaid.ink/img/" ++ encoded ++ "?type=png") =
      ["https:", "", "mermaid.ink", "img"] ++
        (encoded.toList.splitOn '/').map String.ofList := by
  have path : ∀ c ∈ ("https://mermaid.ink/img/" ++ encoded).toList,
      (decide (c ≠ '?') && decide (c ≠ '#')) = true := by
    intro c member
    rw [String.toList_append, List.mem_append] at member
    rcases member with fixed | among
    · have host : ("https://mermaid.ink/img/".toList.all fun c => c ≠ '?' && c ≠ '#') = true := by
        decide
      exact List.all_eq_true.mp host c fixed
    · have other : c ≠ '?' := fun same => query (same ▸ among)
      have another : c ≠ '#' := fun same => fragment (same ▸ among)
      simp [other, another]
  have ends : ("?type=png".toList.takeWhile fun c => c ≠ '?' && c ≠ '#') = [] := by decide
  have host : ("https://mermaid.ink/img/" ++ encoded).toList = "https:".toList ++ '/' ::
      ([] ++ '/' :: ("mermaid.ink".toList ++ '/' :: ("img".toList ++ '/' :: encoded.toList))) := by
    rw [String.toList_append]
    rfl
  rw [segments, String.toList_append, List.takeWhile_append_of_pos path, ends, List.append_nil,
    host, List.splitOn_append_cons_self_of_not_mem (by decide),
    List.splitOn_append_cons_self_of_not_mem (by decide),
    List.splitOn_append_cons_self_of_not_mem (by decide),
    List.splitOn_append_cons_self_of_not_mem (by decide)]
  rfl

/-- What stands between the fixed ends of the address of an image. -/
theorem mem_between_iff {c : Char} (fixed : c ∉ "base64:".toList) (chart : String) :
    c ∈ ("base64:" ++ encodedState chart none).toList ↔ c ∈ (encodedState chart none).toList := by
  rw [String.toList_append, List.mem_append]
  exact or_iff_right fixed

theorem segments_imageUrl_iff (chart : String) :
    segments (imageUrl chart) =
      ["https:", "", "mermaid.ink", "img", "base64:" ++ encodedState chart none] ↔
      ¬ EndsGroup chart := by
  obtain ⟨query, fragment⟩ := encodedState_unreserved chart none
  rw [← mem_between_iff (by decide)] at query fragment
  rw [← slash_mem_encodedState_iff, ← mem_between_iff (by decide), ← splitOn_eq_singleton_iff,
    imageUrl_eq, segments_of_image query fragment]
  generalize "base64:" ++ encodedState chart none = encoded
  constructor
  · intro whole
    have path : (encoded.toList.splitOn '/').map String.ofList = [encoded] := by
      simpa using whole
    simpa [List.map_map, Function.comp_def] using congrArg (List.map String.toList) path
  · intro whole
    rw [whole]
    simp

end Segments

end Diagram

/-- Both addresses of a chart carry the chart itself and the settings that never vary; the editor's
has its theme besides, in a document of its own. So addresses are equal only if the charts are. -/
theorem addresses_carry_the_chart (graph : TaskGraph φ) (result : Option RunResult) :
    (∃ encoded,
      imageUrl (graph.flowchart result) =
        "https://mermaid.ink/img/base64:" ++ encoded ++ "?type=png" ∧
      carried? encoded = some (.obj [("code", .str (graph.flowchart result)),
        ("autoSync", .bool true), ("rough", .bool false), ("updateDiagram", .bool true)])) ∧
    (∃ encoded theme,
      editorUrl (graph.flowchart result) = "https://mermaid.live/edit#base64:" ++ encoded ∧
      carried? encoded = some (.obj [("code", .str (graph.flowchart result)),
        ("mermaid", .str theme), ("autoSync", .bool true), ("rough", .bool false),
        ("updateDiagram", .bool true)]) ∧
      Json.parse? theme = some (.obj [("theme", .str "dark")])) ∧
    ∀ (other : TaskGraph φ) (otherResult : Option RunResult),
      (imageUrl (graph.flowchart result) = imageUrl (other.flowchart otherResult) ↔
        graph.flowchart result = other.flowchart otherResult) ∧
      (editorUrl (graph.flowchart result) = editorUrl (other.flowchart otherResult) ↔
        graph.flowchart result = other.flowchart otherResult) := by
  have dark : Json.ReadsAs .compact (.obj [("theme", .str "dark")])
      (.obj [("theme", .str "dark")]) :=
    .obj Json.Spacing.separates_compact
      (.cons ⟨Json.textReadsAs_self _, .str (Json.textReadsAs_self _)⟩ .nil) (by decide)
  refine ⟨⟨_, rfl, carried?_encodedState _ none⟩,
    ⟨_, _, rfl, carried?_encodedState _ (some "dark"), dark.parse?_print⟩, ?_⟩
  intro other otherResult
  exact ⟨imageUrl_inj _ _, editorUrl_inj _ _⟩

/-- What stands between the fixed ends of the address of an image has neither the mark of a query
nor that of a fragment, but a slash wherever a question mark of the chart ends a group of three
characters. So it is one segment of the path exactly if no question mark stands there. -/
theorem image_path_is_cut_at_question_marks (graph : TaskGraph φ) (result : Option RunResult) :
    ∃ encoded,
      imageUrl (graph.flowchart result) =
        "https://mermaid.ink/img/" ++ encoded ++ "?type=png" ∧
      '?' ∉ encoded.toList ∧ '#' ∉ encoded.toList ∧
      ('/' ∈ encoded.toList ↔ EndsGroup (graph.flowchart result)) ∧
      (segments (imageUrl (graph.flowchart result)) =
        ["https:", "", "mermaid.ink", "img", encoded] ↔ ¬ EndsGroup (graph.flowchart result)) := by
  generalize graph.flowchart result = chart
  obtain ⟨query, fragment⟩ := encodedState_unreserved chart none
  refine ⟨_, imageUrl_eq chart, ?_, ?_, ?_, segments_imageUrl_iff chart⟩
  · rwa [mem_between_iff (by decide)]
  · rwa [mem_between_iff (by decide)]
  · rw [mem_between_iff (by decide), slash_mem_encodedState_iff]

def Retry.asking : TaskGraph Step :=
  .ofList
    [{ Retry.check with
        name := "found?", routing := .choice (.ofList [("found", none), ("lost", none)]) }]

/-- Its question mark puts a slash into the address, and cuts what is between the fixed ends. -/
theorem retry_image_path_is_cut :
    ∃ encoded,
      imageUrl (Retry.asking.flowchart none) =
        "https://mermaid.ink/img/" ++ encoded ++ "?type=png" ∧
      '/' ∈ encoded.toList ∧
      segments (imageUrl (Retry.asking.flowchart none)) ≠
        ["https:", "", "mermaid.ink", "img", encoded] := by
  have ends : EndsGroup (Retry.asking.flowchart none) :=
    ⟨"flowchart TD\n    Start((start))-->found?\n    found?\x7bfound".toList,
      "\x7d-->|found|End((end))\n    found?\x7bfound?\x7d-->|lost|End((end))".toList,
      by decide +kernel, by decide +kernel⟩
  refine ⟨_, imageUrl_eq _, ?_, fun whole => (segments_imageUrl_iff _).mp whole ends⟩
  rwa [mem_between_iff (by decide), slash_mem_encodedState_iff]

end Flowtrace

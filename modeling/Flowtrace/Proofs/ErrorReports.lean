import Flowtrace.Proofs.PrintedDocuments
import Flowtrace.Raised

/-! Reports of errors. A report is made of texts alone, however odd the names, the keys and the
failure that it mentions, so it can always be printed. What is printed reads back as the report
with its surrogates joined, which is the same report unless one of its texts has a pair of them. -/

namespace Flowtrace

open Wording

variable {τ : Type}

namespace Json

inductive IsTextual : Json τ → Prop where
  | null : IsTextual .null
  | str (value : τ) : IsTextual (.str value)

/-- A document with certain leaves, in which no object has two fields of one name. -/
inductive BuiltFrom (leaf : Json τ → Prop) : Json τ → Prop where
  | leaf {document : Json τ} (allowed : leaf document) : BuiltFrom leaf document
  | arr {items : List (Json τ)} (each : ∀ item ∈ items, BuiltFrom leaf item) :
      BuiltFrom leaf (.arr items)
  | obj {fields : List (τ × Json τ)} (distinct : (fields.map Prod.fst).Nodup)
      (each : ∀ field ∈ fields, BuiltFrom leaf field.2) : BuiltFrom leaf (.obj fields)

theorem builtFrom_str (value : τ) : (Json.str value).BuiltFrom IsTextual := .leaf (.str value)

theorem builtFrom_ofOption (text : Option τ) : (Json.ofOption text).BuiltFrom IsTextual := by
  cases text with
  | none => exact .leaf .null
  | some text => exact builtFrom_str text

theorem ofOption_inj {left right : Option τ} : ofOption left = ofOption right ↔ left = right := by
  cases left <;> cases right <;> simp [ofOption]

theorem ReadsAs.ofOption [Wording τ] [BEq τ] {spacing : Spacing} {f : τ → τ}
    (reads : ∀ text, TextReadsAs text (f text)) (text : Option τ) :
    ReadsAs spacing (.ofOption text) (.ofOption (text.map f)) := by
  cases text with
  | none => exact .null
  | some text => exact .str (reads text)

structure Records [Wording τ] [BEq τ] (document : Json τ) (entry : TraceEntry τ) : Prop where
  label : document.field? (ofString "label") = some (.str entry.label)
  source : document.field? (ofString "source") = some (.ofOption entry.source)
  destination : document.field? (ofString "destination") = some (.ofOption entry.destination)

/-- A report of an error: what went wrong, and the transitions of the attached run one by one. -/
structure Reports [Wording τ] [BEq τ] [Append τ] (document : Json τ) (error : EngineError τ)
    (attached : Option (List (TraceEntry τ))) : Prop where
  message : document.field? (ofString "message") = some (.str error.message)
  className : document.field? (ofString "error_type") = some (.str error.className)
  original : document.field? (ofString "original_error") = some (.ofOption error.original)
  trace : ∃ entries, document.field? (ofString "trace") = some (.arr entries) ∧
    List.Forall₂ Records entries (attached.elim [] id)

end Json

def TraceEntry.map {σ : Type} (f : τ → σ) (entry : TraceEntry τ) : TraceEntry σ :=
  ⟨f entry.label, entry.source.map f, entry.destination.map f⟩

def TraceEntry.texts (entry : TraceEntry τ) : List τ :=
  entry.label :: entry.source.toList ++ entry.destination.toList

namespace Account

def map {σ : Type} (f : τ → σ) (account : Account τ) : Account σ :=
  ⟨f account.message, f account.className, account.original.map f, account.trace.map (·.map f)⟩

def texts (account : Account τ) : List τ :=
  account.message :: account.className :: account.original.toList ++
    account.trace.flatMap TraceEntry.texts

end Account

section Report

variable [Wording τ] (distinct : Function.Injective (ofString : String → τ))
include distinct

theorem TraceEntry.report_builtFrom (entry : TraceEntry τ) :
    entry.report.BuiltFrom Json.IsTextual := by
  refine .obj (by simp [distinct.eq_iff]) ?_
  simp only [List.forall_mem_cons]
  exact ⟨Json.builtFrom_str _, Json.builtFrom_ofOption _, Json.builtFrom_ofOption _, by simp⟩

theorem Account.report_builtFrom (account : Account τ) :
    account.report.BuiltFrom Json.IsTextual := by
  refine .obj (by simp [distinct.eq_iff]) ?_
  simp only [List.forall_mem_cons]
  refine ⟨Json.builtFrom_str _, Json.builtFrom_str _, Json.builtFrom_ofOption _, .arr ?_, by simp⟩
  intro document member
  obtain ⟨entry, _, rfl⟩ := List.mem_map.mp member
  exact entry.report_builtFrom distinct

section Reading

variable [BEq τ] [LawfulBEq τ] {f : τ → τ} (reads : ∀ text, Json.TextReadsAs text (f text))
  (fixed : ∀ name, f (ofString name) = ofString name)
include reads fixed

theorem TraceEntry.report_readsAs (entry : TraceEntry τ) :
    Json.ReadsAs .wide entry.report (entry.map f).report := by
  have key (name : String) : Json.TextReadsAs (ofString name : τ) (ofString name) := by
    simpa only [fixed] using reads (ofString name)
  refine .obj Json.Spacing.separates_wide ?_ (by simp [distinct.eq_iff])
  exact .cons ⟨key _, .str (reads _)⟩ (.cons ⟨key _, .ofOption reads _⟩
    (.cons ⟨key _, .ofOption reads _⟩ .nil))

/-- The reader finds the report of what it makes of the texts, one by one. -/
theorem Account.report_readsAs (account : Account τ) :
    Json.ReadsAs .wide account.report (account.map f).report := by
  have key (name : String) : Json.TextReadsAs (ofString name : τ) (ofString name) := by
    simpa only [fixed] using reads (ofString name)
  have trace : Json.ReadsAs .wide (.arr (account.trace.map TraceEntry.report))
      (.arr ((account.map f).trace.map TraceEntry.report)) := by
    refine .arr Json.Spacing.separates_wide ?_
    rw [Account.map, List.map_map, List.forall₂_map_left_iff, List.forall₂_map_right_iff]
    exact List.forall₂_same.mpr fun entry _ => entry.report_readsAs distinct reads fixed
  refine .obj Json.Spacing.separates_wide ?_ (by simp [distinct.eq_iff])
  exact .cons ⟨key _, .str (reads _)⟩ (.cons ⟨key _, .str (reads _)⟩
    (.cons ⟨key _, .ofOption reads _⟩ (.cons ⟨key _, trace⟩ .nil)))

end Reading

end Report

section Texts

variable [Wording τ]

theorem TraceEntry.report_injective : Function.Injective (report : TraceEntry τ → Json τ) := by
  intro left right same
  simpa [TraceEntry.report, Json.ofOption_inj, TraceEntry.ext_iff] using same

theorem Account.report_inj {left right : Account τ} :
    left.report = right.report ↔ left = right := by
  simp [Account.report, Json.ofOption_inj, Account.ext_iff,
    TraceEntry.report_injective.list_map.eq_iff]

end Texts

section Unchanged

variable {f : τ → τ}

theorem optionMap_eq_self_iff {text : Option τ} :
    text.map f = text ↔ ∀ held ∈ text.toList, f held = held := by
  cases text <;> simp

theorem TraceEntry.map_eq_self_iff {entry : TraceEntry τ} :
    entry.map f = entry ↔ ∀ text ∈ entry.texts, f text = text := by
  simp [TraceEntry.map, TraceEntry.ext_iff, TraceEntry.texts, optionMap_eq_self_iff, or_imp,
    forall_and]

theorem Account.map_eq_self_iff {account : Account τ} :
    account.map f = account ↔ ∀ text ∈ account.texts, f text = text := by
  have trace : account.trace.map (TraceEntry.map f) = account.trace ↔
      ∀ entry ∈ account.trace, ∀ text ∈ entry.texts, f text = text := by
    simp only [← TraceEntry.map_eq_self_iff]
    simpa using List.map_inj_left (l := account.trace) (f := TraceEntry.map f) (g := id)
  simp only [Account.map, Account.ext_iff, trace, optionMap_eq_self_iff, texts,
    List.forall_mem_append, List.forall_mem_cons, List.forall_mem_flatMap, List.cons_append]

end Unchanged

section RawTexts

theorem RawText.ofString_injective : Function.Injective (ofString : String → RawText) := by
  intro left right same
  have single : Function.Injective CodePoint.ofChar := fun _ _ => CodePoint.ofChar_inj.mp
  exact String.toList_inj.mp (single.list_map same)

theorem RawText.joined_ofString (text : String) :
    (ofString text : RawText).joined = ofString text :=
  RawText.joined_eq_self_iff.mpr (RawText.not_hasPair_map_ofChar text.toList)

namespace Account

variable (account : Account RawText)

theorem report_readsAs_joined :
    Json.ReadsAs .wide account.report (account.map RawText.joined).report :=
  account.report_readsAs RawText.ofString_injective Json.textReadsAs_joined RawText.joined_ofString

theorem ascii_reportText : ∀ c ∈ account.reportText.toList, c.toNat < 0x80 := by
  intro c member
  have below := (account.report_readsAs_joined.visible_print c member).2
  omega

theorem parse?_reportText :
    Json.parse? account.reportText = some (account.map RawText.joined).report :=
  account.report_readsAs_joined.parse?_print

theorem parse?_reportText_eq_self_iff :
    Json.parse? account.reportText = some account.report ↔
      ∀ text ∈ account.texts, ¬ text.HasPair := by
  rw [parse?_reportText, Option.some.injEq, report_inj, map_eq_self_iff]
  simp only [RawText.joined_eq_self_iff]

end Account

theorem TraceEntry.records_report (entry : TraceEntry RawText) : entry.report.Records entry where
  label := rfl
  source := rfl
  destination := rfl

theorem EngineError.reports_account (error : EngineError RawText)
    (attached : Option (List (TraceEntry RawText))) :
    (error.account attached).report.Reports error attached where
  message := rfl
  className := rfl
  original := rfl
  trace := by
    refine ⟨_, rfl, ?_⟩
    have trace : (error.account attached).trace = attached.elim [] id := by
      cases attached <;> rfl
    rw [trace, List.forall₂_map_left_iff]
    exact List.forall₂_same.mpr fun entry _ => entry.records_report

end RawTexts

/-- Every report is built from texts and nulls alone and lists the transitions of the attached run
in order. Its text is ASCII, and spells the report with its surrogates joined, which is the report
itself unless one of its texts has a pair of them. -/
theorem reports_decode_to_what_they_describe (error : EngineError RawText)
    (attached : Option (List (TraceEntry RawText))) :
    let account := error.account attached
    account.report.BuiltFrom Json.IsTextual ∧
    (∀ c ∈ account.reportText.toList, c.toNat < 0x80) ∧
    Json.parse? account.reportText = some (account.map RawText.joined).report ∧
    (Json.parse? account.reportText = some account.report ↔
      ∀ text ∈ account.texts, ¬ text.HasPair) ∧
    account.report.Reports error attached := by
  intro account
  exact ⟨account.report_builtFrom RawText.ofString_injective, account.ascii_reportText,
    account.parse?_reportText, account.parse?_reportText_eq_self_iff,
    error.reports_account attached⟩

/-- A task whose name is two surrogates comes back as one whose name is the code point that the two
stand for. -/
theorem paired_name_reads_back_joined :
    let missing : EngineError RawText := .taskNotFound [0xD83D, 0xDE00]
    let other : EngineError RawText := .taskNotFound [0x1F600]
    Json.parse? (missing.account none).reportText = some (other.account none).report ∧
    Json.parse? (missing.account none).reportText ≠ some (missing.account none).report := by
  intro missing other
  constructor
  · have joined : (missing.account none).map RawText.joined = other.account none :=
      Account.ext (by decide) (by decide) rfl rfl
    rw [Account.parse?_reportText, joined]
  · rw [Ne, Account.parse?_reportText_eq_self_iff]
    intro apart
    refine apart missing.message List.mem_cons_self ⟨0xD83D, 0xDE00, ?_, by decide, by decide⟩
    exact ⟨ofString "Task with name '", ofString "' not found", by decide⟩

section Engine

variable {φ : Type}

/-- The error that a kind of fault is, behind which stands a failure of the given text. -/
def FaultKind.engineError? (cause : Option RawText) : FaultKind → Option (EngineError RawText)
  | .execution message => some (.execution (points message))
  | .structural message => some (.structural (points message))
  | .startTaskNotFound => some .startTaskNotFound
  | .taskNotFound task => some (.taskNotFound (points task))
  | .unmappedChoice choice key => some (.unmappedChoice (points choice) (points key))
  | .stepExecution step reason => some (.stepExecution (points step) cause (reason.map points))
  | .derived name base => (base.engineError? cause).map (.derived (points name))
  | .exception _ | .abort | .workflows | .workflowNotFound _ => none

theorem FaultKind.isSome_engineError? (cause : Option RawText) (kind : FaultKind) :
    (kind.engineError? cause).isSome = kind.isExecution := by
  induction kind with
  | derived name base ih => simpa [engineError?, isExecution, isStructural] using ih
  | _ => rfl

namespace RawText

@[simp] theorem points_eq (text : RawText) : points text = text := rfl

@[simp] theorem points_string (text : String) : points text = (ofString text : RawText) := rfl

@[simp] theorem ofString_empty : (ofString "" : RawText) = [] := rfl

@[simp] theorem ofString_append (left right : String) :
    (ofString (left ++ right) : RawText) = ofString left ++ ofString right := by
  simp [ofString]

theorem ofString_remark (reason : String) :
    (ofString (if reason = "" then "" else " (" ++ reason ++ ")") : RawText) =
      if (ofString reason : RawText) = [] then ofString ""
      else ofString " (" ++ ofString reason ++ ofString ")" := by
  have empty : (ofString reason : RawText) = [] ↔ reason = "" := by simp [ofString]
  by_cases none : reason = ""
  · rw [if_pos none, if_pos (empty.mpr none)]
  · rw [if_neg none, if_neg (none ∘ empty.mp), ofString_append, ofString_append]

end RawText

theorem FaultKind.points_message {kind : FaultKind} {error : EngineError RawText}
    {details : List Rendering}
    (told : kind.engineError? (details.head?.map fun cause => points cause.plain) = some error) :
    points (kind.message details) = error.message := by
  induction kind generalizing error with
  | derived name base ih =>
    obtain ⟨_, within, rfl⟩ := Option.map_eq_some_iff.mp told
    have same := ih within
    exact same
  | exception | abort | workflows | workflowNotFound => cases told
  | stepExecution step reason =>
    cases told
    cases details
    all_goals
      cases reason
      all_goals simp [message, EngineError.message, RawText.ofString_remark]
  | _ =>
    cases told
    simp [message, EngineError.message]

theorem FaultKind.points_className {kind : FaultKind} {error : EngineError RawText}
    {cause : Option RawText} (told : kind.engineError? cause = some error) :
    points kind.className = error.className := by
  cases kind with
  | derived name base =>
    obtain ⟨_, _, rfl⟩ := Option.map_eq_some_iff.mp told
    rfl
  | exception | abort | workflows | workflowNotFound => cases told
  | _ =>
    cases told
    rfl

theorem FaultKind.points_original {kind : FaultKind} {error : EngineError RawText}
    {details : List Value} (caused : ∀ rest, details ≠ .null :: rest)
    (told : kind.engineError? (details.head?.map fun cause => points cause.plain) = some error) :
    (if (Fault.mk kind details).cause.isNull then none
      else some (Fault.mk kind details).cause.plain).map points = error.original := by
  induction kind generalizing error with
  | derived name base ih =>
    obtain ⟨_, within, rfl⟩ := Option.map_eq_some_iff.mp told
    have same := ih within
    exact same
  | exception | abort | workflows | workflowNotFound => cases told
  | stepExecution step reason =>
    cases told
    cases details with
    | nil => rfl
    | cons cause rest =>
      have held : cause.isNull = false := by
        cases cause
        case null => exact absurd rfl (caused rest)
        all_goals rfl
      simp [Fault.cause, EngineError.original, held]
  | _ =>
    cases told
    rfl

/-- What a fault reports is what the error that it is reports, code point by code point. -/
theorem Raised.account_of_engineError (error : Raised φ) {shown : EngineError RawText}
    (caused : ∀ rest, error.fault.details ≠ .null :: rest)
    (told : error.fault.kind.engineError?
      (error.fault.details.head?.map fun cause => points cause.plain) = some shown) :
    error.account.map points =
      shown.account (error.result.map (·.transitions.map (·.traceEntry.map points))) := by
  have texts : (Value.renderings error.fault.details).head?.map (fun cause => points cause.plain) =
      error.fault.details.head?.map fun cause => (points cause.plain : RawText) := by
    cases error.fault.details <;> rfl
  have trace : error.account.trace.map (TraceEntry.map points) =
      (error.result.map (·.transitions.map (·.traceEntry.map points))).getD [] := by
    simp only [account]
    cases error.result
    · rfl
    · simp
  exact Account.ext (FaultKind.points_message (texts ▸ told)) (FaultKind.points_className told)
    (FaultKind.points_original caused told) trace

section Spelling

variable {spacing : Json.Spacing}

theorem Json.chars_ofOption_map_points (text : Option String) :
    (ofOption (text.map points) : Json RawText).chars spacing = (ofOption text).chars spacing := by
  cases text <;> rfl

theorem TraceEntry.chars_map_points (entry : TraceEntry String) :
    (entry.map points : TraceEntry RawText).report.chars spacing = entry.report.chars spacing := by
  simp only [report, map, Json.chars, Json.fieldChars, Json.chars_ofOption_map_points]
  rfl

theorem TraceEntry.itemChars_map_points (trace : List (TraceEntry String)) :
    Json.itemChars spacing ((trace.map (map points)).map (report : TraceEntry RawText → _)) =
      Json.itemChars spacing (trace.map report) := by
  induction trace with
  | nil => rfl
  | cons entry trace ih =>
    simp only [List.map_cons, Json.itemChars, chars_map_points, ih]

/-- The text of a report over characters is that of the report over their code points. -/
theorem Account.reportText_map_points (account : Account String) :
    (account.map points : Account RawText).reportText = account.reportText := by
  have trace : (Json.arr ((account.trace.map (TraceEntry.map points)).map
        (TraceEntry.report : TraceEntry RawText → _))).chars .wide =
      (Json.arr (account.trace.map TraceEntry.report)).chars .wide := by
    cases account.trace with
    | nil => rfl
    | cons entry trace =>
      simp only [List.map_cons, Json.chars, TraceEntry.chars_map_points,
        TraceEntry.itemChars_map_points]
  simp only [reportText, Json.print, report, map, Json.chars, Json.fieldChars,
    Json.chars_ofOption_map_points, trace]
  rfl

end Spelling

/-- What consists of characters reads back as it is. -/
theorem Raised.parse?_reportText (error : Raised φ) :
    Json.parse? error.reportText = some error.report := by
  have kept : error.account.map (fun text => text) = error.account :=
    Account.map_eq_self_iff.mpr fun _ _ => rfl
  have reads := error.account.report_readsAs Function.injective_id Json.textReadsAs_self
    fun _ => rfl
  rw [kept] at reads
  exact reads.parse?_print

theorem Raised.reportText_of_engineError (error : Raised φ)
    (engine : error.fault.kind.isExecution) (caused : ∀ rest, error.fault.details ≠ .null :: rest) :
    ∃ shown : EngineError RawText,
      error.account.map points =
        shown.account (error.result.map (·.transitions.map (·.traceEntry.map points))) ∧
      error.reportText = (error.account.map points : Account RawText).reportText := by
  rw [← FaultKind.isSome_engineError?
    (error.fault.details.head?.map fun cause => points cause.plain)] at engine
  obtain ⟨shown, told⟩ := Option.isSome_iff_exists.mp engine
  exact ⟨shown, error.account_of_engineError caused told,
    error.account.reportText_map_points.symm⟩

end Engine

end Flowtrace

import TemplateBundler.Processor.Outcome
import TemplateBundler.Proofs.Failure
import TemplateBundler.Proofs.Text.Blank
import TemplateBundler.Proofs.Text.Bytes
import TemplateBundler.Proofs.Text.Slice

/-! # What outcomes say

Several things can go wrong with a processor at once. What is said of the job follows the first of
them: the program could not be started, it failed, it did not take the request, its output is no
response. Only a processor with which all of this went well is believed.
-/

namespace TemplateBundler.Processor

open Json (IsArray IsBlank IsObject Spells namedTexts)
open Text

variable {program : Path} {outcome : Outcome} {answer : Response} {output code message : String}
  {line column : Nat} {raw : List Char}

/-! ## Responses as they are written -/

/-- The parts of a response as they are written. -/
structure WrittenResponse where
  result : Option (List Char)
  error : Option (List Char)

/-- The parts stand under their names in an object, or in their order in an array. -/
inductive WrittenResponse.IsIn (written : WrittenResponse) : List Char → Prop
  | object {raw : List Char} {entries : List (String × List Char)} (h : IsObject raw entries)
      (hresult : namedTexts "result" entries = written.result.toList)
      (herror : namedTexts "error" entries = written.error.toList) : written.IsIn raw
  | array {raw : List Char} (h : IsArray raw (written.result.toList ++ written.error.toList))
      (herror : written.error.isSome → written.result.isSome) : written.IsIn raw

/-- What the parts of a response say. -/
structure WrittenResponse.Says (written : WrittenResponse) (answer : Response) : Prop where
  /-- A result is written as a text. -/
  result : ∀ code, answer.result = some code → ∃ inner,
    written.result = some ('"' :: (inner ++ ['"'])) ∧ Spells inner code.toList
  /-- There is no error if that part is absent or null, and only then. -/
  noError : answer.error = none ↔ written.error = none ∨ written.error = some "null".toList
  /-- A position stands in the error as its two numbers. -/
  position : ∀ message line column, answer.error = some ⟨message, some line, some column⟩ →
    ∃ raw, written.error = some raw ∧ ∃ report : WrittenReport, report.IsIn raw ∧
      report.line = some (Nat.toDigits 10 line) ∧ report.column = some (Nat.toDigits 10 column)

theorem ne_null_of_means {values : FailureReport.schema.Carrier}
    (h : FailureReport.schema.Means raw values) : raw ≠ "null".toList := by
  obtain ⟨items, ⟨-, inner, -, rfl⟩, -⟩ | ⟨entries, ⟨members, inner, -, -, rfl⟩, -⟩ := h
  · simp
  · simp

namespace WrittenResponse

variable {written : WrittenResponse} {result? : Option String}
  {error? : Option FailureReport.schema.Carrier}

theorem exists_inner (h : Schema.text.MeansPart written.result result?)
    (hcode : result? = some code) :
    ∃ inner, written.result = some ('"' :: (inner ++ ['"'])) ∧ Spells inner code.toList := by
  subst hcode
  cases hpart : written.result with
  | none =>
      rw [hpart] at h
      cases h
  | some raw =>
      rw [hpart] at h
      obtain ⟨inner, hspells, rfl⟩ := h
      exact ⟨inner, rfl, hspells⟩

theorem error_eq_none_iff (h : FailureReport.schema.MeansPart written.error error?) :
    error? = none ↔ written.error = none ∨ written.error = some "null".toList := by
  cases hpart : written.error with
  | none =>
      rw [hpart] at h
      have hnone : error? = none := h
      simp [hnone]
  | some raw =>
      rw [hpart] at h
      cases error? with
      | none =>
          have hnull : raw = "null".toList := h
          simp [hnull]
      | some values =>
          have hne : raw ≠ "null".toList := ne_null_of_means h
          simpa using hne

theorem exists_report (h : FailureReport.schema.MeansPart written.error error?)
    (herror : error? = some (message, some line, some column, ())) :
    ∃ raw, written.error = some raw ∧ ∃ report : WrittenReport, report.IsIn raw ∧
      report.line = some (Nat.toDigits 10 line) ∧
      report.column = some (Nat.toDigits 10 column) := by
  subst herror
  cases hpart : written.error with
  | none =>
      rw [hpart] at h
      cases h
  | some raw =>
      rw [hpart] at h
      obtain ⟨report, hreport, -, hline, hcolumn⟩ := WrittenReport.exists_of_means h
      exact ⟨raw, rfl, report, hreport, (hline.eq_some rfl).1, (hcolumn.eq_some rfl).1⟩

theorem says_of_means (hresult : Schema.text.MeansPart written.result result?)
    (herror : FailureReport.schema.MeansPart written.error error?) :
    written.Says (response.lift (result?, error?, ())) where
  result _ hcode := exists_inner hresult hcode
  noError := by
    rw [← error_eq_none_iff herror]
    exact Option.map_eq_none_iff
  position message line column h := by
    obtain ⟨⟨message, line, column, _⟩, herror', hlift⟩ := Option.map_eq_some_iff.mp h
    cases hlift
    exact exists_report herror herror'

theorem exists_of_means {values : responseSchema.Carrier} (h : responseSchema.Means raw values) :
    ∃ written : WrittenResponse, written.IsIn raw ∧ written.Says (response.lift values) := by
  obtain ⟨result?, error?, _⟩ := values
  obtain ⟨items, harray, hitems⟩ | ⟨entries, hobject, hresult, herror, -⟩ := h
  · obtain _ | ⟨result', _ | ⟨error', others⟩⟩ := items
    · obtain ⟨-, rfl, -, rfl, -⟩ := hitems
      exact ⟨⟨none, none⟩, .array harray (by simp), says_of_means rfl rfl⟩
    · obtain ⟨hresult, -, rfl, -⟩ := hitems
      exact ⟨⟨some result', none⟩, .array harray (by simp), says_of_means hresult rfl⟩
    · obtain ⟨hresult, herror, hothers⟩ := hitems
      obtain rfl : others = [] := hothers
      exact ⟨⟨some result', some error'⟩, .array harray (by simp), says_of_means hresult herror⟩
  · obtain ⟨result', hresult', hmeans⟩ := Schema.exists_part hresult
    obtain ⟨error', herror', hmeans'⟩ := Schema.exists_part herror
    exact ⟨⟨result', error'⟩, .object hobject hresult' herror', says_of_means hmeans hmeans'⟩

end WrittenResponse

/-- Among blanks, the text holds the parts of a response, and they say what the answer does. -/
def Response.IsWrittenIn (answer : Response) (text : List Char) : Prop :=
  ∃ (written : WrittenResponse) (before raw behind : List Char),
    text = before ++ (raw ++ behind) ∧ IsBlank before ∧ IsBlank behind ∧
      written.IsIn raw ∧ written.Says answer

theorem isWrittenIn_of_parse (h : response.parse output = .ok answer) :
    answer.IsWrittenIn output.toList := by
  obtain ⟨values, hparse, rfl⟩ := map_eq_ok_iff.mp h
  obtain ⟨before, raw, behind, htext, hbefore, hbehind, hmeans⟩ :=
    Schema.means_of_parse (by decide) hparse
  obtain ⟨written, hwritten, hsays⟩ := WrittenResponse.exists_of_means hmeans
  exact ⟨written, before, raw, behind, htext, hbefore, hbehind, hwritten, hsays⟩

/-! ## What a response says -/

theorem outcome_eq_ok_iff :
    answer.outcome = .ok code ↔ answer.error = none ∧ answer.result = some code := by
  obtain ⟨_ | result, _ | report⟩ := answer
  · simp [Response.outcome]
  · simp [Response.outcome]
  · simp [Response.outcome]
  · simp [Response.outcome]

theorem ofReport_eq_positioned_iff {report : FailureReport} :
    CompileFailure.ofReport report = .positioned message line column ↔
      report = ⟨message, some line, some column⟩ ∧ 0 < line ∧ 0 < column := by
  constructor
  · intro h
    have hposition := (CompileFailure.position?_ofReport report line column).mp (h ▸ rfl)
    have hmessage := CompileFailure.message_ofReport report
    rw [h] at hmessage
    obtain ⟨⟨hline, hpos⟩, hcolumn, hpos'⟩ := hposition
    refine ⟨?_, hpos, hpos'⟩
    cases report
    cases hmessage
    cases hline
    cases hcolumn
    rfl
  · rintro ⟨rfl, hline, hcolumn⟩
    simp [CompileFailure.ofReport, hline, hcolumn]

theorem outcome_eq_positioned_iff :
    answer.outcome = .error (.positioned message line column) ↔
      answer.error = some ⟨message, some line, some column⟩ ∧ 0 < line ∧ 0 < column := by
  obtain ⟨result, _ | report⟩ := answer
  · cases result with
    | none => simp [Response.outcome]
    | some code => simp [Response.outcome]
  · simp [Response.outcome, ofReport_eq_positioned_iff]

theorem readOutput_eq_ok_iff :
    readOutput output = .ok code ↔
      ∃ answer, response.parse output = .ok answer ∧
        answer.error = none ∧ answer.result = some code := by
  cases hparse : response.parse output with
  | error error => simp [readOutput, hparse]
  | ok answer => simp [readOutput, hparse, outcome_eq_ok_iff]

theorem readOutput_eq_positioned_iff :
    readOutput output = .error (.positioned message line column) ↔
      ∃ answer, response.parse output = .ok answer ∧
        answer.error = some ⟨message, some line, some column⟩ ∧ 0 < line ∧ 0 < column := by
  cases hparse : response.parse output with
  | error error => simp [readOutput, hparse]
  | ok answer => simp [readOutput, hparse, outcome_eq_positioned_iff]

/-! ## What an outcome says -/

/-- Nothing went wrong with the processor, and it has printed this response. -/
def Outcome.Answers (outcome : Outcome) (answer : Response) : Prop :=
  ∃ stdout stderr, outcome = .ran (.exited 0) stdout stderr none ∧
    response.parse stdout.shown = .ok answer

/-- The text is the front of the error output, without the blanks around it, that a message
has room for. -/
def IsQuote (stderr : Bytes) (quoted : String) : Prop :=
  ∃ trimmed, IsTrimmed stderr.shown.toList trimmed ∧ IsLongestFront 2000 trimmed quoted.toList

theorem isQuote_quotedErrors (stderr : Bytes) : IsQuote stderr (quotedErrors stderr) := by
  refine ⟨trimChars stderr.shown.toList, isTrimmed_trimChars _, ?_⟩
  rw [quotedErrors, truncate, trim, String.toList_ofList, String.toList_ofList]
  exact isLongestFront_takeBytes 2000 _

section

variable {ending : Ending} {stdout stderr : Bytes} {error : FileError}
  {writeError : Option FileError}

theorem result_refused : (Outcome.refused error).result program = .error (.unpositioned
    s!"Failed to spawn XJST processor ({program.shown}): {error.message}") := rfl

theorem result_failed (h : ending ≠ .exited 0) :
    (Outcome.ran ending stdout stderr writeError).result program = .error (.unpositioned
      s!"XJST processor failed (exit {endingName ending}): {quotedErrors stderr}") :=
  if_pos h

theorem result_unwritten :
    (Outcome.ran (.exited 0) stdout stderr (some error)).result program = .error (.unpositioned
      (s!"Failed to write to XJST processor stdin: {error.message}: " ++
        quotedErrors stderr)) := by
  rw [Outcome.result, if_neg (fun hne => hne rfl)]

theorem result_printed :
    (Outcome.ran (.exited 0) stdout stderr none).result program = readOutput stdout.shown := by
  rw [Outcome.result, if_neg (fun hne => hne rfl)]

theorem answers_iff :
    (Outcome.ran (.exited 0) stdout stderr none).Answers answer ↔
      response.parse stdout.shown = .ok answer := by
  constructor
  · rintro ⟨stdout, stderr, ⟨⟩, h⟩
    exact h
  · exact fun h => ⟨stdout, stderr, rfl, h⟩

end

/-- Whatever went wrong with a processor is told in a mere message, and it gives no answer then. -/
theorem unpositioned_or_printed (program : Path) (outcome : Outcome) :
    (∃ message, outcome.result program = .error (.unpositioned message)) ∧
        (∀ answer, ¬ outcome.Answers answer) ∨
      ∃ stdout stderr, outcome = .ran (.exited 0) stdout stderr none := by
  cases outcome with
  | refused error =>
      refine .inl ⟨⟨_, result_refused⟩, ?_⟩
      rintro answer ⟨stdout, stderr, ⟨⟩, -⟩
  | ran ending stdout stderr writeError =>
      by_cases hexited : ending = .exited 0
      · subst hexited
        cases writeError with
        | none => exact .inr ⟨stdout, stderr, rfl⟩
        | some error =>
            refine .inl ⟨⟨_, result_unwritten⟩, ?_⟩
            rintro answer ⟨stdout, stderr, ⟨⟩, -⟩
      · refine .inl ⟨⟨_, result_failed hexited⟩, ?_⟩
        rintro answer ⟨stdout, stderr, ⟨⟩, -⟩
        exact hexited rfl

theorem result_eq_ok_iff :
    outcome.result program = .ok code ↔
      ∃ answer, outcome.Answers answer ∧ answer.error = none ∧ answer.result = some code := by
  obtain ⟨⟨message, hresult⟩, hsilent⟩ | ⟨stdout, stderr, rfl⟩ :=
    unpositioned_or_printed program outcome
  · simp [hresult, hsilent]
  · simp only [result_printed, readOutput_eq_ok_iff, answers_iff]

theorem result_eq_positioned_iff :
    outcome.result program = .error (.positioned message line column) ↔
      ∃ answer, outcome.Answers answer ∧
        answer.error = some ⟨message, some line, some column⟩ ∧ 0 < line ∧ 0 < column := by
  obtain ⟨⟨message', hresult⟩, hsilent⟩ | ⟨stdout, stderr, rfl⟩ :=
    unpositioned_or_printed program outcome
  · simp [hresult, hsilent]
  · simp only [result_printed, readOutput_eq_positioned_iff, answers_iff]

theorem exists_unpositioned_iff {result : CompileResult} :
    (∃ message, result = .error (.unpositioned message)) ↔
      (∀ code, result ≠ .ok code) ∧
        ∀ message line column, result ≠ .error (.positioned message line column) := by
  obtain (⟨message, line, column⟩ | ⟨message⟩) | code := result
  · simp
  · simp
  · simp

theorem exists_result_unpositioned_iff :
    (∃ message, outcome.result program = .error (.unpositioned message)) ↔
      ∀ answer, outcome.Answers answer →
        (answer.error = none → answer.result = none) ∧
        ∀ message line column, answer.error = some ⟨message, some line, some column⟩ →
          line = 0 ∨ column = 0 := by
  rw [exists_unpositioned_iff]
  constructor
  · rintro ⟨hcode, hposition⟩ answer hanswer
    constructor
    · intro herror
      refine Option.eq_none_iff_forall_ne_some.mpr fun code hresult => ?_
      exact hcode code (result_eq_ok_iff.mpr ⟨answer, hanswer, herror, hresult⟩)
    · intro message line column herror
      by_contra hnonzero
      have hpositive : 0 < line ∧ 0 < column := by omega
      exact hposition message line column
        (result_eq_positioned_iff.mpr ⟨answer, hanswer, herror, hpositive⟩)
  · intro hneither
    constructor
    · intro code hresult
      obtain ⟨answer, hanswer, herror, hcode⟩ := result_eq_ok_iff.mp hresult
      rw [(hneither answer hanswer).1 herror] at hcode
      cases hcode
    · intro message line column hresult
      obtain ⟨answer, hanswer, herror, hpositive⟩ := result_eq_positioned_iff.mp hresult
      have hzero := (hneither answer hanswer).2 message line column herror
      omega

/-- Code is what a processor answered that ran well, took the whole request and printed a response
with a result and no error. A failure with a position is one that such a processor printed with
a line and a column from 1 on. All else is told without a position: first that the program did
not start or failed, then that it did not take the request, each with the front of what it
wrote about it, and its output only then. -/
theorem result_of_outcome (program : Path) (outcome : Outcome) :
    (∀ code, outcome.result program = .ok code ↔
      ∃ answer, outcome.Answers answer ∧ answer.error = none ∧ answer.result = some code) ∧
    (∀ message line column, outcome.result program = .error (.positioned message line column) ↔
      ∃ answer, outcome.Answers answer ∧
        answer.error = some ⟨message, some line, some column⟩ ∧ 0 < line ∧ 0 < column) ∧
    ((∃ message, outcome.result program = .error (.unpositioned message)) ↔
      ∀ answer, outcome.Answers answer →
        (answer.error = none → answer.result = none) ∧
        ∀ message line column, answer.error = some ⟨message, some line, some column⟩ →
          line = 0 ∨ column = 0) ∧
    (∀ stdout stderr answer, outcome = .ran (.exited 0) stdout stderr none →
      response.parse stdout.shown = .ok answer → answer.IsWrittenIn stdout.shown.toList) ∧
    (∀ error, outcome = .refused error → outcome.result program = .error (.unpositioned
      ("Failed to spawn XJST processor (" ++ program.shown ++ "): " ++ error.message))) ∧
    (∀ ending stdout stderr writeError, outcome = .ran ending stdout stderr writeError →
      ending ≠ .exited 0 → ∃ quoted, IsQuote stderr quoted ∧
        outcome.result program = .error (.unpositioned
          ("XJST processor failed (exit " ++ endingName ending ++ "): " ++ quoted))) ∧
    ∀ stdout stderr error, outcome = .ran (.exited 0) stdout stderr (some error) →
      ∃ quoted, IsQuote stderr quoted ∧
        outcome.result program = .error (.unpositioned
          ("Failed to write to XJST processor stdin: " ++ error.message ++ ": " ++ quoted)) := by
  refine ⟨fun _ => result_eq_ok_iff, fun _ _ _ => result_eq_positioned_iff,
    exists_result_unpositioned_iff, ?_, ?_, ?_, ?_⟩
  · exact fun _ _ _ _ hparse => isWrittenIn_of_parse hparse
  · rintro error rfl
    exact result_refused
  · rintro ending stdout stderr writeError rfl hfailed
    exact ⟨quotedErrors stderr, isQuote_quotedErrors stderr, result_failed hfailed⟩
  · rintro stdout stderr error rfl
    exact ⟨quotedErrors stderr, isQuote_quotedErrors stderr, result_unwritten⟩

/-- Code on the output of a program counts neither if the program fails nor if it does not take
the request, and the first of the two is told if both happen. -/
theorem result_of_outcome_broken_pipe :
    ∃ (stdout stderr : Bytes) (answer : Response), response.parse stdout.shown = .ok answer ∧
      answer.error = none ∧ answer.result = some "code" ∧
      (Outcome.ran (.exited 0) stdout stderr none).result (Path.ofText "node") = .ok "code" ∧
      answer.IsWrittenIn stdout.shown.toList ∧
      (∃ quoted, IsQuote stderr quoted ∧
        (Outcome.ran (.exited 3) stdout stderr (some .brokenPipe)).result (Path.ofText "node") =
          .error (.unpositioned ("XJST processor failed (exit 3): " ++ quoted))) ∧
      ∃ quoted, IsQuote stderr quoted ∧
        (Outcome.ran (.exited 0) stdout stderr (some .brokenPipe)).result (Path.ofText "node") =
          .error (.unpositioned ("Failed to write to XJST processor stdin: " ++
            "Broken pipe (os error 32)" ++ ": " ++ quoted)) := by
  let stdout := Bytes.ofText "\x7b\"result\":\"code\",\"error\":null\x7d"
  let stderr := Bytes.ofText "boom\n"
  have hparse : response.parse stdout.shown = .ok ⟨some "code", none⟩ := by
    rw [Bytes.shown_ofText]
    exact toOption_eq_some_iff.mp (by decide +kernel)
  obtain ⟨hcode, -, -, hwritten, -⟩ :=
    result_of_outcome (Path.ofText "node") (.ran (.exited 0) stdout stderr none)
  obtain ⟨-, -, -, -, -, hfailed, -⟩ :=
    result_of_outcome (Path.ofText "node") (.ran (.exited 3) stdout stderr (some .brokenPipe))
  obtain ⟨-, -, -, -, -, -, hunwritten⟩ :=
    result_of_outcome (Path.ofText "node") (.ran (.exited 0) stdout stderr (some .brokenPipe))
  refine ⟨stdout, stderr, ⟨some "code", none⟩, hparse, rfl, rfl, ?_, ?_, ?_, ?_⟩
  · exact (hcode "code").mpr ⟨_, ⟨stdout, stderr, rfl, hparse⟩, rfl, rfl⟩
  · exact hwritten stdout stderr _ rfl hparse
  · exact hfailed (.exited 3) stdout stderr (some .brokenPipe) rfl (by decide)
  · exact hunwritten stdout stderr .brokenPipe rfl

end TemplateBundler.Processor

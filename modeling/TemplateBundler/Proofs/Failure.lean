import TemplateBundler.Failure.Exchange
import TemplateBundler.Proofs.Schema.Meaning

/-! # Failures and their reports

A report is loosely shaped: its position may be half there, null or zero. What it says is settled
when it is read, so a failure that was read is written and read again unchanged.
-/

namespace TemplateBundler

open Json (IsArray IsBlank IsObject Spells namedTexts)

/-- The parts of a report as they are written. -/
structure WrittenReport where
  message : List Char
  line : Option (List Char)
  column : Option (List Char)

/-- The parts stand under their names in an object, or in their order in an array. -/
inductive WrittenReport.IsIn (report : WrittenReport) : List Char → Prop
  | object {raw : List Char} {entries : List (String × List Char)} (h : IsObject raw entries)
      (hmessage : namedTexts "message" entries = [report.message])
      (hline : namedTexts "line" entries = report.line.toList)
      (hcolumn : namedTexts "column" entries = report.column.toList) : report.IsIn raw
  | array {raw : List Char}
      (h : IsArray raw (report.message :: (report.line.toList ++ report.column.toList)))
      (hcolumn : report.column.isSome → report.line.isSome) : report.IsIn raw

namespace WrittenReport

/-- The part is there, and neither null nor zero. -/
def IsSet (part? : Option (List Char)) : Prop :=
  ∃ raw, part? = some raw ∧ raw ≠ "null".toList ∧ raw ≠ "0".toList

/-- The number that a part stands for, if it is there. -/
def Numbers : Option (List Char) → Option Nat → Prop
  | none, n? => n? = none
  | some raw, n? => (Schema.optional .natural).Means raw n?

variable {raw : List Char} {part? : Option (List Char)} {line? column? : Option Nat} {n : Nat}

theorem Numbers.eq_some {n? : Option Nat} (h : Numbers part? n?) (hn : n? = some n) :
    part? = some (Nat.toDigits 10 n) ∧ n ≤ maxNatural := by
  subst hn
  cases part? with
  | none => cases h
  | some raw => exact ⟨congrArg some h.1, h.2⟩

theorem Numbers.isSet_iff {n? : Option Nat} (h : Numbers part? n?) :
    IsSet part? ↔ ∃ n, n? = some n ∧ 0 < n := by
  constructor
  · rintro ⟨raw, rfl, hnull, hzero⟩
    cases n? with
    | none => exact absurd h hnull
    | some n =>
        refine ⟨n, rfl, Nat.pos_of_ne_zero ?_⟩
        rintro rfl
        exact hzero (h.1.trans (Nat.toDigits_zero 10))
  · rintro ⟨n, rfl, hn⟩
    refine ⟨Nat.toDigits 10 n, (h.eq_some rfl).1, ?_, ?_⟩
    · intro hnull
      have hdigit := (Json.isDigits_toDigits n).2 'n' (hnull ▸ List.mem_cons_self)
      exact absurd hdigit (by decide)
    · intro hzero
      exact Json.head?_toDigits_ne hn (hzero ▸ rfl)

theorem exists_part {name : String} {entries : List (String × List Char)} {n? : Option Nat}
    (h : namedTexts name entries = [] ∧ false = false ∧ n? = none ∨
      ∃ raw, namedTexts name entries = [raw] ∧ (Schema.optional .natural).Means raw n?) :
    ∃ part?, namedTexts name entries = Option.toList part? ∧ Numbers part? n? := by
  obtain ⟨part?, hpart, hmeans⟩ := @Schema.exists_part .natural name entries n? h
  cases part? with
  | none => exact ⟨none, hpart, hmeans⟩
  | some raw => exact ⟨some raw, hpart, hmeans⟩

/-- A text that means a report has its parts. -/
theorem exists_of_means {message : String}
    (h : FailureReport.schema.Means raw (message, line?, column?, ())) :
    ∃ report : WrittenReport, report.IsIn raw ∧ Schema.text.Means report.message message ∧
      Numbers report.line line? ∧ Numbers report.column column? := by
  obtain ⟨items, harray, hitems⟩ | ⟨entries, hobject, hmessage, hline, hcolumn, -⟩ := h
  · obtain _ | ⟨message', _ | ⟨line', _ | ⟨column', others⟩⟩⟩ := items
    · exact absurd hitems.1 (by decide)
    · obtain ⟨hmessage, -, rfl, -, rfl, -⟩ := hitems
      exact ⟨⟨message', none, none⟩, .array harray (by simp), hmessage, rfl, rfl⟩
    · obtain ⟨hmessage, hline, -, rfl, -⟩ := hitems
      exact ⟨⟨message', some line', none⟩, .array harray (by simp), hmessage, hline, rfl⟩
    · obtain ⟨hmessage, hline, hcolumn, hothers⟩ := hitems
      obtain rfl : others = [] := hothers
      exact ⟨⟨message', some line', some column'⟩, .array harray (by simp), hmessage, hline,
        hcolumn⟩
  · obtain ⟨-, hrequired, -⟩ | ⟨message', hmessage, hmeans⟩ := hmessage
    · exact absurd hrequired (by decide)
    · obtain ⟨line', hline, hlined⟩ := exists_part hline
      obtain ⟨column', hcolumn, hcolumned⟩ := exists_part hcolumn
      exact ⟨⟨message', line', column'⟩, .object hobject hmessage hline hcolumn, hmeans, hlined,
        hcolumned⟩

end WrittenReport

namespace CompileFailure

/-- The numbers of the position, if there is one, count from 1 and have at most 64 bits. -/
def Fits (failure : CompileFailure) : Prop :=
  ∀ line column, failure.position? = some (line, column) →
    (0 < line ∧ line ≤ maxNatural) ∧ 0 < column ∧ column ≤ maxNatural

variable {failure : CompileFailure} {report : FailureReport}

theorem ofReport_toReport (h : failure.Fits) : ofReport failure.toReport = failure := by
  cases failure with
  | positioned message line column =>
      obtain ⟨hline, hcolumn⟩ := h line column rfl
      simp [toReport, ofReport, hline.1, hcolumn.1]
  | unpositioned message => rfl

theorem message_ofReport (report : FailureReport) : (ofReport report).message = report.message := by
  rw [ofReport]
  split
  next =>
    split
    next => rfl
    next => rfl
  next => rfl

theorem position?_ofReport (report : FailureReport) (line column : Nat) :
    (ofReport report).position? = some (line, column) ↔
      (report.line = some line ∧ 0 < line) ∧ report.column = some column ∧ 0 < column := by
  obtain ⟨message, _ | line', _ | column'⟩ := report
  · simp [ofReport, position?]
  · simp [ofReport, position?]
  · simp [ofReport, position?]
  · by_cases hset : 0 < line' ∧ 0 < column'
    · have hreport : ofReport ⟨message, some line', some column'⟩ =
          .positioned message line' column' := by simp [ofReport, hset]
      rw [hreport, position?, Option.some_inj, Prod.mk.injEq, Option.some_inj, Option.some_inj]
      constructor
      · rintro ⟨rfl, rfl⟩
        exact ⟨⟨rfl, hset.1⟩, rfl, hset.2⟩
      · rintro ⟨⟨rfl, -⟩, rfl, -⟩
        exact ⟨rfl, rfl⟩
    · have hreport : ofReport ⟨message, some line', some column'⟩ = .unpositioned message := by
        simp [ofReport, hset]
      rw [hreport]
      constructor
      · intro h
        cases h
      · rintro ⟨⟨hline, hpos⟩, hcolumn, hpos'⟩
        cases hline
        cases hcolumn
        exact absurd ⟨hpos, hpos'⟩ hset

/-- What is written of a failure is read as that failure. -/
theorem parse_write_of_fits (h : failure.Fits) :
    exchange.parse (exchange.write failure) = .ok failure := by
  refine exchange.parse_write (by decide) ?_ (ofReport_toReport h)
  cases failure with
  | positioned message line column =>
      obtain ⟨hline, hcolumn⟩ := h line column rfl
      exact ⟨trivial, hline.2, hcolumn.2, trivial⟩
  | unpositioned message => exact ⟨trivial, trivial, trivial, trivial⟩

/-- A text that a failure is read from has its parts: the message, and a position that is complete
and not zero if and only if the failure has one. A failure that was read, or whose numbers fit, is
written and read again unchanged. -/
theorem exchange_parse_settles :
    (∀ text failure, exchange.parse text = .ok failure →
      ∃ (report : WrittenReport) (before raw behind inner : List Char),
        (text.toList = before ++ (raw ++ behind) ∧ IsBlank before ∧ IsBlank behind ∧
          report.IsIn raw) ∧
        (report.message = '"' :: (inner ++ ['"']) ∧ Spells inner failure.message.toList) ∧
        (failure.position?.isSome ↔
          WrittenReport.IsSet report.line ∧ WrittenReport.IsSet report.column) ∧
        (∀ line column, failure.position? = some (line, column) →
          report.line = some (Nat.toDigits 10 line) ∧
            report.column = some (Nat.toDigits 10 column)) ∧
        exchange.parse (exchange.write failure) = .ok failure) ∧
    ∀ failure : CompileFailure, failure.Fits →
      exchange.parse (exchange.write failure) = .ok failure := by
  refine ⟨?_, fun failure => parse_write_of_fits⟩
  intro text failure h
  obtain ⟨⟨message, line?, column?, _⟩, hparse, hlift⟩ := map_eq_ok_iff.mp h
  obtain ⟨before, raw, behind, htext, hbefore, hbehind, hmeans⟩ :=
    Schema.means_of_parse (by decide) hparse
  obtain ⟨report, hreport, ⟨inner, hspells, hmessage⟩, hline, hcolumn⟩ :=
    WrittenReport.exists_of_means hmeans
  obtain rfl : ofReport ⟨message, line?, column?⟩ = failure := hlift
  have hposition := position?_ofReport ⟨message, line?, column?⟩
  refine ⟨report, before, raw, behind, inner, ⟨htext, hbefore, hbehind, hreport⟩,
    ⟨hmessage, ?_⟩, ?_, ?_, parse_write_of_fits ?_⟩
  · rwa [message_ofReport]
  · rw [hline.isSet_iff, hcolumn.isSet_iff, Option.isSome_iff_exists]
    constructor
    · rintro ⟨⟨line, column⟩, hplace⟩
      obtain ⟨hline, hcolumn⟩ := (hposition line column).mp hplace
      exact ⟨⟨line, hline⟩, column, hcolumn⟩
    · rintro ⟨⟨line, hline⟩, column, hcolumn⟩
      exact ⟨_, (hposition line column).mpr ⟨hline, hcolumn⟩⟩
  · intro line column hplace
    obtain ⟨⟨hline', -⟩, hcolumn', -⟩ := (hposition line column).mp hplace
    exact ⟨(hline.eq_some hline').1, (hcolumn.eq_some hcolumn').1⟩
  · intro line column hplace
    obtain ⟨⟨hline', hpos⟩, hcolumn', hpos'⟩ := (hposition line column).mp hplace
    exact ⟨⟨hpos, (hline.eq_some hline').2⟩, hpos', (hcolumn.eq_some hcolumn').2⟩

/-- A line of null takes the column with it, and the greatest number comes back. -/
theorem exchange_parse_settles_half_position :
    let half := "\x7b\"column\":7,\"x\":[\"\\ud800\"],\"line\":null, \"message\":\"M\\u0041\"\x7d\n"
    let far := CompileFailure.positioned "\x7b\"é\n" maxNatural 1
    exchange.parse half = .ok (.unpositioned "MA") ∧
      (∃ report : WrittenReport, (∃ inner, report.message = '"' :: (inner ++ ['"']) ∧
        Spells inner "MA".toList) ∧
        ¬ (WrittenReport.IsSet report.line ∧ WrittenReport.IsSet report.column)) ∧
      exchange.parse (exchange.write (.unpositioned "MA")) = .ok (.unpositioned "MA") ∧
      far.Fits ∧ exchange.parse (exchange.write far) = .ok far := by
  intro half far
  have hhalf : exchange.parse half = .ok (.unpositioned "MA") :=
    toOption_eq_some_iff.mp (by decide +kernel)
  have hfar : far.Fits := by
    rintro _ _ ⟨⟩
    exact ⟨by decide, by decide⟩
  obtain ⟨report, _, _, _, inner, -, hmessage, hset, -, hwrite⟩ :=
    exchange_parse_settles.1 half _ hhalf
  have hunset : ¬ (WrittenReport.IsSet report.line ∧ WrittenReport.IsSet report.column) :=
    fun h => absurd (hset.mpr h) (by decide)
  exact ⟨hhalf, ⟨report, ⟨inner, hmessage⟩, hunset⟩, hwrite, hfar,
    exchange_parse_settles.2 far hfar⟩

end CompileFailure

end TemplateBundler

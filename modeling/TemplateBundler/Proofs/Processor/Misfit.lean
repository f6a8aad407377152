import TemplateBundler.Proofs.Decimal.Fraction
import TemplateBundler.Proofs.Decimal.Sign
import TemplateBundler.Proofs.Processor.Answer
import TemplateBundler.Proofs.Schema.Misfit

/-! # Positions that do not fit

The script passes on as a position whatever the compiler throws as one, and its answer is read as
natural numbers there. Where a line or a column is anything else but `null`, the answer as a whole
is not read, and what is said of the job is that, not what the compiler said.
-/

namespace TemplateBundler.Processor.Script

open Decimal (Written)
open Json (Reads Stops StopsMembers entryChars)

variable {thrown : Thrown} {message : String} {json : Json} {part line column : Option Json}
  {number : ℚ} {c : Char} {cs : List Char}

/-- A value that is neither `null` nor a natural number. -/
inductive IsLoose : Json → Prop
  | flag (value : Bool) : IsLoose (.flag value)
  | text (s : String) : IsLoose (.text s)
  | array (items : List Json) : IsLoose (.array items)
  | object (members : List (String × Json)) : IsLoose (.object members)
  | negative {n : Int} (h : n < 0) : IsLoose (.integer n)
  | fraction {x : Float} (hfinite : x.isFinite) (h : ∀ n : Nat, Decimal.value x ≠ n) :
      IsLoose (.float x)

/-! ## Parts of a position -/

/-- What begins so is no number for the reader of a position. -/
theorem stops_part_of_head (hc : c ∈ ['t', 'f', '"', '[', '\x7b', '-', 'N', 'I'])
    (cs : List Char) : Stops (Schema.optional .natural).read (c :: cs) := by
  have hheads : ∀ c ∈ ['t', 'f', '"', '[', '\x7b', '-', 'N', 'I'],
      c ∉ [' ', '\n', '\t', '\r'] ∧ c.isDigit = false ∧ c ≠ 'n' := by simp
  obtain ⟨hblank, hdigit, hnull⟩ := hheads c hc
  exact Schema.stops_some hblank hnull (Schema.stops_natural_of_head hblank hdigit cs)

/-- Digits are read as a position just if they are as a number. -/
theorem stops_part_of_digits (hne : cs ≠ []) (hc : ∀ c ∈ cs.head?, c.isDigit)
    (h : Stops Schema.natural.read cs) : Stops (Schema.optional .natural).read cs := by
  obtain ⟨c, cs, rfl⟩ := List.exists_cons_of_ne_nil hne
  have hdigit : c = '-' ∨ c.isDigit := .inr (hc c rfl)
  exact Schema.stops_some (Json.opens_of_number hdigit).notMem_blanks
    (Json.ne_of_number hdigit (by decide)) h

theorem stops_part_of_fraction {ds : List Char} (hne : ds ≠ []) (hds : ∀ d ∈ ds, d.isDigit)
    (hc : c = '.' ∨ c = 'e') (cs : List Char) :
    Stops (Schema.optional .natural).read (ds ++ c :: cs) := by
  obtain ⟨d, ds, rfl⟩ := List.exists_cons_of_ne_nil hne
  have hmark : c ∈ ['.', 'e', 'E'] := by
    obtain rfl | rfl := hc
    · decide
    · decide
  refine stops_part_of_digits (List.cons_ne_nil _ _) ?_
    (Schema.stops_natural_of_fraction ⟨hne, hds⟩ hmark cs)
  exact fun e he => hds e (Option.some.inj he ▸ List.mem_cons_self)

/-- Only a natural number is written as one that can be read. -/
theorem reads_or_stops_of_written (h : Written number cs) :
    ((∃ n : Nat, number = n) ∧ ∃ n, Reads (Schema.optional .natural).read cs (some n)) ∨
      Stops (Schema.optional .natural).read cs := by
  cases h with
  | @word c hc cs =>
      refine .inr (stops_part_of_head ?_ cs)
      exact List.subset_append_right ['t', 'f', '"', '[', '\x7b'] _ hc
  | whole hne hds hnumber =>
      obtain hread | hstop := Schema.reads_or_stops_digits ⟨hne, hds⟩
      · exact .inl ⟨⟨_, hnumber⟩, hread⟩
      · exact .inr (stops_part_of_digits hne (fun c hc => hds c (List.mem_of_mem_head? hc)) hstop)
  | fraction hne hds hc cs => exact .inr (stops_part_of_fraction hne hds hc cs)

theorem written_integer (n : Int) :
    Written (Decimal.value (Float.ofInt n)) (stringify (.integer n)).toList := by
  have htext : stringify (.integer n) = numberLayout.write (Float.ofInt n) := by
    rw [stringify, pieces]
    exact String.join_cons.trans String.append_empty
  rw [htext]
  exact Decimal.Notation.written_write rfl rfl rfl _

theorem written_float {x : Float} (hfinite : x.isFinite) :
    Written (Decimal.value x) (stringify (.float x)).toList := by
  rw [stringify_float hfinite]
  exact Decimal.Notation.written_write rfl rfl rfl x

/-- Neither `null` nor a natural number is written as one. -/
theorem IsLoose.stops (h : IsLoose json) :
    Stops (Schema.optional .natural).read (stringify json).toList := by
  cases h with
  | flag value =>
      cases value with
      | true => exact stops_part_of_head (by decide) ['r', 'u', 'e']
      | false => exact stops_part_of_head (by decide) ['a', 'l', 's', 'e']
  | text s =>
      change Stops _ (Json.text s).chars
      rw [Json.chars_text, Json.literal_toList]
      exact stops_part_of_head (by decide) _
  | array items =>
      rw [stringify, pieces, String.join_cons, String.toList_append]
      exact stops_part_of_head (by decide) _
  | object members =>
      rw [stringify, pieces, String.join_cons, String.toList_append]
      exact stops_part_of_head (by decide) _
  | @negative n hn =>
      obtain ⟨⟨k, hk⟩, -⟩ | hstop := reads_or_stops_of_written (written_integer n)
      · have hneg := Decimal.value_neg (Decimal.lt_toBits_ofInt hn)
        rw [hk] at hneg
        exact absurd hneg (not_lt.mpr (Nat.cast_nonneg k))
      · exact hstop
  | fraction hfinite hfraction =>
      obtain ⟨⟨n, hn⟩, -⟩ | hstop := reads_or_stops_of_written (written_float hfinite)
      · exact absurd hn (hfraction n)
      · exact hstop

theorem reads_or_stops_part (json : Json) :
    (∃ number?, Reads (Schema.optional .natural).read (stringify json).toList number?) ∨
      Stops (Schema.optional .natural).read (stringify json).toList := by
  cases json with
  | null => exact .inl ⟨none, Schema.reads_null⟩
  | flag value => exact .inr (IsLoose.flag value).stops
  | text s => exact .inr (IsLoose.text s).stops
  | array items => exact .inr (IsLoose.array items).stops
  | object members => exact .inr (IsLoose.object members).stops
  | integer n =>
      obtain ⟨-, n, hread⟩ | hstop := reads_or_stops_of_written (written_integer n)
      · exact .inl ⟨some n, hread⟩
      · exact .inr hstop
  | float x =>
      by_cases hfinite : x.isFinite
      · obtain ⟨-, n, hread⟩ | hstop := reads_or_stops_of_written (written_float hfinite)
        · exact .inl ⟨some n, hread⟩
        · exact .inr hstop
      · have hnull : stringify (.float x) = stringify .null := by
          rw [stringify, pieces, if_neg hfinite]
          rfl
        exact .inl ⟨none, hnull ▸ Schema.reads_null⟩

/-! ## Responses -/

/-- The members of a report as the script writes them. -/
def reportEntries (message : String) (line column : Option Json) : List (String × List Char) :=
  (reportMembers message line column).map fun member => (member.1, (stringify member.2).toList)

/-- Of the positions the one that does not fit ends the reading, or one before it. -/
theorem stopsMembers_report
    (hloose : (∃ json, line = some json ∧ IsLoose json) ∨ ∃ json, column = some json ∧ IsLoose json)
    (message : String) :
    StopsMembers reportFields.readMember reportFields.noSlots
      (reportEntries message line column) := by
  have hmessage : Reads (reportFields.readMember "message" reportFields.noSlots)
      (':' :: (Json.text message).chars) (some message, none, none, ()) :=
    Fields.reads_member_self (Schema.reads_text message)
  have hcolumn : ∀ (json : Json) (slot : Option (Option Nat)), IsLoose json →
      Stops (reportFields.readMember "column" (some message, slot, none, ()))
        (':' :: (stringify json).toList) := fun json slot h =>
    Fields.stops_member_of_ne (by decide) (Fields.stops_member_of_ne (by decide)
      (Fields.stops_member_self h.stops))
  refine .there hmessage ?_
  cases line with
  | none =>
      obtain ⟨json, hnone, -⟩ | ⟨json, rfl, hjson⟩ := hloose
      · cases hnone
      · exact .here (hcolumn json none hjson) []
  | some first =>
      have hline : Stops (Schema.optional .natural).read (stringify first).toList →
          Stops (reportFields.readMember "line" (some message, none, none, ()))
            (':' :: (stringify first).toList) := fun h =>
        Fields.stops_member_of_ne (by decide) (Fields.stops_member_self h)
      obtain ⟨number?, hread⟩ | hstop := reads_or_stops_part first
      · obtain ⟨json, hfirst, hjson⟩ | ⟨json, rfl, hjson⟩ := hloose
        · cases hfirst
          exact .here (hline hjson.stops) _
        · have hnumber : Reads (reportFields.readMember "line" (some message, none, none, ()))
              (':' :: (stringify first).toList) (some message, some number?, none, ()) :=
            Fields.reads_member_of_ne (by decide) (Fields.reads_member_self hread)
          exact .there hnumber (.here (hcolumn json _ hjson) [])
      · exact .here (hline hstop) _

theorem toList_stringify_report (message : String) (line column : Option Json) :
    (stringify (.object (reportMembers message line column))).toList =
      '\x7b' :: (Json.listed true ((reportEntries message line column).map entryChars) ++
        ['\x7d']) := by
  rw [toList_stringify_object isOrdinary_reportMembers, reportEntries, List.map_map]
  rfl

/-- The fields of a response. -/
@[reducible] def responseFields : Fields :=
  .cons "result" (.optional .text) false
    (.cons "error" (.optional FailureReport.schema) false .nil)

theorem stopsMembers_response {report : Json}
    (h : Stops (Schema.optional FailureReport.schema).read (stringify report).toList) :
    StopsMembers responseFields.readMember responseFields.noSlots
      [("error", (stringify report).toList)] :=
  .here (Fields.stops_member_of_ne (by decide) (Fields.stops_member_self h)) []

/-- An answer with a position that does not fit is not read. -/
theorem exists_parse_error
    (hloose : (∃ json, line = some json ∧ IsLoose json) ∨ ∃ json, column = some json ∧ IsLoose json)
    (message : String) :
    ∃ error, response.parse (stringify (.object [("error",
      .object (reportMembers message line column))])) = .error error := by
  have hreport : Stops (Schema.optional FailureReport.schema).read
      (stringify (.object (reportMembers message line column))).toList := by
    rw [toList_stringify_report]
    exact Schema.stops_some (by decide) (by decide)
      (Schema.stops_record (stopsMembers_report hloose message))
  have hanswer : Stops responseSchema.read (stringify (.object [("error",
      .object (reportMembers message line column))])).toList := by
    rw [toList_stringify_object
      (List.forall_mem_singleton.mpr (isOrdinary_names "error" (by decide)))]
    have hrecord := @Schema.stops_record _ "ProcessorResponse" _ (stopsMembers_response hreport)
    rw [List.map_singleton] at hrecord ⊢
    exact hrecord
  obtain ⟨error, hparse⟩ := Schema.exists_parse_error hanswer
  exact ⟨error, congrArg (response.lift <$> ·) hparse⟩

/-- The answer begins with the message. -/
theorem exists_stringify_answer (message : String) (line column : Option Json) :
    ∃ tail, stringify (.object [("error", .object (reportMembers message line column))]) =
      "\x7b\"error\":\x7b\"message\":" ++ Json.literal message ++ tail := by
  let others : List (String × List Char) := (memberOf "line" line ++ memberOf "column" column).map
    fun member => (member.1, (stringify member.2).toList)
  refine ⟨String.ofList (Json.listed false (others.map entryChars) ++ ['\x7d', '\x7d']), ?_⟩
  have hentries : reportEntries message line column =
      ("message", (Json.literal message).toList) :: others := by
    rw [reportEntries, reportMembers, List.map_cons, stringify_text, ← Json.chars_text]
    rfl
  have herror : (Json.literal "error").toList = "\"error\"".toList := by decide
  have hmessage : (Json.literal "message").toList = "\"message\"".toList := by decide
  rw [← String.toList_inj, toList_stringify_object
    (List.forall_mem_singleton.mpr (isOrdinary_names "error" (by decide))), List.map_singleton,
    toList_stringify_report, hentries]
  generalize others = others
  simp [Json.listed, entryChars, herror, hmessage]

/-! ## Answers -/

/-- The thrown value has this text for a message, and a line or a column that does not fit. -/
structure IsMisplaced (thrown : Thrown) (message : String) : Prop where
  message_eq : thrown.member? "message" = some (.text message)
  ne_empty : message ≠ ""
  isLoose : (∃ json, thrown.member? "line" = some json ∧ IsLoose json) ∨
    ∃ json, thrown.member? "column" = some json ∧ IsLoose json

/-- The script's answer begins with the message, nothing is read from it, and this is what is said
of the job, with the first bytes of the answer. -/
def SaysUnread (thrown : Thrown) (message : String) : Prop :=
  ∃ output error tail, (Generated.thrown thrown).output? = some output ∧
    output = "\x7b\"error\":\x7b\"message\":" ++ Json.literal message ++ tail ∧
    response.parse output = .error error ∧
    (Generated.thrown thrown).result = .error (.unpositioned
      (s!"Failed to parse XJST processor output: {error.message}\nOutput: " ++
        Text.truncate maxQuotedOutput output))

namespace IsMisplaced

theorem saysUnread (h : IsMisplaced thrown message) : SaysUnread thrown message := by
  have houtput := output?_of_message h.message_eq h.ne_empty
  obtain ⟨error, hparse⟩ := exists_parse_error h.isLoose message
  obtain ⟨tail, hanswer⟩ := exists_stringify_answer message (thrown.member? "line")
    (thrown.member? "column")
  refine ⟨_, error, tail, houtput, hanswer, hparse, ?_⟩
  rw [result_of_output? houtput, readOutput, hparse]

/-- Only a message that says itself that an answer was not read can be what is said of the job. -/
theorem exists_detail (h : IsMisplaced thrown message)
    (hresult : (Generated.thrown thrown).result = .error (.unpositioned message)) :
    ∃ detail, message = "Failed to parse XJST processor output: " ++ detail := by
  obtain ⟨output, error, -, -, -, -, hunread⟩ := h.saysUnread
  refine ⟨error.message ++ ("\nOutput: " ++ Text.truncate maxQuotedOutput output), ?_⟩
  rw [hunread] at hresult
  rw [← CompileFailure.unpositioned.inj (Except.error.inj hresult), String.append_assoc,
    String.append_assoc]
  rfl

end IsMisplaced

/-- If a line or a column is anything but `null` or a natural number, what is said of the job is
that the answer was not read. The message that was thrown stands in the bytes of the answer that
are quoted, escaped and perhaps cut off, but it is not what is said, unless it begins in the same
words. -/
theorem result_of_misplaced (h : IsMisplaced thrown message) :
    SaysUnread thrown message ∧
      ((Generated.thrown thrown).result = .error (.unpositioned message) →
        ∃ detail, message = "Failed to parse XJST processor output: " ++ detail) :=
  ⟨h.saysUnread, h.exists_detail⟩

/-- A line before the first. -/
theorem result_of_misplaced_negative_line :
    ∃ thrown : Thrown, IsMisplaced thrown "Bad" ∧ thrown.member? "line" = some (.integer (-1)) ∧
      SaysUnread thrown "Bad" ∧
      (Generated.thrown thrown).result ≠ .error (.unpositioned "Bad") := by
  have hmisplaced : IsMisplaced
      (.error [("message", .text "Bad"), ("line", .integer (-1)), ("column", .integer 7)]) "Bad" :=
    ⟨rfl, by decide, .inl ⟨_, rfl, .negative (by decide)⟩⟩
  obtain ⟨hunread, hdetail⟩ := result_of_misplaced hmisplaced
  refine ⟨_, hmisplaced, rfl, hunread, fun hresult => ?_⟩
  obtain ⟨detail, heq⟩ := hdetail hresult
  have hhead := congrArg (fun s : String => s.toList.head?) heq
  simp at hhead

/-- A line that is given as a text costs the message. -/
theorem result_loses_message_for_text_line :
    ∃ thrown : Thrown, thrown.member? "message" = some (.text "Unexpected token") ∧
      thrown.member? "line" = some (.text "3") ∧ thrown.member? "column" = some (.integer 7) ∧
      IsLoose (.text "3") ∧
      (Generated.thrown thrown).result ≠ .error (.unpositioned "Unexpected token") := by
  have hmisplaced : IsMisplaced (.error [("message", .text "Unexpected token"),
      ("line", .text "3"), ("column", .integer 7)]) "Unexpected token" :=
    ⟨rfl, by decide, .inl ⟨_, rfl, .text "3"⟩⟩
  refine ⟨_, hmisplaced.message_eq, rfl, rfl, .text "3", fun hresult => ?_⟩
  obtain ⟨detail, heq⟩ := hmisplaced.exists_detail hresult
  have hhead := congrArg (fun s : String => s.toList.head?) heq
  simp at hhead

end TemplateBundler.Processor.Script

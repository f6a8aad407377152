import TemplateBundler.Processor.Script
import TemplateBundler.Proofs.Processor.Request
import TemplateBundler.Proofs.Processor.Stringify
import TemplateBundler.Proofs.Schema.JsonText
import TemplateBundler.Proofs.Text.Bytes

/-! # What the script answers

What is said of a job when the bundled script has answered: the compiler's code, or the message
and the position of what the compiler threw, each exactly as it was.
-/

namespace TemplateBundler.Processor.Script

open Json (Cursor ReadError Reads ReadsMembers)

variable {generated : Generated} {thrown : Thrown} {output name message : String}
  {json : Json} {part written? : Option Json} {number? line column : Option Nat}

/-! ## Parts of a position -/

/-- What a part of a position says: a number, or nothing if it is absent or null. -/
inductive SaysPart : Option Json → Option Nat → Prop
  | absent : SaysPart none none
  | null : SaysPart (some .null) none
  | number {json : Json} {n : Nat} (h : IsNumber n json) (hlt : n < 2 ^ 53) :
      SaysPart (some json) (some n)

/-- What is read of a part as it was written. -/
inductive ReadsPart : Option Json → Option Nat → Prop
  | absent : ReadsPart none none
  | present {json : Json} {number? : Option Nat}
      (h : Reads (Schema.optional .natural).read json.chars number?) : ReadsPart (some json) number?

/-- What a part says is read from what is written of it. -/
theorem SaysPart.exists_written (h : SaysPart part number?) :
    ∃ written?, part.map stringify = written?.map Json.render ∧ ReadsPart written? number? := by
  cases h with
  | absent => exact ⟨none, rfl, .absent⟩
  | null => exact ⟨some .null, rfl, .present Schema.reads_null⟩
  | @number json n h hlt =>
      refine ⟨some (.integer n), congrArg some (stringify_number h hlt), .present ?_⟩
      exact Schema.reads_some_natural (Nat.le_trans (Nat.le_of_lt hlt) (by decide))

/-- Reading the member of a part fills its slot, if there is such a member. -/
theorem ReadsPart.readsMembers (h : ReadsPart written? number?) (fields : Fields) (name : String)
    (put : Option (Option Nat) → fields.Slots)
    (hput : ∀ {json : Json} {number? : Option Nat},
      Reads (Schema.optional .natural).read json.chars number? →
        Reads (fields.readMember name (put none)) (':' :: json.chars) (put (some number?))) :
    ∃ slot, slot.getD none = number? ∧
      ReadsMembers fields.readMember (put none) (memberOf name written?) (put slot) := by
  cases h with
  | absent => exact ⟨none, rfl, .nil _⟩
  | present h => exact ⟨some number?, rfl, .cons (hput h) (.nil _)⟩

/-! ## Responses -/

/-- The fields of a report. -/
@[reducible] def reportFields : Fields :=
  .cons "message" .text true
    (.cons "line" (.optional .natural) false (.cons "column" (.optional .natural) false .nil))

/-- The members of a report as it is written. -/
def reportMembers (message : String) (line? column? : Option Json) : List (String × Json) :=
  ("message", .text message) :: (memberOf "line" line? ++ memberOf "column" column?)

theorem reads_report {line? column? : Option Json} (hline : ReadsPart line? line)
    (hcolumn : ReadsPart column? column) (message : String) :
    Reads FailureReport.schema.read (Json.object (reportMembers message line? column?)).chars
      (message, line, column, ()) := by
  obtain ⟨lineSlot, rfl, hreadLine⟩ := hline.readsMembers reportFields "line"
    (fun slot => (some message, slot, none, ()))
    fun h => Fields.reads_member_of_ne (by decide) (Fields.reads_member_self h)
  obtain ⟨columnSlot, rfl, hreadColumn⟩ := hcolumn.readsMembers reportFields "column"
    (fun slot => (some message, lineSlot, slot, ()))
    fun h => Fields.reads_member_of_ne (by decide)
      (Fields.reads_member_of_ne (by decide) (Fields.reads_member_self h))
  have hreadMessage : Reads (reportFields.readMember "message" reportFields.noSlots)
      (':' :: (Json.text message).chars) (some message, none, none, ()) :=
    Fields.reads_member_self (Schema.reads_text message)
  refine Schema.reads_record (.cons hreadMessage (hreadLine.append hreadColumn)) ?_
  cases lineSlot <;> cases columnSlot <;> rfl

theorem parse_response {values : responseSchema.Carrier}
    (h : Reads responseSchema.read json.chars values) :
    response.parse json.render = .ok (response.lift values) :=
  congrArg (response.lift <$> ·) (Schema.parse_render h)

theorem parse_result (code : String) :
    response.parse (Json.object [("result", .text code)]).render = .ok { result := some code } := by
  have hread : Reads responseSchema.read (Json.object [("result", .text code)]).chars
      (some code, none, ()) := by
    refine Schema.reads_record (.cons ?_ (.nil (some (some code), none, ()))) rfl
    exact Fields.reads_member_self (Schema.reads_some_text code)
  exact parse_response hread

theorem parse_error {line? column? : Option Json} (hline : ReadsPart line? line)
    (hcolumn : ReadsPart column? column) (message : String) :
    response.parse (Json.object [("error", .object (reportMembers message line? column?))]).render =
      .ok { error := some { message, line, column } } := by
  have hreport := Schema.reads_some (Json.chars_object _) (by decide) (by decide)
    (reads_report hline hcolumn message)
  have hread : Reads responseSchema.read
      (Json.object [("error", .object (reportMembers message line? column?))]).chars
      (none, some (message, line, column, ()), ()) := by
    refine Schema.reads_record
      (.cons ?_ (.nil (none, some (some (message, line, column, ())), ()))) rfl
    exact Fields.reads_member_of_ne (by decide) (Fields.reads_member_self hreport)
  exact parse_response hread

/-! ## Answers -/

/-- What the script writes is read as it is. -/
theorem result_of_output? (h : generated.output? = some output) :
    generated.result = readOutput output := by
  rw [Generated.result, Generated.outcome, h, Outcome.result, if_neg (fun hne => hne rfl),
    Bytes.shown_ofText]

theorem isOrdinary_names :
    ∀ name ∈ ["result", "error", "message", "line", "column"], IsOrdinary name := by
  have hproto : ∀ name ∈ ["result", "error", "message", "line", "column"], name ≠ protoName := by
    decide
  have hplace : ∀ name ∈ ["result", "error", "message", "line", "column"],
      name.toList.any fun c => !c.isDigit && c != '_' := by
    decide
  exact fun name hname => ⟨hproto name hname, placeName?_eq_none (hplace name hname)⟩

theorem output?_value (code : String) :
    (Generated.value (.text code)).output? =
      some (Json.object [("result", .text code)]).render := by
  refine congrArg some (stringify_object ?_ rfl)
  exact List.forall_mem_singleton.mpr (isOrdinary_names "result" (by decide))

/-- A value with a message that is there is true for the language. -/
theorem isTruthy_of_member? (h : thrown.member? name = some json) : thrown.isTruthy := by
  cases thrown with
  | nothing => cases h
  | error members => rfl
  | value json => cases json <;> first | rfl | cases h

theorem map_memberOf (text : Json → String) (name : String) (value? : Option Json) :
    (memberOf name value?).map (fun member => (member.1, text member.2)) =
      ((value?.map text).map fun text => (name, text)).toList := by
  cases value? <;> rfl

theorem isOrdinary_reportMembers {message : String} {line? column? : Option Json} :
    ∀ member ∈ reportMembers message line? column?, IsOrdinary member.1 := by
  intro member hmember
  have hkeys : member.1 ∈ ["message", "line", "column"] := by
    have hparts := (keys_memberOf "line" line?).append (keys_memberOf "column" column?)
    rw [← List.map_append] at hparts
    exact (hparts.cons_cons "message").subset (List.mem_map_of_mem hmember)
  exact isOrdinary_names member.1 (List.mem_cons_of_mem _ (List.mem_cons_of_mem _ hkeys))

theorem stringify_report {line? column? line' column' : Option Json}
    (hline : line?.map stringify = line'.map Json.render)
    (hcolumn : column?.map stringify = column'.map Json.render) (message : String) :
    stringify (.object (reportMembers message line? column?)) =
      (Json.object (reportMembers message line' column')).render := by
  refine stringify_object isOrdinary_reportMembers ?_
  simp only [reportMembers, List.map_cons, List.map_append, map_memberOf, hline, hcolumn,
    stringify_text]

/-- What is thrown with a message is reported with it, and with its position as it is. -/
theorem output?_of_message (hmessage : thrown.member? "message" = some (.text message))
    (hne : message ≠ "") :
    (Generated.thrown thrown).output? = some (stringify (.object [("error", .object
      (reportMembers message (thrown.member? "line") (thrown.member? "column")))])) := by
  have hpart : thrown.part? = thrown.member? :=
    funext fun name => if_pos (isTruthy_of_member? hmessage)
  have htrue : isTruthy (.text message) := by simpa [isTruthy] using hne
  have hsaid : thrown.message? = some message := by
    rw [Thrown.message?, hmessage, Option.filter_some, if_pos htrue]
    rfl
  rw [Generated.output?, hsaid, hpart]
  rfl

theorem output?_thrown {line? column? : Option Json}
    (hmessage : thrown.member? "message" = some (.text message)) (hne : message ≠ "")
    (hline : (thrown.member? "line").map stringify = line?.map Json.render)
    (hcolumn : (thrown.member? "column").map stringify = column?.map Json.render) :
    (Generated.thrown thrown).output? =
      some (Json.object [("error", .object (reportMembers message line? column?))]).render := by
  have hwritten := stringify_report hline hcolumn message
  have hname := isOrdinary_names "error" (by decide)
  rw [output?_of_message hmessage hne]
  refine congrArg some (stringify_object (List.forall_mem_singleton.mpr hname) ?_)
  simp only [List.map_cons, List.map_nil, hwritten]

theorem ofReport_eq (message : String) (line column : Option Nat) :
    CompileFailure.ofReport { message, line, column } =
      if 1 ≤ line.getD 0 ∧ 1 ≤ column.getD 0 then
        .positioned message (line.getD 0) (column.getD 0)
      else .unpositioned message := by
  cases line with
  | none => rfl
  | some line =>
      cases column with
      | none => simp [CompileFailure.ofReport]
      | some column => simp [CompileFailure.ofReport, Nat.one_le_iff_ne_zero, Nat.pos_iff_ne_zero]

/-- What is said of a job is the compiler's code, whatever it looks like, or what the compiler
threw: its message, and its position if there is a line and a column and neither is zero. -/
theorem result_reads_back :
    (∀ code : String, (Generated.value (.text code)).result = .ok code) ∧
    ∀ (thrown : Thrown) (message : String) (line column : Option Nat),
      thrown.member? "message" = some (.text message) → message ≠ "" →
      SaysPart (thrown.member? "line") line → SaysPart (thrown.member? "column") column →
      (Generated.thrown thrown).result =
        .error (if 1 ≤ line.getD 0 ∧ 1 ≤ column.getD 0 then
          .positioned message (line.getD 0) (column.getD 0) else .unpositioned message) := by
  constructor
  · intro code
    rw [result_of_output? (output?_value code), readOutput, parse_result]
    rfl
  · intro thrown message line column hmessage hne hline hcolumn
    obtain ⟨line?, hwrittenLine, hline⟩ := hline.exists_written
    obtain ⟨column?, hwrittenColumn, hcolumn⟩ := hcolumn.exists_written
    rw [result_of_output? (output?_thrown hmessage hne hwrittenLine hwrittenColumn), readOutput,
      parse_error hline hcolumn]
    exact congrArg Except.error (ofReport_eq message line column)

/-- A message that looks like an answer is still a message. -/
theorem result_reads_back_lookalike :
    ∃ thrown : Thrown,
      thrown.member? "message" = some (.text "\x7b\"result\":\"\"\x7d") ∧
      "\x7b\"result\":\"\"\x7d" ≠ "" ∧
      SaysPart (thrown.member? "line") (some 12) ∧ SaysPart (thrown.member? "column") (some 4) ∧
      (Generated.thrown thrown).result =
        .error (.positioned "\x7b\"result\":\"\"\x7d" 12 4) := by
  have hline : SaysPart (some (.float (Float.ofNat 12))) (some 12) :=
    .number (.float 12) (by decide)
  have hcolumn : SaysPart (some (.integer 4)) (some 4) := .number (.integer 4) (by decide)
  refine ⟨.error [("message", .text "\x7b\"result\":\"\"\x7d"),
    ("line", .float (Float.ofNat 12)), ("column", .integer 4)], rfl, by decide, hline, hcolumn, ?_⟩
  exact result_reads_back.2 _ _ (some 12) (some 4) rfl (by decide) hline hcolumn

end TemplateBundler.Processor.Script

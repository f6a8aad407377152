import Mathlib.Order.Interval.Set.Defs
import Mathlib.Order.Nat
import TemplateBundler.Proofs.LineTable

/-! # The ranges of lines

The lines of a table are ranges of bytes. Those of a text's own table hold its lines, in order, and
between two of them stands only what ends the first.
-/

namespace TemplateBundler

open Text

/-- The range lies in the text, begins and ends between characters, and this is what stands
there. -/
def ByteRange.Holds (range : ByteRange) (text found : String) : Prop :=
  ∃ before after, text = before ++ found ++ after ∧ range.start = before.utf8ByteSize ∧
    range.stop = range.start + found.utf8ByteSize

theorem ByteRange.Holds.stop_eq {range : ByteRange} {text found : String}
    (h : range.Holds text found) : range.stop = range.start + found.utf8ByteSize := by
  obtain ⟨_, _, -, -, hstop⟩ := h
  exact hstop

theorem ByteRange.holds_iff {range : ByteRange} {text : String} {found : List Char} :
    range.Holds text (String.ofList found) ↔
      slice? range.start range.stop text.toList = some found := by
  rw [slice?_eq_some_iff, Holds]
  constructor
  · rintro ⟨before, after, rfl, hstart, hstop⟩
    refine ⟨before.toList, after.toList, by simp, ?_, ?_⟩
    · rw [byteLength_toList, hstart]
    · rw [hstop, ← byteLength_toList, String.toList_ofList]
  · rintro ⟨before, after, htext, hstart, hstop⟩
    refine ⟨String.ofList before, String.ofList after, ?_, ?_, ?_⟩
    · rw [← String.toList_inj, htext]
      simp
    · rw [hstart, ← byteLength_toList, String.toList_ofList]
    · rw [hstop, ← byteLength_toList, String.toList_ofList]

namespace LineTable

variable {table : LineTable} {text found : String} {number other : Nat} {range next : ByteRange}
  {before line after : List Char}

/-! ## Any table -/

theorem lineRange?_of_mem (h : number ∈ Set.Icc 1 table.lineCount) :
    table.lineRange? number text = some ⟨table.lineStart number,
      if table.lineStart number < table.lineBreak number &&
        returnsAt text (table.lineBreak number - 1) then table.lineBreak number - 1
      else table.lineBreak number⟩ := by
  have hfound : ¬ (number = 0 || table.lineCount < number) = true := by
    rw [Set.mem_Icc] at h
    simp only [Bool.or_eq_true, decide_eq_true_eq]
    omega
  rw [lineRange?, if_neg hfound]
  dsimp only
  split
  next => rfl
  next => rfl

theorem lineRange?_of_not_mem (h : number ∉ Set.Icc 1 table.lineCount) :
    table.lineRange? number text = none := by
  have hout : (number = 0 || table.lineCount < number) = true := by
    rw [Set.mem_Icc] at h
    simp only [Bool.or_eq_true, decide_eq_true_eq]
    omega
  rw [lineRange?, if_pos hout]

/-- A table has a range for each line that it counts, and for no other. -/
theorem isSome_lineRange?_iff :
    (table.lineRange? number text).isSome ↔ number ∈ Set.Icc 1 table.lineCount := by
  by_cases hin : number ∈ Set.Icc 1 table.lineCount
  · simp [lineRange?_of_mem hin, hin]
  · simp [lineRange?_of_not_mem hin, hin]

theorem mem_Icc_of_lineRange? (h : table.lineRange? number text = some range) :
    number ∈ Set.Icc 1 table.lineCount :=
  isSome_lineRange?_iff.mp (Option.isSome_of_eq_some h)

theorem start_of_lineRange? (h : table.lineRange? number text = some range) :
    range.start = table.lineStart number := by
  rw [lineRange?_of_mem (mem_Icc_of_lineRange? h), Option.some.injEq] at h
  exact h ▸ rfl

/-- A line has the text that its range holds. -/
theorem lineText?_eq_some_iff : table.lineText? number text = some found ↔
    ∃ range, table.lineRange? number text = some range ∧ range.Holds text found := by
  constructor
  · intro h
    obtain ⟨range, hrange, h⟩ := Option.bind_eq_some_iff.mp h
    obtain ⟨cs, hslice, h⟩ := Option.bind_eq_some_iff.mp h
    obtain rfl : String.ofList cs = found := Option.some.inj h
    exact ⟨range, hrange, ByteRange.holds_iff.mpr hslice⟩
  · rintro ⟨range, hrange, hholds⟩
    rw [← String.ofList_toList (s := found), ByteRange.holds_iff] at hholds
    simp [lineText?, hrange, hholds]

/-- A line starts right behind the break of the one before it. -/
theorem lineStart_succ (hpos : 0 < number) (hle : number ≤ table.breaks.length) :
    table.lineStart (number + 1) = table.lineBreak number + 1 := by
  have hbreak : table.breaks[number - 1]? = some table.breaks[number - 1] :=
    List.getElem?_eq_getElem (by omega)
  have hlater : ¬ number + 1 ≤ 1 := by omega
  rw [lineStart, lineBreak, if_neg hlater, show number + 1 - 2 = number - 1 by omega, hbreak]
  rfl

theorem le_length_breaks (hlt : number < table.lineCount) : number ≤ table.breaks.length := by
  rw [lineCount] at hlt
  split at hlt
  next => omega
  next => omega

/-! ## The table of a text -/

theorem exists_holds_of_lineRange? (h : (ofText text).lineRange? number text = some range) :
    ∃ found, (ofText text).lineText? number text = some found ∧ range.Holds text found := by
  obtain ⟨hpos, hle⟩ := mem_Icc_of_lineRange? h
  obtain ⟨before, line, after, hline⟩ := exists_lineAt_of_le_lineCount hpos hle
  obtain ⟨found, hfound, hholds⟩ := lineText?_eq_some_iff.mp (lineText?_ofText hline)
  obtain rfl : range = found := Option.some.inj (h.symm.trans hfound)
  exact ⟨_, lineText?_ofText hline, hholds⟩

/-- Only the last line may lack a line feed. -/
theorem exists_lineFeed (hline : LineAt text.toList number before line after)
    (hlt : number < (ofText text).lineCount) : ∃ rest, after = '\n' :: rest := by
  obtain hended | ⟨rfl, -⟩ := hline.ended
  · exact hended
  · have hcount : text.toList.count '\n' = before.count '\n' := by
      simp [hline.split, List.count_eq_zero.mpr hline.unbroken]
    have hcounted := hline.counted
    rw [lineCount_ofText_of_not_fresh hline.not_fresh] at hlt
    omega

theorem holds_ending {content ending rest : List Char}
    (hsplit : text.toList = before ++ (content ++ ending) ++ '\n' :: rest) :
    (ByteRange.mk (byteLength before + byteLength content)
      (byteLength before + byteLength (content ++ ending) + 1)).Holds text
        (String.ofList (ending ++ ['\n'])) := by
  refine ByteRange.holds_iff.mpr (slice?_eq_some_iff.mpr
    ⟨before ++ content, rest, by simp [hsplit], (byteLength_append _ _).symm, ?_⟩)
  simp only [byteLength_append, byteLength_cons, byteLength_nil, show '\n'.utf8Size = 1 from rfl]
  omega

/-- What stands between two lines is a line feed, perhaps with a carriage return before it. -/
theorem holds_between (hrange : (ofText text).lineRange? number text = some range)
    (hnext : (ofText text).lineRange? (number + 1) text = some next) :
    (ByteRange.mk range.stop next.start).Holds text "\n" ∨
      (ByteRange.mk range.stop next.start).Holds text "\r\n" := by
  obtain ⟨hpos, -⟩ := mem_Icc_of_lineRange? hrange
  obtain ⟨-, hlt⟩ := mem_Icc_of_lineRange? hnext
  obtain ⟨before, line, after, hline⟩ := exists_lineAt_of_le_lineCount hpos (Nat.le_of_lt hlt)
  obtain ⟨rest, rfl⟩ := exists_lineFeed hline hlt
  have hstop : range = ⟨byteLength before, byteLength before + byteLength (dropReturn line)⟩ :=
    Option.some.inj (hrange.symm.trans (lineRange?_ofText hline))
  have hstart : next.start = byteLength before + byteLength line + 1 := by
    rw [start_of_lineRange? hnext, lineStart_succ hpos (le_length_breaks hlt),
      lineBreak_ofText hline]
  rw [hstart, hstop]
  have hparts := eq_dropReturn_or line
  generalize dropReturn line = content at hparts
  obtain rfl | rfl := hparts
  · have hended : text.toList = before ++ (line ++ []) ++ '\n' :: rest := by simp [hline.split]
    have hholds := holds_ending hended
    rw [List.append_nil] at hholds
    exact .inl hholds
  · exact .inr (holds_ending hline.split)

theorem stop_lt_start_succ (hrange : (ofText text).lineRange? number text = some range)
    (hnext : (ofText text).lineRange? (number + 1) text = some next) : range.stop < next.start := by
  obtain h | h := holds_between hrange hnext
  · have hstop : next.start = range.stop + 1 := h.stop_eq
    omega
  · have hstop : next.start = range.stop + 2 := h.stop_eq
    omega

/-- The ranges of lines follow each other in the order of the lines. -/
theorem stop_lt_start (hrange : (ofText text).lineRange? number text = some range)
    (hnext : (ofText text).lineRange? other text = some next) (hlt : number < other) :
    range.stop < next.start := by
  induction other, hlt using Nat.le_induction generalizing next with
  | base => exact stop_lt_start_succ hrange hnext
  | succ other hle ih =>
      obtain ⟨-, hcount⟩ := mem_Icc_of_lineRange? hnext
      have hother : 1 ≤ other ∧ other ≤ (ofText text).lineCount := by omega
      obtain ⟨middle, hmiddle⟩ := Option.isSome_iff_exists.mp (isSome_lineRange?_iff.mpr hother)
      obtain ⟨_, -, hholds⟩ := exists_holds_of_lineRange? hmiddle
      calc
        range.stop < middle.start := ih hmiddle
        _ ≤ middle.stop := hholds.stop_eq ▸ Nat.le_add_right _ _
        _ < next.start := stop_lt_start_succ hmiddle hnext

theorem isTerminated_ofText_iff :
    (ofText text).isTerminated ↔ text = "" ∨ ∃ front, text = front ++ "\n" := by
  rw [isTerminated_ofText]
  constructor
  · intro hfresh
    obtain hnil | ⟨front, hfront⟩ := hfresh.eq_nil_or_append
    · exact .inl (String.toList_eq_nil_iff.mp hnil)
    · refine .inr ⟨String.ofList front, ?_⟩
      rw [← String.toList_inj, hfront]
      simp
  · rintro (rfl | ⟨front, rfl⟩)
    · exact fresh_nil
    · rw [String.toList_append]
      exact fresh_append_lineFeed _

/-- The table of a text counts its lines and finds each of them by its number, counted from 1. It
has a range for each line, which holds the line; the ranges follow each other, and between two lines
there is only what ends the first. The text is called terminated if no line of it is left open. -/
theorem ofText_finds_lines (text : String) :
    (ofText text).lineCount = (lines text).length ∧
    (ofText text).lineText? 0 text = none ∧
    (∀ place, (ofText text).lineText? (place + 1) text = (lines text)[place]?) ∧
    (∀ number, ((ofText text).lineRange? number text).isSome ↔
      number ∈ Set.Icc 1 (ofText text).lineCount) ∧
    (∀ number range, (ofText text).lineRange? number text = some range →
      ∃ found, (ofText text).lineText? number text = some found ∧ range.Holds text found) ∧
    (∀ number other range next, (ofText text).lineRange? number text = some range →
      (ofText text).lineRange? other text = some next → number < other → range.stop < next.start) ∧
    (∀ number range next, (ofText text).lineRange? number text = some range →
      (ofText text).lineRange? (number + 1) text = some next →
      (ByteRange.mk range.stop next.start).Holds text "\n" ∨
        (ByteRange.mk range.stop next.start).Holds text "\r\n") ∧
    ((ofText text).isTerminated ↔ text = "" ∨ ∃ front, text = front ++ "\n") :=
  ⟨lineCount_ofText text, rfl, fun place => lineText?_ofText_eq_getElem? (Nat.succ_pos place),
    fun _ => isSome_lineRange?_iff, fun _ _ => exists_holds_of_lineRange?,
    fun _ _ _ _ => stop_lt_start, fun _ _ _ => holds_between, isTerminated_ofText_iff⟩

/-- A carriage return belongs to what ends a line also where nothing else stands on it. -/
theorem ofText_finds_lines_of_returns :
    let text := "é\r\n\r\nb\r"
    (ofText text).lineRange? 1 text = some ⟨0, 2⟩ ∧ (ofText text).lineRange? 2 text = some ⟨4, 4⟩ ∧
      1 < 2 ∧ (∃ found, (ofText text).lineText? 2 text = some found ∧
        (ByteRange.mk 4 4).Holds text found) ∧
      2 < 4 ∧ ((ByteRange.mk 2 4).Holds text "\n" ∨ (ByteRange.mk 2 4).Holds text "\r\n") := by
  intro text
  have hfirst : (ofText text).lineRange? 1 text = some ⟨0, 2⟩ := by decide
  have hsecond : (ofText text).lineRange? 2 text = some ⟨4, 4⟩ := by decide
  obtain ⟨-, -, -, -, hholds, hlt, hbetween, -⟩ := ofText_finds_lines text
  exact ⟨hfirst, hsecond, by decide, hholds 2 _ hsecond, hlt 1 2 _ _ hfirst hsecond (by decide),
    hbetween 1 _ _ hfirst hsecond⟩

end LineTable

end TemplateBundler

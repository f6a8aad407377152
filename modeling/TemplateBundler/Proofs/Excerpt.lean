import TemplateBundler.Excerpt
import TemplateBundler.Proofs.LineTable

/-! # What an excerpt shows

An excerpt is read line by line: with an indent that is itself within one line, no shown
line can break up, so the caret line and the line above it are found at the place that
the number of earlier lines gives.
-/

namespace TemplateBundler.Excerpt

open Text

variable {options : ExcerptOptions} {source : String} {line column : Nat}

/-! ## The caret line -/

/-- A line with nothing but a caret, somewhere behind the indent. -/
def IsCaretLine (options : ExcerptOptions) (shown : String) : Prop :=
  ∃ padding : List Char, (∀ c ∈ padding, c = ' ' ∨ c = '\t') ∧
    shown.toList = options.indent.toList ++ padding ++ ['^']

theorem mem_caretPadding {cs : List Char} {c : Char} (h : c ∈ caretPadding cs column) :
    c = ' ' ∨ c = '\t' := by
  rcases List.mem_append.mp h with hunder | hbeyond
  · obtain ⟨above, -, rfl⟩ := List.mem_map.mp hunder
    by_cases htab : above = '\t'
    · exact .inr (if_pos htab)
    · exact .inl (if_neg htab)
  · exact .inl (List.eq_of_mem_replicate hbeyond)

theorem isCaretLine_caretLine (options : ExcerptOptions) (text : String) (column : Nat) :
    IsCaretLine options (caretLine options text column) := by
  refine ⟨caretPadding text.toList column, fun c hc => mem_caretPadding hc, ?_⟩
  simp [caretLine]

/-! ## Shown lines stay whole -/

theorem IsCaretLine.lineFeed_not_mem {shown : String} (h : IsCaretLine options shown)
    (hindent : '\n' ∉ options.indent.toList) : '\n' ∉ shown.toList := by
  obtain ⟨padding, hpadding, hshown⟩ := h
  have hblank : '\n' ∉ padding := fun hmem => by simpa using hpadding _ hmem
  simp [hshown, hindent, hblank]

/-- The text shown for a line: that of the line, or none if it does not exist. -/
def textAt (source : String) (line : Nat) : String :=
  ((LineTable.ofText source).lineText? line source).getD ""

theorem lineFeed_not_mem_textAt (source : String) (line : Nat) :
    '\n' ∉ (textAt source line).toList := by
  unfold textAt
  cases hfound : (LineTable.ofText source).lineText? line source with
  | none => simp
  | some text => exact LineTable.lineFeed_not_mem_of_lineText? hfound

theorem shownLine_self (options : ExcerptOptions) (source : String) (line column : Nat) :
    shownLine options (LineTable.ofText source) source line column line =
      [options.indent ++ textAt source line, caretLine options (textAt source line) column] := by
  simp [shownLine, textAt]

theorem shownLine_of_ne {current : Nat} (hne : current ≠ line) (hpos : 0 < current)
    (hle : current ≤ (LineTable.ofText source).lineCount) :
    shownLine options (LineTable.ofText source) source line column current =
      [options.indent ++ textAt source current] := by
  obtain ⟨before, content, after, h⟩ := LineTable.exists_lineAt_of_le_lineCount hpos hle
  simp [shownLine, textAt, hne, LineTable.lineText?_ofText h]

theorem shownLine_of_not_exists {current : Nat} (hne : current ≠ line)
    (hout : (LineTable.ofText source).lineText? current source = none) :
    shownLine options (LineTable.ofText source) source line column current = [] := by
  simp [shownLine, hne, hout]

theorem lineFeed_not_mem_shownLine (hindent : '\n' ∉ options.indent.toList) {current : Nat}
    {shown : String}
    (hshown : shown ∈ shownLine options (LineTable.ofText source) source line column current) :
    '\n' ∉ shown.toList := by
  have hindented : ∀ number, '\n' ∉ (options.indent ++ textAt source number).toList := by
    intro number
    simp [hindent, lineFeed_not_mem_textAt]
  by_cases hself : current = line
  · rw [hself, shownLine_self] at hshown
    rcases List.mem_cons.mp hshown with rfl | hcaret
    · exact hindented line
    · rw [List.mem_singleton.mp hcaret]
      exact (isCaretLine_caretLine options _ column).lineFeed_not_mem hindent
  · cases hfound : (LineTable.ofText source).lineText? current source with
    | none => simp [shownLine_of_not_exists hself hfound] at hshown
    | some text =>
        obtain ⟨hpos, hle⟩ := LineTable.bounds_of_lineText? hfound
        rw [shownLine_of_ne hself hpos hle] at hshown
        rw [List.mem_singleton.mp hshown]
        exact hindented current

/-! ## The caret under its line -/

/-- The shown lines lead up to the line in question through as many lines as were asked for and
exist. The line in question and its caret line come next. -/
theorem shownLines_eq (options : ExcerptOptions) (column : Nat) (hpos : 0 < line)
    (hle : line ≤ max 1 (LineTable.ofText source).lineCount) :
    ∃ above below : List String, above.length = min options.linesAround (line - 1) ∧
      shownLines options source line column = above ++
        (options.indent ++ textAt source line) :: caretLine options (textAt source line) column ::
          below := by
  obtain ⟨first, hfirst⟩ : ∃ first, first = max 1 (line - options.linesAround) := ⟨_, rfl⟩
  obtain ⟨last, hlast⟩ : ∃ last, last = min (line + options.linesAround)
    (max line (LineTable.ofText source).lineCount) := ⟨_, rfl⟩
  have hshown : shownLines options source line column =
      (List.range' first (last + 1 - first)).flatMap
        (shownLine options (LineTable.ofText source) source line column) := by
    subst hfirst hlast
    rfl
  have hrange : List.range' first (last + 1 - first) =
      List.range' first (line - first) ++ line :: List.range' (line + 1) (last - line) := by
    have hsteps : last + 1 - first = line - first + (last - line + 1) := by omega
    have hline : first + (line - first) = line := by omega
    rw [hsteps, ← List.range'_append_1, hline, List.range'_succ]
  -- A line before the line in question exists, even if that line itself does not.
  have hearlier : ∀ current ∈ List.range' first (line - first),
      (shownLine options (LineTable.ofText source) source line column current).length = 1 := by
    intro current hcurrent
    rw [List.mem_range'_1] at hcurrent
    rw [shownLine_of_ne (by omega) (by omega) (by omega), List.length_singleton]
  refine ⟨(List.range' first (line - first)).flatMap
      (shownLine options (LineTable.ofText source) source line column),
    (List.range' (line + 1) (last - line)).flatMap
      (shownLine options (LineTable.ofText source) source line column), ?_, ?_⟩
  · rw [List.length_flatMap, List.map_congr_left hearlier, List.map_const', List.sum_replicate_nat,
      List.length_range']
    omega
  · rw [hshown, hrange, List.flatMap_append, List.flatMap_cons, shownLine_self]
    rfl

/-- With an indent that stays within one line, an excerpt splits into the lines that it shows. -/
theorem splitOn_render (hindent : '\n' ∉ options.indent.toList)
    (hne : shownLines options source line column ≠ []) :
    (render options source line column).toList.splitOn '\n' =
      (shownLines options source line column).map String.toList := by
  have hunbroken : ∀ shown ∈ (shownLines options source line column).map String.toList,
      '\n' ∉ shown := by
    intro shown hshown
    obtain ⟨text, htext, rfl⟩ := List.mem_map.mp hshown
    obtain ⟨current, -, hcurrent⟩ := List.mem_flatMap.mp htext
    exact lineFeed_not_mem_shownLine hindent hcurrent
  rw [render, String.toList_intercalate]
  exact List.splitOn_intercalate '\n' hunbroken (by simpa using hne)

end TemplateBundler.Excerpt

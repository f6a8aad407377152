import Mathlib.Order.Bounds.Defs
import TemplateBundler.Proofs.Excerpt.Window

/-! # The caret under its column

Where a character stands on a screen depends on the width of a tab. The caret line has a tab
wherever the line above it has one, so both reach the column in question through the same cells,
whatever that width is.
-/

namespace TemplateBundler.Excerpt

open Text

variable {options : ExcerptOptions} {source : String} {line column width cell : Nat}
  {cs : List Char} {numbers : List Nat}

/-! ## Cells -/

/-- The next multiple of the width of a tab. -/
def nextStop (width cell : Nat) : Nat := (cell / width + 1) * width

/-- The cell behind a character that starts at a cell: a tab goes on to the next stop, and any other
character takes one cell. -/
def advance (width cell : Nat) (c : Char) : Nat :=
  if c = '\t' then nextStop width cell else cell + 1

/-- The cell at which the character at a place of a line starts, both counted from 0. Past the end
of the line each place takes one cell. -/
def startCell (width : Nat) (cs : List Char) (place : Nat) : Nat :=
  (cs.take place).foldl (advance width) 0 + (place - cs.length)

theorem isLeast_nextStop (hwidth : 0 < width) (cell : Nat) :
    IsLeast {stop | cell < stop ∧ width ∣ stop} (nextStop width cell) := by
  constructor
  · have hlt : cell / width < cell / width + 1 := Nat.lt_succ_self _
    exact ⟨(Nat.div_lt_iff_lt_mul hwidth).mp hlt, Nat.dvd_mul_left _ _⟩
  · rintro stop ⟨hlt, stops, rfl⟩
    rw [Nat.mul_comm] at hlt ⊢
    exact Nat.mul_le_mul_right width ((Nat.div_lt_iff_lt_mul hwidth).mpr hlt)

/-- Spaces that keep the tabs of a line take the cells of the line. -/
theorem foldl_advance_under (width : Nat) (cs : List Char) (cell : Nat) :
    (cs.map fun c => if c = '\t' then '\t' else ' ').foldl (advance width) cell =
      cs.foldl (advance width) cell := by
  induction cs generalizing cell with
  | nil => rfl
  | cons c cs ih =>
      have hsame : advance width cell (if c = '\t' then '\t' else ' ') = advance width cell c := by
        by_cases hc : c = '\t' <;> simp [advance, hc]
      rw [List.map_cons, List.foldl_cons, List.foldl_cons, hsame, ih]

theorem foldl_advance_spaces (width count cell : Nat) :
    (List.replicate count ' ').foldl (advance width) cell = cell + count := by
  induction count generalizing cell with
  | zero => rfl
  | succ count ih =>
      rw [List.replicate_succ, List.foldl_cons, ih, advance, if_neg (by decide)]
      omega

/-! ## The caret line -/

/-- The place of the caret in the line above it, counted from 0: that of the column, but no further
past the end of the line than a caret may stand. -/
def caretPlace (cs : List Char) (column : Nat) : Nat := min (column - 1) (cs.length + maxOverhang)

theorem length_caretPadding (cs : List Char) (column : Nat) :
    (caretPadding cs column).length = caretPlace cs column := by
  simp only [caretPadding, caretPlace, List.length_append, List.length_map, List.length_take,
    List.length_replicate]
  omega

/-- Through the padding a line goes as far as through what stands above it. -/
theorem foldl_advance_caretPadding (width : Nat) (cs : List Char) (column cell : Nat) :
    (caretPadding cs column).foldl (advance width) cell =
      (cs.take (caretPlace cs column)).foldl (advance width) cell +
        (caretPlace cs column - cs.length) := by
  rw [caretPadding, List.foldl_append, foldl_advance_under, foldl_advance_spaces]
  rfl

/-- Behind the same indent, the padding ends in the cell at which the column starts. -/
theorem startCell_caretPadding (width : Nat) (indent cs : List Char) (column : Nat) :
    startCell width (indent ++ caretPadding cs column) (indent ++ caretPadding cs column).length =
      startCell width (indent ++ cs) (indent.length + caretPlace cs column) := by
  rw [startCell, startCell, List.take_length, Nat.sub_self, Nat.add_zero,
    List.take_length_add_append, List.foldl_append, List.foldl_append, foldl_advance_caretPadding,
    List.length_append, Nat.add_sub_add_left]

/-! ## The excerpt around it -/

/-- The characters of a line; there are none in a line that the source does not have. -/
def charsAt (source : String) (number : Nat) : List Char :=
  ((lines source)[number - 1]?.getD "").toList

/-- The line of an excerpt that shows a line of the source. -/
def shownChars (options : ExcerptOptions) (source : String) (number : Nat) : List Char :=
  options.indent.toList ++ charsAt source number

/-- Lines other than the line in question are shown without a caret. -/
theorem map_flatMap_entry (hnot : line ∉ numbers) :
    (numbers.flatMap (entry options source line column)).map String.toList =
      numbers.map (shownChars options source) := by
  induction numbers with
  | nil => rfl
  | cons number numbers ih =>
      rw [List.mem_cons, not_or] at hnot
      obtain ⟨hne, hrest⟩ := hnot
      rw [List.flatMap_cons, List.map_append, ih hrest, List.map_cons, entry, if_neg (Ne.symm hne)]
      simp [shownChars, charsAt]

theorem exists_shownNumbers_eq (options : ExcerptOptions) (source : String) (hpos : 0 < line) :
    ∃ front back, shownNumbers options source line = front ++ line :: back ∧
      line ∉ front ∧ line ∉ back := by
  have hshown : IsShown options source line line := ⟨hpos, .inl rfl⟩
  obtain ⟨front, back, hsplit⟩ := List.append_of_mem (mem_shownNumbers_iff.mpr hshown)
  have hnodup := (pairwise_shownNumbers options source line).nodup
  rw [hsplit, List.nodup_middle, List.nodup_cons, List.mem_append, not_or] at hnodup
  exact ⟨front, back, hsplit, hnodup.1⟩

/-- With an indent that stays within one line, an excerpt shows its lines in order, and the caret
line right below the line in question. Under any width of a tab, the caret stands in the cell at
which the column starts in the line above, if that is at most 81 past the last character, and else
in the cell of that place; column 0 counts as the first. -/
theorem render_aligns_caret (options : ExcerptOptions) (source : String) (line column : Nat)
    (hindent : '\n' ∉ options.indent.toList) (hpos : 0 < line) :
    ∃ (front back : List Nat) (before : List Char),
      (front ++ line :: back).Pairwise (· < ·) ∧
      (∀ number, number ∈ front ++ line :: back ↔ IsShown options source line number) ∧
      (render options source line column).toList.splitOn '\n' =
        front.map (shownChars options source) ++ shownChars options source line ::
          (before ++ ['^']) :: back.map (shownChars options source) ∧
      (∀ width, 0 < width →
        (∀ cell, IsLeast {stop | cell < stop ∧ width ∣ stop} (nextStop width cell)) ∧
        startCell width before before.length =
          startCell width (shownChars options source line)
            (options.indent.length +
              (min (max column 1) ((charsAt source line).length + 81) - 1))) ∧
      (before ++ ['^']).length ≤ options.indent.length + (charsAt source line).length + 81 := by
  obtain ⟨front, back, hsplit, hfront, hback⟩ := exists_shownNumbers_eq options source hpos
  have hplace : caretPlace (charsAt source line) column =
      min (max column 1) ((charsAt source line).length + 81) - 1 := by
    simp only [caretPlace, maxOverhang]
    omega
  refine ⟨front, back, options.indent.toList ++ caretPadding (charsAt source line) column,
    ?_, ?_, ?_, ?_, ?_⟩
  · exact hsplit ▸ pairwise_shownNumbers options source line
  · exact fun number => hsplit ▸ mem_shownNumbers_iff
  · have hne : shownLines options source line column ≠ [] := by
      simp [shownLines_eq_flatMap, hsplit, entry]
    rw [splitOn_render hindent hne, shownLines_eq_flatMap, hsplit, List.flatMap_append,
      List.flatMap_cons, List.map_append, List.map_append, map_flatMap_entry hfront,
      map_flatMap_entry hback, entry, if_pos rfl]
    simp [shownChars, charsAt, caretLine]
  · intro width hwidth
    refine ⟨isLeast_nextStop hwidth, ?_⟩
    rw [startCell_caretPadding, hplace, String.length_toList]
    rfl
  · rw [List.length_append, List.length_append, length_caretPadding, hplace, String.length_toList,
      List.length_singleton]
    omega

/-- A caret behind two tabs, of which the second stands behind a letter of two bytes. -/
theorem render_aligns_caret_behind_tabs :
    let options : ExcerptOptions := { indent := "> ", linesAround := 1 }
    let source := "x\n\té\tb\r\ny"
    '\n' ∉ options.indent.toList ∧ 0 < 2 ∧ 0 < 8 ∧
      ∃ (front back : List Nat) (before : List Char),
        (render options source 2 4).toList.splitOn '\n' =
          front.map (shownChars options source) ++ shownChars options source 2 ::
            (before ++ ['^']) :: back.map (shownChars options source) ∧
        startCell 8 before before.length = 16 := by
  intro options source
  have hindent : '\n' ∉ options.indent.toList := by decide
  obtain ⟨front, back, before, -, -, hshown, haligned, -⟩ :=
    render_aligns_caret options source 2 4 hindent (by decide)
  obtain ⟨-, hcell⟩ := haligned 8 (by decide)
  have hstart : startCell 8 (shownChars options source 2) (options.indent.length +
      (min (max 4 1) ((charsAt source 2).length + 81) - 1)) = 16 := by decide
  exact ⟨hindent, by decide, by decide, front, back, before, hshown, hcell.trans hstart⟩

end TemplateBundler.Excerpt

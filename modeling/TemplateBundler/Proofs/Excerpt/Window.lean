import Mathlib.Algebra.Order.Group.Abs
import Mathlib.Algebra.Order.Ring.Int
import Mathlib.Data.List.Nodup
import TemplateBundler.Proofs.Excerpt

/-! # Which lines an excerpt shows

An excerpt shows the lines of the source that are near enough to the line in question, and that
line itself even if the source has none such. Distances are those of the numbers, also where the
bounds are found in words of 64 bits: a sum that does not fit into a word lies behind the end of the
source, where the excerpt ends anyway.
-/

namespace TemplateBundler.Excerpt

open Text

variable {options : ExcerptOptions} {source : String} {line column number : Nat}

/-- A line is shown if it is the line in question, or if the source has it and it is no further away
than was asked for. Line 0 is no line. -/
def IsShown (options : ExcerptOptions) (source : String) (line number : Nat) : Prop :=
  0 < number ∧ (number = line ∨
    number ≤ (lines source).length ∧ |(number : ℤ) - line| ≤ options.linesAround)

/-- What is shown for a line: its text, and the caret under the line in question. -/
def entry (options : ExcerptOptions) (source : String) (line column number : Nat) : List String :=
  let text := (lines source)[number - 1]?.getD ""
  (options.indent ++ text) :: if number = line then [caretLine options text column] else []

theorem shownLine_eq (hpos : 0 < number) :
    shownLine options (LineTable.ofText source) source line column number =
      if number = line ∨ number ≤ (lines source).length then
        entry options source line column number else [] := by
  have htext : (LineTable.ofText source).lineText? number source = (lines source)[number - 1]? :=
    LineTable.lineText?_ofText_eq_getElem? hpos
  simp only [shownLine, entry, htext]
  by_cases hself : number = line
  · rw [if_pos hself, if_pos (.inl hself), if_pos hself]
  · by_cases hle : number ≤ (lines source).length
    · have hfound := List.getElem?_eq_getElem (l := lines source) (i := number - 1) (by omega)
      rw [if_neg hself, if_pos (.inr hle), if_neg hself, hfound]
      rfl
    · rw [if_neg hself, if_neg (by simp [hself, hle]), List.getElem?_eq_none (by omega)]

/-! ## Numbers in order -/

/-- The numbers of the lines that an excerpt shows. -/
def shownNumbers (options : ExcerptOptions) (source : String) (line : Nat) : List Nat :=
  let first := max 1 (line - options.linesAround)
  let last := min (line + options.linesAround) (max line (lines source).length)
  (List.range' first (last + 1 - first)).filter fun number =>
    number = line ∨ number ≤ (lines source).length

theorem mem_shownNumbers_iff : number ∈ shownNumbers options source line ↔
    IsShown options source line number := by
  rw [shownNumbers, List.mem_filter, List.mem_range'_1, decide_eq_true_iff, IsShown, abs_le]
  omega

theorem pairwise_shownNumbers (options : ExcerptOptions) (source : String) (line : Nat) :
    (shownNumbers options source line).Pairwise (· < ·) :=
  (List.pairwise_lt_range' 1).filter _

theorem flatMap_ite (numbers : List Nat) (p : Nat → Prop) [DecidablePred p]
    (f : Nat → List String) :
    (numbers.flatMap fun number => if p number then f number else []) =
      (numbers.filter fun number => p number).flatMap f := by
  induction numbers with
  | nil => rfl
  | cons number numbers ih => by_cases hp : p number <;> simp [hp, ih]

/-- The lines that are shown are the entries of their numbers, in order. -/
theorem shownLines_eq_flatMap (options : ExcerptOptions) (source : String) (line column : Nat) :
    shownLines options source line column =
      (shownNumbers options source line).flatMap (entry options source line column) := by
  simp only [shownLines, shownNumbers, LineTable.lineCount_ofText]
  rw [← flatMap_ite]
  refine List.flatMap_congr fun number hnumber => shownLine_eq ?_
  rw [List.mem_range'_1] at hnumber
  omega

/-! ## Counting shown lines -/

theorem length_flatMap_entry (numbers : List Nat) :
    (numbers.flatMap (entry options source line column)).length =
      numbers.length + numbers.count line := by
  induction numbers with
  | nil => rfl
  | cons number numbers ih =>
      rw [List.flatMap_cons, List.length_append, ih, List.length_cons, List.count_cons, entry]
      by_cases hself : number = line
      · simp [hself]
        omega
      · simp [hself]
        omega

theorem length_shownNumbers (hle : line ≤ (lines source).length) :
    (shownNumbers options source line).length =
      min (line + options.linesAround) (lines source).length + 1 -
        max 1 (line - options.linesAround) := by
  have hall : ∀ number ∈ List.range' (max 1 (line - options.linesAround))
      (min (line + options.linesAround) (max line (lines source).length) + 1 -
        max 1 (line - options.linesAround)), number = line ∨ number ≤ (lines source).length := by
    intro number hnumber
    rw [List.mem_range'_1] at hnumber
    omega
  rw [shownNumbers, List.filter_eq_self.mpr (by simpa using hall), List.length_range',
    max_eq_right hle]

theorem length_shownLines (options : ExcerptOptions) (column : Nat) (hpos : 0 < line)
    (hle : line ≤ (lines source).length) :
    ((shownLines options source line column).length : ℤ) =
      min ((line : ℤ) + options.linesAround) (lines source).length -
        max ((line : ℤ) - options.linesAround) 1 + 2 := by
  have hself : (shownNumbers options source line).count line = 1 :=
    List.count_eq_one_of_mem (pairwise_shownNumbers options source line).nodup
      (mem_shownNumbers_iff.mpr ⟨hpos, .inl rfl⟩)
  rw [shownLines_eq_flatMap, length_flatMap_entry, hself, length_shownNumbers hle]
  omega

/-! ## Bounds in words -/

/-- The difference of two words, or zero where it would be negative. -/
def saturatingSub (a b : UInt64) : UInt64 := if b ≤ a then a - b else 0

/-- The sum of two words, or the greatest word where it does not fit; a sum that wraps around is
less than what was added to. -/
def saturatingAdd (a b : UInt64) : UInt64 := if a + b < a then 0xFFFFFFFFFFFFFFFF else a + b

theorem toNat_saturatingSub (a b : UInt64) :
    (saturatingSub a b).toNat = a.toNat - b.toNat := by
  unfold saturatingSub
  split_ifs with hle
  · exact UInt64.toNat_sub_of_le a b hle
  · rw [UInt64.le_iff_toNat_le] at hle
    rw [UInt64.toNat_zero]
    omega

theorem toNat_saturatingAdd (a b : UInt64) :
    (saturatingAdd a b).toNat = min (a.toNat + b.toNat) (2 ^ 64 - 1) := by
  have ha := a.toNat_lt
  have hb := b.toNat_lt
  have hadd := UInt64.toNat_add a b
  unfold saturatingAdd
  split_ifs with hlt
  · rw [UInt64.lt_iff_toNat_lt] at hlt
    change 2 ^ 64 - 1 = _
    omega
  · rw [UInt64.lt_iff_toNat_lt] at hlt
    omega

/-- An excerpt runs from the first to the last of its lines also if these are found in words. -/
theorem shownLines_eq_of_words {line around count : UInt64}
    (haround : options.linesAround = around.toNat) (hcount : (lines source).length = count.toNat)
    (column : Nat) :
    let first := max 1 (saturatingSub line around)
    let last := min (saturatingAdd line around) (max line count)
    shownLines options source line.toNat column =
      (List.range' first.toNat (last.toNat + 1 - first.toNat)).flatMap
        (shownLine options (LineTable.ofText source) source line.toNat column) := by
  have hline := line.toNat_lt
  have hcount' := count.toNat_lt
  simp only [shownLines, LineTable.lineCount_ofText, hcount, haround, UInt64.toNat_max,
    UInt64.toNat_min, toNat_saturatingSub, toNat_saturatingAdd, UInt64.toNat_one]
  congr 2
  omega

/-! ## The whole excerpt -/

/-- An excerpt joins, in order, the entries of the lines that are within reach of the line in
question and of that line itself. None of them is line 0, so that line has no caret. What comes
under the line in question is the indent and a caret, with only white space between them. With an
indent that stays within one line, the excerpt has one line for each entry and one for the caret. It
is the same if the bounds are found in words, whose sums and differences stop at the ends of their
range. -/
theorem render_shows_window (options : ExcerptOptions) (source : String) (line column : Nat) :
    (∃ numbers : List Nat, numbers.Pairwise (· < ·) ∧
      (∀ number, number ∈ numbers ↔ IsShown options source line number) ∧
      render options source line column =
        "\n".intercalate (numbers.flatMap (entry options source line column))) ∧
    (∀ text, IsCaretLine options (caretLine options text column)) ∧
    ('\n' ∉ options.indent.toList → 0 < line → line ≤ (lines source).length →
      (((render options source line column).toList.splitOn '\n').length : ℤ) =
        min ((line : ℤ) + options.linesAround) (lines source).length -
          max ((line : ℤ) - options.linesAround) 1 + 2) ∧
    (∀ word around count : UInt64, word.toNat = line → around.toNat = options.linesAround →
      count.toNat = (lines source).length →
      let first := max 1 (saturatingSub word around)
      let last := min (saturatingAdd word around) (max word count)
      shownLines options source line column =
        (List.range' first.toNat (last.toNat + 1 - first.toNat)).flatMap
          (shownLine options (LineTable.ofText source) source line column)) := by
  refine ⟨⟨shownNumbers options source line, pairwise_shownNumbers options source line,
    fun number => mem_shownNumbers_iff, ?_⟩,
    fun text => isCaretLine_caretLine options text column, fun hindent hpos hle => ?_, ?_⟩
  · rw [render, shownLines_eq_flatMap]
  · have hlength := length_shownLines options column hpos hle
    have hne : shownLines options source line column ≠ [] := by
      intro hnil
      rw [hnil] at hlength
      simp at hlength
      omega
    rw [splitOn_render hindent hne, List.length_map, hlength]
  · rintro word around count rfl haround hcount
    exact shownLines_eq_of_words haround.symm hcount.symm column

/-- The last line, with as many lines around it as a word can ask for. -/
theorem render_shows_window_at_end :
    let options : ExcerptOptions := { linesAround := 0xFFFFFFFFFFFFFFFF }
    let source := "one\r\ntwo"
    '\n' ∉ options.indent.toList ∧ 0 < 2 ∧ 2 ≤ (lines source).length ∧
      ((render options source 2 1).toList.splitOn '\n').length = 3 := by
  intro options source
  have hindent : '\n' ∉ options.indent.toList := by decide
  have hlines : (lines source).length = 2 := by decide
  obtain ⟨-, -, hlength, -⟩ := render_shows_window options source 2 1
  have hcount := hlength hindent (by decide) hlines.ge
  rw [hlines] at hcount
  refine ⟨hindent, by decide, hlines.ge, ?_⟩
  have haround : options.linesAround = 0xFFFFFFFFFFFFFFFF := rfl
  rw [haround] at hcount
  omega

end TemplateBundler.Excerpt

import TemplateBundler.Merge
import TemplateBundler.Proofs.LineTable
import TemplateBundler.Proofs.PositionIndex

/-! # Lines of merged texts

The merged text and the index are made apart from each other: one decides by the last
character of a unit, the other by the unit's line table. They agree because both
count the line feeds of the unit once it is closed. A line of a unit then stands in
the merged text as it stood in the unit, moved by what was merged before.
-/

namespace TemplateBundler

open Text PositionIndex

/-! ## The merged text -/

theorem merge_text_toList (units : List SourceUnit) :
    (merge units).text.toList = units.flatMap fun source => (closed source.text).toList := by
  simp [merge, String.toList_join, List.flatMap_map]

theorem merge_text_append (units others : List SourceUnit) :
    (merge (units ++ others)).text = (merge units).text ++ (merge others).text := by
  simp [merge, String.join_append]

theorem merge_text_cons (source : SourceUnit) (units : List SourceUnit) :
    (merge (source :: units)).text = closed source.text ++ (merge units).text := by
  simp [merge, String.join_cons]

theorem fresh_merge (units : List SourceUnit) : Fresh (merge units).text.toList := by
  induction units with
  | nil => exact fresh_nil
  | cons source units ih =>
      rw [merge_text_cons, String.toList_append]
      exact (fresh_closed source.text).append ih

/-! ## Line counts -/

theorem lineCount_ofText_empty : (LineTable.ofText "").lineCount = 0 := rfl

/-- A unit whose table counts no line is empty. -/
theorem eq_empty_of_lineCount_eq_zero {text : String}
    (h : (LineTable.ofText text).lineCount = 0) : text = "" := by
  by_cases hfresh : Fresh text.toList
  · rw [LineTable.lineCount_ofText_of_fresh hfresh] at h
    rcases hfresh.eq_nil_or_append with hnil | ⟨front, hfront⟩
    · exact String.toList_eq_nil_iff.mp hnil
    · simp [hfront] at h
  · rw [LineTable.lineCount_ofText_of_not_fresh hfresh] at h
    omega

/-- A unit takes as many merged lines as it has line feeds once it is closed. -/
theorem occupied_ofText (text : String) :
    occupied (LineTable.ofText text) = (closed text).toList.count '\n' := by
  have hcount : (closed text).toList.count '\n' =
      text.toList.count '\n' + if endsLine text then 0 else 1 := by
    rw [closed_toList]
    split <;> simp
  rw [hcount, occupied]
  by_cases hfresh : Fresh text.toList
  · rw [LineTable.lineCount_ofText_of_fresh hfresh]
    rcases hfresh.eq_nil_or_append with hnil | ⟨front, hfront⟩
    · simp [endsLine, hnil]
    · simp [endsLine, hfront]
  · have hopen : ¬ endsLine text := fun hends => hfresh (endsLine_iff.mp hends).2
    rw [LineTable.lineCount_ofText_of_not_fresh hfresh, if_neg hopen]
    omega

theorem size_ofUnits (units : List SourceUnit) :
    (ofUnits units).size = (merge units).text.toList.count '\n' := by
  induction units using List.reverseRecOn with
  | nil => rfl
  | append_singleton units source ih =>
      rw [ofUnits_append_singleton, size_push, ih, occupied_ofText, merge_text_append,
        merge_text_cons]
      simp [merge]

theorem lineCount_merge (units : List SourceUnit) :
    (LineTable.ofText (merge units).text).lineCount = (merge units).index.size := by
  rw [LineTable.lineCount_ofText_of_fresh (fresh_merge units), ← size_ofUnits]
  rfl

/-! ## A unit's line in the merged text -/

/-- Each line that a unit takes is a line of its text, or else the one line of an empty unit. -/
theorem exists_lineAt_closed {text : String} {number : Nat} (hpos : 0 < number)
    (hle : number ≤ occupied (LineTable.ofText text)) :
    ∃ before line behind, behind ≠ [] ∧
      LineAt (closed text).toList number before line behind ∧
      ((∃ after, LineAt text.toList number before line after) ∨
        text = "" ∧ number = 1 ∧ before = [] ∧ line = []) := by
  by_cases hown : number ≤ (LineTable.ofText text).lineCount
  · obtain ⟨before, line, after, h⟩ := LineTable.exists_lineAt_of_le_lineCount hpos hown
    obtain ⟨behind, hne, hclosed⟩ := h.closed
    exact ⟨before, line, behind, hne, hclosed, .inl ⟨after, h⟩⟩
  · -- More lines than the table counts are taken only by an empty unit.
    simp only [occupied] at hle
    have hempty : text = "" := eq_empty_of_lineCount_eq_zero (by omega)
    have hone : number = 1 := by
      rw [hempty, lineCount_ofText_empty] at hown hle
      omega
    subst hempty hone
    exact ⟨[], [], ['\n'], by simp, ⟨rfl, rfl, fresh_nil, by simp, .inl ⟨[], rfl⟩⟩,
      .inr ⟨rfl, rfl, rfl, rfl⟩⟩

/-- A line of a unit stands in the merged text as it stands in the closed unit, behind all that was
merged before. -/
theorem PositionIndex.PlacedAt.lineAt_merge {units before after : List SourceUnit}
    {source : SourceUnit} {merged number : Nat}
    (h : PlacedAt units merged before source after number) {front line behind : List Char}
    (hline : LineAt (closed source.text).toList number front line behind) (hne : behind ≠ []) :
    LineAt (merge units).text.toList merged ((merge before).text.toList ++ front) line
      (behind ++ (merge after).text.toList) := by
  have hmoved := (hline.append hne (merge after).text.toList).prepend (fresh_merge before)
  rw [← size_ofUnits, ← h.counted] at hmoved
  rwa [h.split, merge_text_append, merge_text_cons, String.toList_append, String.toList_append]

/-- The range, moved by an offset. -/
def ByteRange.shift (offset : Nat) (range : ByteRange) : ByteRange :=
  ⟨offset + range.start, offset + range.stop⟩

/-- The offset in the merged text at which the unit with this place in the order starts. -/
def unitOffset (units : List SourceUnit) (unit : UnitId) : Nat :=
  byteLength (merge (units.take unit)).text.toList

theorem unitOffset_eq {units before after : List SourceUnit} {source : SourceUnit}
    (h : units = before ++ source :: after) :
    unitOffset units before.length = byteLength (merge before).text.toList := by
  simp [unitOffset, h]

/-- Each unit's text stands verbatim where the units before it leave off. -/
theorem slice?_merge {units : List SourceUnit} {unit : UnitId} {source : SourceUnit}
    (hunit : units[unit]? = some source) :
    slice? (unitOffset units unit) (unitOffset units unit + byteLength source.text.toList)
      (merge units).text.toList = some source.text.toList := by
  obtain ⟨before, after, hsplit, rfl⟩ := exists_split_of_getElem? hunit
  have htext : (merge units).text.toList = (merge before).text.toList ++ source.text.toList ++
      ((if endsLine source.text then [] else ['\n']) ++ (merge after).text.toList) := by
    rw [hsplit, merge_text_append, merge_text_cons, String.toList_append, String.toList_append,
      closed_toList]
    simp only [List.append_assoc]
  rw [htext, unitOffset_eq hsplit]
  exact slice?_byteLength _ _ _

/-- The table of the merged text finds a placed line where the table of its unit finds it, counted
from the unit's offset. -/
theorem lineRange?_merge {units before after : List SourceUnit} {source : SourceUnit}
    {line number : Nat} (h : PlacedAt units line before source after number) :
    ((LineTable.ofText (merge units).text).lineRange? line (merge units).text).isSome ∧
    (LineTable.ofText (merge units).text).lineRange? line (merge units).text =
      if source.text = "" then
        some ⟨unitOffset units before.length, unitOffset units before.length⟩
      else ((LineTable.ofText source.text).lineRange? number source.text).map
        (ByteRange.shift (unitOffset units before.length)) := by
  obtain ⟨front, content, behind, hne, hclosed, hown⟩ := exists_lineAt_closed h.pos h.le
  have hrange := LineTable.lineRange?_ofText (h.lineAt_merge hclosed hne)
  refine ⟨by simp [hrange], ?_⟩
  rw [hrange, unitOffset_eq h.split]
  rcases hown with ⟨rest, hown⟩ | ⟨hempty, -, hfront, hcontent⟩
  · have hnonempty : source.text ≠ "" := fun hempty => hown.ne_nil (by simp [hempty])
    simp [if_neg hnonempty, LineTable.lineRange?_ofText hown, ByteRange.shift, Nat.add_assoc]
  · simp [hempty, hfront, hcontent, dropReturn]

/-- A merged text holds the units' texts one behind the other, each followed by a line feed just
if it ends in none. Its table counts the lines of the index, and where the index says that a
merged line comes from, the table of the unit finds the same bytes from the unit's offset on;
an empty unit has the empty range there. -/
theorem merge_keeps_lines_in_place (units : List SourceUnit) :
    (merge units).text.toList = units.flatMap (fun source =>
      source.text.toList ++ if source.text.toList.getLast? = some '\n' then [] else ['\n']) ∧
    (∀ unit source, units[unit]? = some source →
      slice? (unitOffset units unit) (unitOffset units unit + byteLength source.text.toList)
        (merge units).text.toList = some source.text.toList) ∧
    (LineTable.ofText (merge units).text).lineCount = (merge units).index.size ∧
    ∀ line ∈ Set.Icc 1 (merge units).index.size, ∃ unit number source,
      (merge units).index.record? line = some ⟨line, unit, number⟩ ∧
      units[unit]? = some source ∧
      ((LineTable.ofText (merge units).text).lineRange? line (merge units).text).isSome ∧
      (LineTable.ofText (merge units).text).lineRange? line (merge units).text =
        if source.text = "" then some ⟨unitOffset units unit, unitOffset units unit⟩
        else ((LineTable.ofText source.text).lineRange? number source.text).map
          (ByteRange.shift (unitOffset units unit)) := by
  refine ⟨?_, fun unit source hunit => slice?_merge hunit, lineCount_merge units, ?_⟩
  · rw [merge_text_toList]
    congr 1
    funext source
    simp only [closed_toList, endsLine, beq_iff_eq]
  · intro line hline
    obtain ⟨before, source, after, number, h⟩ := exists_placedAt hline.1 hline.2
    exact ⟨before.length, number, source, h.record?, h.getElem?, lineRange?_merge h⟩

/-- An open unit behind an empty one keeps its carriage return, and its line is found. -/
theorem merge_keeps_open_unit_in_place :
    let units : List SourceUnit := [⟨"é\r\nb", "x"⟩, ⟨"", "y"⟩, ⟨"c\r", "z"⟩]
    slice? (unitOffset units 2) (unitOffset units 2 + 2) (merge units).text.toList =
      some ['c', '\r'] ∧
    ((LineTable.ofText (merge units).text).lineRange? 4 (merge units).text).isSome := by
  intro units
  obtain ⟨-, hverbatim, -, hranges⟩ := merge_keeps_lines_in_place units
  obtain ⟨_, _, _, -, -, hrange, -⟩ := hranges 4 ⟨by decide, by decide⟩
  exact ⟨hverbatim 2 ⟨"c\r", "z"⟩ rfl, hrange⟩

namespace MergedUnit

/-! ## The payload -/

/-- The scaffolding consists of lines: none is empty, and none has a terminator of its own. -/
theorem scaffolding_unbroken : ∀ line ∈ scaffolding,
    line.toList ≠ [] ∧ '\n' ∉ line.toList ∧ dropReturn line.toList = line.toList := by
  decide +kernel

theorem payload_toList (merged : MergedUnit) :
    merged.payload.toList = merged.text.toList ++
      ['\n'].intercalate ([] :: scaffolding.map String.toList) := by
  have hne : scaffolding.map String.toList ≠ [] := List.cons_ne_nil _ _
  simp [payload, String.toList_intercalate, List.intercalate_cons_of_ne_nil hne]

/-- The payload of merged units splits into the pieces of the merged text, of which the last one,
empty, is followed by the scaffolding. -/
theorem splitOn_payload (units : List SourceUnit) :
    (merge units).payload.toList.splitOn '\n' =
      ((merge units).text.toList.splitOn '\n').dropLast ++
        [] :: scaffolding.map String.toList := by
  have hunbroken : ∀ piece ∈ [] :: scaffolding.map String.toList, '\n' ∉ piece := by
    intro piece hpiece
    rcases List.mem_cons.mp hpiece with rfl | hpiece
    · simp
    · obtain ⟨line, hline, rfl⟩ := List.mem_map.mp hpiece
      exact (scaffolding_unbroken line hline).2.1
  rw [payload_toList, (fresh_merge units).splitOn_append,
    List.splitOn_intercalate '\n' hunbroken (List.cons_ne_nil _ _)]

/-- The payload ends in the last line of the scaffolding, which is left open. -/
theorem getLast?_splitOn_payload (units : List SourceUnit) :
    ((merge units).payload.toList.splitOn '\n').getLast? ≠ some [] := by
  have hne : scaffolding.map String.toList ≠ [] := List.cons_ne_nil _ _
  rw [splitOn_payload, List.getLast?_append, List.getLast?_cons_of_ne_nil hne,
    List.getLast?_eq_some_getLast hne, Option.some_or]
  intro hlast
  obtain ⟨line, hline, hpiece⟩ := List.mem_map.mp (List.getLast_mem hne)
  exact (scaffolding_unbroken line hline).1 (hpiece.trans (Option.some.inj hlast))

theorem length_splitOn_dropLast_merge (units : List SourceUnit) :
    ((merge units).text.toList.splitOn '\n').dropLast.length = (merge units).index.size := by
  rw [List.length_dropLast, length_splitOn_lineFeed, Nat.add_sub_cancel, ← size_ofUnits]
  rfl

theorem lines_merge (units : List SourceUnit) :
    Text.lines (merge units).text = ((merge units).text.toList.splitOn '\n').dropLast.map
      fun piece => String.ofList (dropReturn piece) :=
  lines_of_fresh (fresh_merge units)

/-- The lines of the payload are the lines of the merged text, a blank one, and the
scaffolding. -/
theorem lines_payload (units : List SourceUnit) :
    Text.lines (merge units).payload =
      Text.lines (merge units).text ++ "" :: scaffolding := by
  have hscaffolding : (scaffolding.map String.toList).map
      (fun piece => String.ofList (dropReturn piece)) = scaffolding := by
    have hsame : ∀ line ∈ scaffolding, String.ofList (dropReturn line.toList) = line := by
      intro line hline
      rw [(scaffolding_unbroken line hline).2.2, String.ofList_toList]
    rw [List.map_map]
    exact (List.map_congr_left hsame).trans (List.map_id' _)
  simp only [Text.lines, if_neg (getLast?_splitOn_payload units)]
  rw [splitOn_payload, List.map_append, List.map_cons, hscaffolding, ← lines_merge]
  rfl

theorem lineCount_payload (units : List SourceUnit) :
    (LineTable.ofText (merge units).payload).lineCount = (merge units).index.size + 4 := by
  have hopen : ¬ Fresh (merge units).payload.toList :=
    fun hfresh => getLast?_splitOn_payload units hfresh.getLast?_splitOn
  have hlength : ([] :: scaffolding.map String.toList).length = 4 := rfl
  rw [LineTable.lineCount_ofText_of_not_fresh hopen, ← length_splitOn_lineFeed, splitOn_payload,
    List.length_append, length_splitOn_dropLast_merge, hlength]

end MergedUnit

end TemplateBundler

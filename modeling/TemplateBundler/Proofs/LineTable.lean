import TemplateBundler.LineTable
import TemplateBundler.Proofs.Text.Lines
import TemplateBundler.Proofs.Text.Slice

/-! # Line tables of texts

The table of a text finds each line where it stands. All of it follows from how line
feeds are counted across a cut: the offsets before the cut stay, those behind it move
by the length of the front.
-/

namespace TemplateBundler.LineTable

open Text

/-! ## Offsets of line feeds -/

theorem lineFeedsFrom_append (offset : Nat) (xs ys : List Char) :
    lineFeedsFrom offset (xs ++ ys) =
      lineFeedsFrom offset xs ++ lineFeedsFrom (offset + byteLength xs) ys := by
  induction xs generalizing offset with
  | nil => simp [lineFeedsFrom]
  | cons c xs ih =>
      by_cases hc : c = '\n'
      · subst hc
        simp [lineFeedsFrom, ih, Nat.add_assoc, show '\n'.utf8Size = 1 from rfl]
      · simp [lineFeedsFrom, hc, ih, Nat.add_assoc]

theorem length_lineFeedsFrom (offset : Nat) (cs : List Char) :
    (lineFeedsFrom offset cs).length = cs.count '\n' := by
  induction cs generalizing offset with
  | nil => rfl
  | cons c cs ih => by_cases hc : c = '\n' <;> simp [lineFeedsFrom, hc, ih]

theorem lineFeedsFrom_eq_nil (offset : Nat) {cs : List Char} (h : '\n' ∉ cs) :
    lineFeedsFrom offset cs = [] := by
  rw [← List.length_eq_zero_iff, length_lineFeedsFrom]
  exact List.count_eq_zero.mpr h

theorem lt_of_mem_lineFeedsFrom {offset place : Nat} {cs : List Char}
    (h : place ∈ lineFeedsFrom offset cs) : place < offset + byteLength cs := by
  induction cs generalizing offset with
  | nil => simp [lineFeedsFrom] at h
  | cons c cs ih =>
      have hpos := Char.utf8Size_pos c
      by_cases hc : c = '\n'
      · subst hc
        have hone : '\n'.utf8Size = 1 := rfl
        simp only [lineFeedsFrom, if_true, List.mem_cons] at h
        rcases h with rfl | h
        · simp only [byteLength_cons, hone]
          omega
        · have hlt := ih h
          simp only [byteLength_cons, hone]
          omega
      · rw [lineFeedsFrom, if_neg hc] at h
        have hlt := ih h
        simp only [byteLength_cons]
        omega

/-! ## Counting lines -/

/-- A table calls a text terminated when a fresh line would start behind it. -/
theorem isTerminated_ofText (text : String) :
    (ofText text).isTerminated ↔ Fresh text.toList := by
  rcases List.eq_nil_or_concat text.toList with hnil | ⟨front, c, hcs⟩
  · simp [isTerminated, ofText, hnil, lineFeedsFrom, Fresh]
  · rw [List.concat_eq_append] at hcs
    have hlength : (ofText text).length = byteLength front + c.utf8Size := by
      simp [ofText, hcs]
    by_cases hc : c = '\n'
    · subst hc
      have hbreaks : (ofText text).breaks = lineFeedsFrom 0 front ++ [byteLength front] := by
        simp [ofText, hcs, lineFeedsFrom_append, lineFeedsFrom]
      simp [isTerminated, hbreaks, hlength, hcs, fresh_append_lineFeed,
        show '\n'.utf8Size = 1 from rfl]
    · have hbreaks : (ofText text).breaks = lineFeedsFrom 0 front := by
        simp [ofText, hcs, lineFeedsFrom_append, lineFeedsFrom, hc]
      have hfresh : ¬ Fresh text.toList := by simp [hcs, Fresh, hc]
      have hpos := Char.utf8Size_pos c
      -- Every line feed lies before the last character.
      rw [isTerminated, hbreaks, hlength]
      cases hlast : (lineFeedsFrom 0 front).getLast? with
      | none =>
          simp only [hfresh, beq_iff_eq, iff_false]
          omega
      | some last =>
          have hlt := lt_of_mem_lineFeedsFrom (List.mem_of_getLast? hlast)
          simp only [hfresh, beq_iff_eq, iff_false]
          omega

theorem lineCount_ofText_of_fresh {text : String} (h : Fresh text.toList) :
    (ofText text).lineCount = text.toList.count '\n' := by
  rw [lineCount, if_pos ((isTerminated_ofText text).mpr h)]
  exact length_lineFeedsFrom 0 _

theorem lineCount_ofText_of_not_fresh {text : String} (h : ¬ Fresh text.toList) :
    (ofText text).lineCount = text.toList.count '\n' + 1 := by
  rw [lineCount, if_neg fun hterminated => h ((isTerminated_ofText text).mp hterminated)]
  exact congrArg (· + 1) (length_lineFeedsFrom 0 _)

/-- The lines that a table counts are the lines that the text has. -/
theorem exists_lineAt_of_le_lineCount {text : String} {number : Nat} (hpos : 0 < number)
    (hle : number ≤ (ofText text).lineCount) :
    ∃ before line after, LineAt text.toList number before line after := by
  apply exists_lineAt hpos
  by_cases hfresh : Fresh text.toList
  · rw [lineCount_ofText_of_fresh hfresh] at hle
    exact .inl hle
  · rw [lineCount_ofText_of_not_fresh hfresh] at hle
    simp only [hfresh, not_false_eq_true, and_true]
    omega

theorem le_lineCount_of_lineAt {text : String} {number : Nat} {before line after : List Char}
    (h : LineAt text.toList number before line after) :
    0 < number ∧ number ≤ (ofText text).lineCount := by
  refine ⟨by simp [h.counted], ?_⟩
  have hcount : text.toList.count '\n' = before.count '\n' + after.count '\n' := by
    simp [h.split, List.count_eq_zero.mpr h.unbroken]
  have hcounted := h.counted
  rcases h.ended with ⟨rest, rfl⟩ | ⟨hnil, -⟩
  · have hle : text.toList.count '\n' ≤ (ofText text).lineCount := by
      by_cases hfresh : Fresh text.toList
      · exact Nat.le_of_eq (lineCount_ofText_of_fresh hfresh).symm
      · rw [lineCount_ofText_of_not_fresh hfresh]
        omega
    rw [List.count_cons_self] at hcount
    omega
  · subst hnil
    rw [lineCount_ofText_of_not_fresh h.not_fresh]
    omega

/-! ## Finding lines -/

section Finding

variable {text : String} {number : Nat} {before line after : List Char}

theorem lineStart_ofText (h : LineAt text.toList number before line after) :
    (ofText text).lineStart number = byteLength before := by
  rcases h.fresh.eq_nil_or_append with rfl | ⟨front, rfl⟩
  · simp [lineStart, h.counted]
  · have hnumber : number = front.count '\n' + 2 := by simp [h.counted]
    have hfound : (ofText text).breaks[number - 2]? = some (byteLength front) := by
      have hbreaks : (ofText text).breaks = lineFeedsFrom 0 front ++
          lineFeedsFrom (byteLength front) ('\n' :: (line ++ after)) := by
        simp [ofText, h.split, lineFeedsFrom_append]
      rw [hbreaks, hnumber, Nat.add_sub_cancel, ← length_lineFeedsFrom 0 front]
      simp [lineFeedsFrom]
    have hlater : ¬ number ≤ 1 := by omega
    simp [lineStart, hlater, hfound, show '\n'.utf8Size = 1 from rfl]

theorem lineBreak_ofText (h : LineAt text.toList number before line after) :
    (ofText text).lineBreak number = byteLength before + byteLength line := by
  have hbreaks : (ofText text).breaks = lineFeedsFrom 0 before ++
      lineFeedsFrom (byteLength before + byteLength line) after := by
    simp [ofText, h.split, lineFeedsFrom_append, lineFeedsFrom_eq_nil _ h.unbroken]
  have hindex : number - 1 = (lineFeedsFrom 0 before).length := by
    simp [length_lineFeedsFrom, h.counted]
  rw [lineBreak, hbreaks, hindex]
  rcases h.ended with ⟨rest, rfl⟩ | ⟨hnil, -⟩
  · simp [lineFeedsFrom]
  · simp [hnil, lineFeedsFrom, ofText, h.split]

/-- At the last byte of a piece of text, a carriage return is found just if it is the last
character: no other character has that byte. -/
theorem returnsAt_last (hsplit : text.toList = before ++ line ++ after) (hne : line ≠ []) :
    returnsAt text (byteLength before + byteLength line - 1) = (line.getLast? == some '\r') := by
  rcases List.eq_nil_or_concat line with hnil | ⟨front, c, hline⟩
  · exact absurd hnil hne
  · rw [List.concat_eq_append] at hline
    subst hline
    have hpos := Char.utf8Size_pos c
    have hplace : byteLength before + byteLength (front ++ [c]) - 1 =
        byteLength (before ++ front) + (c.utf8Size - 1) := by
      simp only [byteLength_append, byteLength_cons, byteLength_nil]
      omega
    have hcut := splitAt?_byteLength_add (before ++ front) (c :: after) (c.utf8Size - 1)
    rw [returnsAt, hplace, hsplit,
      show before ++ (front ++ [c]) ++ after = before ++ front ++ c :: after by simp, hcut]
    -- The last byte of a longer character is no place to cut, so nothing is found there.
    by_cases hone : c.utf8Size = 1
    · rw [hone]
      by_cases hc : c = '\r' <;> simp [splitAt?, hc]
    · have hc : c ≠ '\r' := by
        rintro rfl
        exact hone rfl
      obtain ⟨n, hn⟩ : ∃ n, c.utf8Size = n + 2 := ⟨c.utf8Size - 2, by omega⟩
      have hinside : splitAt? (n + 1) (c :: after) = none := by
        rw [splitAt?, if_neg (by omega)]
      simp [hn, hinside, hc]

/-- A table gives the bytes of a line, less the carriage return that may end it. -/
theorem lineRange?_ofText (h : LineAt text.toList number before line after) :
    (ofText text).lineRange? number text =
      some ⟨byteLength before, byteLength before + byteLength (dropReturn line)⟩ := by
  obtain ⟨hpos, hle⟩ := le_lineCount_of_lineAt h
  have hfound : ¬ (number = 0 || (ofText text).lineCount < number) = true := by
    simp only [Bool.or_eq_true, decide_eq_true_eq]
    omega
  rw [lineRange?, if_neg hfound]
  simp only [lineStart_ofText h, lineBreak_ofText h]
  by_cases hne : line = []
  · simp [hne, dropReturn]
  · have hlt : byteLength before < byteLength before + byteLength line := by
      have hzero := mt byteLength_eq_zero.mp hne
      omega
    rw [returnsAt_last h.split hne]
    by_cases hreturn : line.getLast? = some '\r'
    · obtain ⟨front, rfl⟩ := List.getLast?_eq_some_iff.mp hreturn
      have hstop : byteLength before + byteLength (front ++ ['\r']) - 1 =
          byteLength before + byteLength front := by
        simp only [byteLength_append, byteLength_cons, byteLength_nil,
          show '\r'.utf8Size = 1 from rfl]
        omega
      have hcut : (decide (byteLength before < byteLength before + byteLength (front ++ ['\r'])) &&
          (front ++ ['\r']).getLast? == some '\r') = true := by
        rw [decide_eq_true hlt, hreturn]
        rfl
      rw [if_pos hcut, hstop, dropReturn_append_return]
    · rw [if_neg (by simp [hreturn]), dropReturn_eq_self hreturn]

/-- A table gives the text of a line, less the carriage return that may end it. -/
theorem lineText?_ofText (h : LineAt text.toList number before line after) :
    (ofText text).lineText? number text = some (String.ofList (dropReturn line)) := by
  obtain ⟨ending, hending⟩ := exists_dropReturn_append line
  have hsplit : text.toList = before ++ dropReturn line ++ (ending ++ after) := by
    rw [← List.append_assoc, List.append_assoc before, hending, h.split]
  have hslice := slice?_byteLength before (dropReturn line) (ending ++ after)
  rw [← hsplit] at hslice
  simp [lineText?, lineRange?_ofText h, hslice]

/-- The numbers of lines that a text does not have give no text. -/
theorem bounds_of_lineText? {found : String}
    (h : (ofText text).lineText? number text = some found) :
    0 < number ∧ number ≤ (ofText text).lineCount := by
  by_cases hin : 0 < number ∧ number ≤ (ofText text).lineCount
  · exact hin
  · have hout : (number = 0 || (ofText text).lineCount < number) = true := by
      simp only [Bool.or_eq_true, decide_eq_true_eq]
      omega
    simp [lineText?, lineRange?, hout] at h

/-- A table counts as many lines as the text has. -/
theorem lineCount_ofText (text : String) : (ofText text).lineCount = (lines text).length := by
  by_cases hfresh : Fresh text.toList
  · rw [lineCount_ofText_of_fresh hfresh, lines_of_fresh hfresh, List.length_map,
      List.length_dropLast, length_splitOn_lineFeed, Nat.add_sub_cancel]
  · rw [lineCount_ofText_of_not_fresh hfresh, lines_of_not_fresh hfresh, List.length_map,
      length_splitOn_lineFeed]

/-- A table finds the lines that the text has, by their numbers. -/
theorem lineText?_ofText_eq_getElem? (hpos : 0 < number) :
    (ofText text).lineText? number text = (lines text)[number - 1]? := by
  by_cases hle : number ≤ (ofText text).lineCount
  · obtain ⟨before, line, after, h⟩ := exists_lineAt_of_le_lineCount hpos hle
    rw [lineText?_ofText h, h.lines_getElem?]
  · have hnone : (ofText text).lineText? number text = none :=
      Option.eq_none_iff_forall_not_mem.mpr fun found hfound => hle (bounds_of_lineText? hfound).2
    rw [lineCount_ofText] at hle
    rw [hnone, List.getElem?_eq_none (by omega)]

theorem lineFeed_not_mem_of_lineText? {found : String}
    (h : (ofText text).lineText? number text = some found) : '\n' ∉ found.toList := by
  obtain ⟨hpos, hle⟩ := bounds_of_lineText? h
  obtain ⟨before, line, after, hline⟩ := exists_lineAt_of_le_lineCount hpos hle
  rw [lineText?_ofText hline, Option.some.injEq] at h
  subst h
  obtain ⟨ending, hending⟩ := exists_dropReturn_append line
  intro hmem
  rw [String.toList_ofList] at hmem
  exact hline.unbroken (hending ▸ List.mem_append_left ending hmem)

end Finding

end TemplateBundler.LineTable

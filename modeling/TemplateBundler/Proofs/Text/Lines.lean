import TemplateBundler.Text.Lines

/-! # Where the lines of a text stand

A line is described by what stands before it and what stands after it. The description
survives putting whole lines in front and anything behind the line's own line feed,
which is what keeps lines in place when texts are written one after the other.
-/

namespace TemplateBundler.Text

/-! ## Splitting at marks -/

/-- Where neither part goes on with the mark, its last place splits a text in one way. -/
theorem append_cons_inj {mark : Char} {xs ys zs ws : List Char} (hzs : mark ∉ zs) (hws : mark ∉ ws)
    (h : xs ++ mark :: zs = ys ++ mark :: ws) : xs = ys ∧ zs = ws := by
  -- One front may be longer; then the gap starts with the mark, which is in the other end.
  obtain ⟨gap, hys, hrest⟩ | ⟨gap, hxs, hrest⟩ := List.append_eq_append_iff.mp h
  · cases gap with
    | nil => exact ⟨by simpa using hys.symm, by simpa using hrest⟩
    | cons c gap => simp_all
  · cases gap with
    | nil => exact ⟨by simpa using hxs, by simpa using hrest.symm⟩
    | cons c gap => simp_all

/-! ## Splitting at line feeds -/

theorem length_splitOn_lineFeed (cs : List Char) :
    (cs.splitOn '\n').length = cs.count '\n' + 1 := by
  induction cs with
  | nil => rfl
  | cons c cs ih =>
      rw [List.splitOn_cons_eq_if_modifyHead]
      by_cases hc : c = '\n'
      · simp [hc, ih]
      · simp [hc, ih]

/-- What comes next starts a line: nothing came before, or a line feed did. -/
def Fresh (cs : List Char) : Prop := ∀ c ∈ cs.getLast?, c = '\n'

theorem fresh_nil : Fresh [] := by simp [Fresh]

theorem fresh_append_lineFeed (cs : List Char) : Fresh (cs ++ ['\n']) := by simp [Fresh]

theorem Fresh.eq_nil_or_append {cs : List Char} (h : Fresh cs) :
    cs = [] ∨ ∃ front, cs = front ++ ['\n'] := by
  rcases List.eq_nil_or_concat cs with rfl | ⟨front, c, rfl⟩
  · exact .inl rfl
  · have hc : c = '\n' := h c (by simp)
    exact .inr ⟨front, by simp [hc]⟩

theorem Fresh.append {xs ys : List Char} (hxs : Fresh xs) (hys : Fresh ys) :
    Fresh (xs ++ ys) := by
  rcases hys.eq_nil_or_append with rfl | ⟨front, rfl⟩
  · simpa using hxs
  · rw [← List.append_assoc]
    exact fresh_append_lineFeed _

theorem fresh_cons_iff {c : Char} {cs : List Char} (hne : cs ≠ []) :
    Fresh (c :: cs) ↔ Fresh cs := by
  rw [Fresh, Fresh, List.getLast?_cons_of_ne_nil hne]

/-- Where a line starts afresh, a split may be taken apart. -/
theorem Fresh.splitOn_append {cs : List Char} (h : Fresh cs) (rest : List Char) :
    (cs ++ rest).splitOn '\n' = (cs.splitOn '\n').dropLast ++ rest.splitOn '\n' := by
  rcases h.eq_nil_or_append with rfl | ⟨front, rfl⟩
  · rfl
  · rw [List.append_assoc, List.singleton_append, List.splitOn_append_cons_self,
      List.splitOn_append_cons_self]
    simp

theorem Fresh.getLast?_splitOn {cs : List Char} (h : Fresh cs) :
    (cs.splitOn '\n').getLast? = some [] := by
  rcases h.eq_nil_or_append with rfl | ⟨front, rfl⟩
  · rfl
  · simp [List.splitOn_append_cons_self]

/-! ## Lines as a text -/

theorem closed_toList (text : String) :
    (closed text).toList = text.toList ++ if endsLine text then [] else ['\n'] := by
  unfold closed
  split <;> simp

theorem endsLine_iff {text : String} :
    endsLine text ↔ text.toList ≠ [] ∧ Fresh text.toList := by
  simp only [endsLine, beq_iff_eq, Fresh]
  cases h : text.toList.getLast? with
  | none => simp [List.getLast?_eq_none_iff.mp h]
  | some c =>
      have hne : text.toList ≠ [] := by
        intro hnil
        simp [hnil] at h
      simp [hne]

theorem fresh_closed (text : String) : Fresh (closed text).toList := by
  rw [closed_toList]
  split
  next hends => simpa using (endsLine_iff.mp hends).2
  next => exact fresh_append_lineFeed _

/-! ## A line and its surroundings -/

/-- The characters `line` are the line with this number, counted from 1, between `before` and
`after`. The line feed that ends it stands at the head of `after`; only a last line may go
without, and is then not empty. -/
structure LineAt (cs : List Char) (number : Nat) (before line after : List Char) : Prop where
  split : cs = before ++ line ++ after
  counted : number = before.count '\n' + 1
  fresh : Fresh before
  unbroken : '\n' ∉ line
  ended : (∃ rest, after = '\n' :: rest) ∨ after = [] ∧ line ≠ []

namespace LineAt

variable {cs before line after : List Char} {number : Nat}

theorem ne_nil (h : LineAt cs number before line after) : cs ≠ [] := by
  rintro rfl
  have hparts : before = [] ∧ line = [] ∧ after = [] := by simpa using h.split
  simpa [hparts] using h.ended

/-- Whole lines in front only move a line down. -/
theorem prepend (h : LineAt cs number before line after) {front : List Char}
    (hfront : Fresh front) :
    LineAt (front ++ cs) (front.count '\n' + number) (front ++ before) line after where
  split := by simp [h.split]
  counted := by simp [h.counted, Nat.add_assoc]
  fresh := hfront.append h.fresh
  unbroken := h.unbroken
  ended := h.ended

/-- What is written behind a closed line leaves it where it is. -/
theorem append (h : LineAt cs number before line after) (hne : after ≠ [])
    (behind : List Char) : LineAt (cs ++ behind) number before line (after ++ behind) where
  split := by simp [h.split]
  counted := h.counted
  fresh := h.fresh
  unbroken := h.unbroken
  ended := by
    rcases h.ended with ⟨rest, rfl⟩ | ⟨hnil, -⟩
    · exact .inl ⟨rest ++ behind, rfl⟩
    · exact absurd hnil hne

/-- An open last line leaves off within a line. -/
theorem not_fresh (h : LineAt cs number before line []) : ¬ Fresh cs := by
  intro hfresh
  have hne : line ≠ [] := by simpa using h.ended
  have hlast := hfresh (line.getLast hne)
    (by simp [h.split, List.getLast?_append, List.getLast?_eq_some_getLast hne])
  exact h.unbroken (hlast ▸ List.getLast_mem hne)

/-- Closing the last line leaves every line where it is, now with a line feed at its end. -/
theorem closed {text : String} (h : LineAt text.toList number before line after) :
    ∃ behind, behind ≠ [] ∧ LineAt (Text.closed text).toList number before line behind := by
  rw [closed_toList]
  by_cases hafter : after = []
  · subst hafter
    -- The last line is open, so a line feed is put right behind it.
    have hopen : ¬ endsLine text := fun hends => h.not_fresh (endsLine_iff.mp hends).2
    refine ⟨['\n'], by simp, ?_⟩
    rw [if_neg hopen]
    exact ⟨by simp [h.split], h.counted, h.fresh, h.unbroken, .inl ⟨[], rfl⟩⟩
  · exact ⟨_, by simp [hafter], h.append hafter _⟩

/-- A line is found by its number among the pieces between line feeds. -/
theorem splitOn_getElem? (h : LineAt cs number before line after) :
    (cs.splitOn '\n')[number - 1]? = some line := by
  have hlength : (before.splitOn '\n').dropLast.length = number - 1 := by
    simp [length_splitOn_lineFeed, h.counted]
  rw [h.split, List.append_assoc, h.fresh.splitOn_append, ← hlength]
  rcases h.ended with ⟨rest, rfl⟩ | ⟨hnil, -⟩
  · simp [List.splitOn_append_cons_self, List.splitOn_eq_singleton h.unbroken]
  · simp [hnil, List.splitOn_eq_singleton h.unbroken]

end LineAt

/-- Every number up to that of the last line has a line. Past the last line feed there is one more
line unless a fresh one would start there. -/
theorem exists_lineAt {cs : List Char} {number : Nat} (hpos : 0 < number)
    (hle : number ≤ cs.count '\n' ∨ number = cs.count '\n' + 1 ∧ ¬ Fresh cs) :
    ∃ before line after, LineAt cs number before line after := by
  induction cs generalizing number with
  | nil =>
      simp only [List.count_nil, fresh_nil, not_true_eq_false, and_false, or_false] at hle
      omega
  | cons c cs ih =>
      -- A line feed in front is a line of its own; any other character goes to the first line.
      by_cases hc : c = '\n'
      · subst hc
        cases number with
        | zero => omega
        | succ number =>
            rcases Nat.eq_zero_or_pos number with rfl | hnumber
            · exact ⟨[], [], '\n' :: cs, rfl, rfl, fresh_nil, by simp, .inl ⟨cs, rfl⟩⟩
            · have hrest : number ≤ cs.count '\n' ∨ number = cs.count '\n' + 1 ∧ ¬ Fresh cs := by
                by_cases hnil : cs = []
                · subst hnil
                  simp [Fresh] at hle
                  omega
                · rw [fresh_cons_iff hnil] at hle
                  simpa using hle
              obtain ⟨before, line, after, h⟩ := ih hnumber hrest
              have hmoved := h.prepend (fresh_append_lineFeed [])
              exact ⟨_, line, after, by simpa [Nat.add_comm] using hmoved⟩
      · by_cases hnil : cs = []
        · subst hnil
          have hnumber : number = 1 := by
            simp [hc] at hle
            omega
          exact ⟨[], [c], [], rfl, by simp [hnumber], fresh_nil, by simp [Ne.symm hc],
            .inr ⟨rfl, by simp⟩⟩
        · rw [fresh_cons_iff hnil, List.count_cons_of_ne (by simpa using hc)] at hle
          obtain ⟨before, line, after, h⟩ := ih hpos hle
          by_cases hbefore : before = []
          · subst hbefore
            exact ⟨[], c :: line, after, by simp [h.split], h.counted, fresh_nil,
              by simp [Ne.symm hc, h.unbroken], h.ended.imp_right fun hlast => ⟨hlast.1, by simp⟩⟩
          · exact ⟨c :: before, line, after, by simp [h.split],
              by rw [List.count_cons_of_ne (by simpa using hc), h.counted],
              (fresh_cons_iff hbefore).mpr h.fresh, h.unbroken, h.ended⟩

/-! ## Carriage returns -/

theorem dropReturn_append_return (cs : List Char) : dropReturn (cs ++ ['\r']) = cs := by
  simp [dropReturn]

theorem dropReturn_eq_self {cs : List Char} (h : cs.getLast? ≠ some '\r') :
    dropReturn cs = cs := by
  simp [dropReturn, h]

/-- A line consists of what is left of it and the carriage return that may end it. -/
theorem eq_dropReturn_or (cs : List Char) : cs = dropReturn cs ∨ cs = dropReturn cs ++ ['\r'] := by
  by_cases hreturn : cs.getLast? = some '\r'
  · obtain ⟨front, rfl⟩ := List.getLast?_eq_some_iff.mp hreturn
    exact .inr (by rw [dropReturn_append_return])
  · exact .inl (dropReturn_eq_self hreturn).symm

theorem exists_dropReturn_append (cs : List Char) : ∃ ending, dropReturn cs ++ ending = cs := by
  obtain h | h := eq_dropReturn_or cs
  · exact ⟨[], (List.append_nil _).trans h.symm⟩
  · exact ⟨['\r'], h.symm⟩

/-! ## All lines of a text -/

/-- An open text ends in a piece that is not empty. -/
theorem getLast?_splitOn_of_not_fresh {cs : List Char} (h : ¬ Fresh cs) :
    (cs.splitOn '\n').getLast? ≠ some [] := by
  obtain ⟨before, line, after, hline⟩ :=
    exists_lineAt (Nat.succ_pos (cs.count '\n')) (.inr ⟨rfl, h⟩)
  have hlast : (cs.splitOn '\n').getLast? = some line := by
    rw [List.getLast?_eq_getElem?, length_splitOn_lineFeed]
    exact hline.splitOn_getElem?
  rw [hlast]
  rintro ⟨⟩
  obtain ⟨rest, rfl⟩ | ⟨-, hne⟩ := hline.ended
  · have hcount := congrArg (List.count '\n') hline.split
    have hcounted := hline.counted
    simp at hcount hcounted
    omega
  · exact hne rfl

theorem lines_of_fresh {text : String} (h : Fresh text.toList) : lines text =
    (text.toList.splitOn '\n').dropLast.map fun piece => String.ofList (dropReturn piece) := by
  simp only [lines, if_pos h.getLast?_splitOn]

theorem lines_of_not_fresh {text : String} (h : ¬ Fresh text.toList) : lines text =
    (text.toList.splitOn '\n').map fun piece => String.ofList (dropReturn piece) := by
  simp only [lines, if_neg (getLast?_splitOn_of_not_fresh h)]

theorem LineAt.lines_getElem? {text : String} {number : Nat} {before line after : List Char}
    (h : LineAt text.toList number before line after) :
    (lines text)[number - 1]? = some (String.ofList (dropReturn line)) := by
  by_cases hfresh : Fresh text.toList
  · -- The line is closed, so it is not the piece that is dropped.
    have hcount : number - 1 < (text.toList.splitOn '\n').length - 1 := by
      obtain ⟨rest, rfl⟩ | ⟨rfl, -⟩ := h.ended
      · rw [length_splitOn_lineFeed, h.counted, h.split, List.count_append, List.count_append,
          List.count_cons_self]
        omega
      · exact absurd hfresh h.not_fresh
    rw [lines_of_fresh hfresh, List.getElem?_map, List.getElem?_dropLast, if_pos hcount,
      h.splitOn_getElem?, Option.map_some]
  · rw [lines_of_not_fresh hfresh, List.getElem?_map, h.splitOn_getElem?, Option.map_some]

end TemplateBundler.Text

import Mathlib.Data.Set.Subsingleton
import TemplateBundler.Diagnosis
import TemplateBundler.Proofs.Text.Lines

/-! # The compiler's note of its position

The first line of a message may end in a note such as ` at: 12:4`. The letter `a` stands in a note
only once, right behind its first character, so a line ends in a note in at most one way; and that
note is what cleaning cuts. A message with a note written behind it is therefore given back
whole, whatever notes it holds itself.
-/

namespace TemplateBundler

namespace Text

/-- Tables of which no ranges overlap have no character in common. -/
theorem CodeRanges.not_covers_of_apart {ranges others : CodeRanges} {c : Char}
    (hapart : ∀ range ∈ ranges, ∀ other ∈ others, range.2 < other.1 ∨ other.2 < range.1)
    (h : ranges.covers c = true) : others.covers c = false := by
  obtain ⟨range, hrange, hc⟩ := List.any_eq_true.mp h
  refine List.any_eq_false.mpr fun other hother hc' => ?_
  have hdisjoint := hapart range hrange other hother
  simp only [Bool.and_eq_true, decide_eq_true_eq] at hc hc'
  omega

/-- No white space is a digit. -/
theorem isDecimalDigit_of_isBlank {c : Char} (h : isBlank c = true) : isDecimalDigit c = false :=
  CodeRanges.not_covers_of_apart (by decide +kernel) h

end Text

namespace Message

variable {cs rest digits text kept note kept' note' : List Char}

/-- A number is written by one or more digits. -/
structure IsNumber (cs : List Char) : Prop where
  ne_nil : cs ≠ []
  digits : ∀ c ∈ cs, Text.isDecimalDigit c = true

/-- A note of a position: white space, `at:`, white space, two numbers with a colon between them,
and perhaps more white space. -/
inductive IsNote : List Char → Prop
  | mk {before between : Char} {line column blanks : List Char}
      (hbefore : Text.isBlank before = true) (hbetween : Text.isBlank between = true)
      (hline : IsNumber line) (hcolumn : IsNumber column)
      (hblanks : ∀ c ∈ blanks, Text.isBlank c = true) :
      IsNote (before :: 'a' :: 't' :: ':' :: between :: (line ++ ':' :: (column ++ blanks)))

/-! ## Reading a note -/

theorem dropBlank?_eq_some_iff :
    dropBlank? cs = some rest ↔ ∃ c, Text.isBlank c = true ∧ cs = c :: rest := by
  cases cs with
  | nil => simp [dropBlank?]
  | cons c cs =>
      simp only [dropBlank?, List.cons.injEq]
      constructor
      · intro h
        split_ifs at h with hc
        exact ⟨c, hc, rfl, Option.some.inj h⟩
      · rintro ⟨_, hc, rfl, rfl⟩
        rw [if_pos hc]

theorem dropText?_eq_some_iff : dropText? text cs = some rest ↔ cs = text ++ rest := by
  induction text generalizing cs with
  | nil => simp [dropText?]
  | cons t text ih =>
      cases cs with
      | nil => simp [dropText?]
      | cons c cs => by_cases hc : t = c <;> simp [dropText?, hc, ih, Ne.symm]

theorem exists_of_dropDigits? (h : dropDigits? cs = some rest) :
    ∃ digits, IsNumber digits ∧ cs = digits ++ rest := by
  cases cs with
  | nil => cases h
  | cons c cs =>
      simp only [dropDigits?] at h
      split_ifs at h with hc
      refine ⟨c :: cs.takeWhile Text.isDecimalDigit, ⟨List.cons_ne_nil _ _, ?_⟩, ?_⟩
      · exact List.forall_mem_cons.mpr ⟨hc, List.all_eq_true.mp List.all_takeWhile⟩
      · rw [← Option.some.inj h, List.cons_append, List.takeWhile_append_dropWhile]

/-- A number is dropped as a whole where no digit comes after it. -/
theorem dropDigits?_append (h : IsNumber digits)
    (hrest : ∀ c ∈ rest.head?, Text.isDecimalDigit c = false) :
    dropDigits? (digits ++ rest) = some rest := by
  cases digits with
  | nil => exact absurd rfl h.ne_nil
  | cons c digits =>
      obtain ⟨hc, hdigits⟩ := List.forall_mem_cons.mp h.digits
      have hstop : rest.dropWhile Text.isDecimalDigit = rest := by
        cases rest with
        | nil => rfl
        | cons d rest => rw [List.dropWhile_cons_of_neg (by simp [hrest d rfl])]
      rw [List.cons_append, dropDigits?, if_pos hc, List.dropWhile_append_of_pos hdigits, hstop]

theorem isPositionNote_iff : isPositionNote cs = true ↔ IsNote cs := by
  constructor
  · intro h
    simp only [isPositionNote] at h
    split at h
    next rest hrest =>
      simp only [Option.bind_eq_bind, Option.bind_eq_some_iff, dropBlank?_eq_some_iff,
        dropText?_eq_some_iff] at hrest
      obtain ⟨_, ⟨before, hbefore, rfl⟩, _, rfl, _, ⟨between, hbetween, rfl⟩, _, hreadLine, _, rfl,
        hreadColumn⟩ := hrest
      obtain ⟨line, hline, rfl⟩ := exists_of_dropDigits? hreadLine
      obtain ⟨column, hcolumn, rfl⟩ := exists_of_dropDigits? hreadColumn
      have hnote := IsNote.mk hbefore hbetween hline hcolumn (List.all_eq_true.mp h)
      exact hnote
    next => cases h
  · rintro ⟨hbefore, hbetween, hline, hcolumn, hblanks⟩
    have hcolon (rest : List Char) : ∀ c ∈ (':' :: rest).head?, Text.isDecimalDigit c = false := by
      rintro _ ⟨⟩
      decide
    have hend := dropDigits?_append hcolumn fun c hc =>
      Text.isDecimalDigit_of_isBlank (hblanks c (List.mem_of_mem_head? hc))
    simpa [isPositionNote, dropBlank?, dropText?, hbefore, hbetween,
      dropDigits?_append hline (hcolon _), hend] using hblanks

/-! ## Lines end in one note at most -/

theorem IsNote.exists_cons (h : IsNote note) :
    ∃ before rest, note = before :: 'a' :: rest ∧ 'a' ∉ rest := by
  obtain @⟨_, _, _, _, blanks, hbefore, hbetween, hline, hcolumn, hblanks⟩ := h
  refine ⟨_, _, rfl, ?_⟩
  have hblank : ∀ c, Text.isBlank c = true → 'a' ≠ c := by
    rintro _ hc rfl
    exact absurd hc (by decide)
  have hdigit : ∀ {cs : List Char}, IsNumber cs → 'a' ∉ cs := fun hcs hmem =>
    absurd (hcs.digits 'a' hmem) (by decide)
  have hafter : 'a' ∉ blanks := fun hmem => hblank 'a' (hblanks 'a' hmem) rfl
  simp [hblank _ hbetween, hdigit hline, hdigit hcolumn, hafter]

/-- A line ends in a note in at most one way. -/
theorem IsNote.append_inj (h : IsNote note) (h' : IsNote note')
    (heq : kept ++ note = kept' ++ note') : kept = kept' ∧ note = note' := by
  obtain ⟨before, rest, rfl, hrest⟩ := h.exists_cons
  obtain ⟨before', rest', rfl, hrest'⟩ := h'.exists_cons
  rw [← List.singleton_append, ← List.append_assoc, ← List.singleton_append (l := 'a' :: rest'),
    ← List.append_assoc] at heq
  obtain ⟨hkept, rfl⟩ := Text.append_cons_inj hrest hrest' heq
  obtain ⟨rfl, hbefore⟩ := List.append_inj' hkept rfl
  exact ⟨rfl, by rw [List.singleton_inj.mp hbefore]⟩

/-! ## Cutting the note -/

theorem cutPositionNote_append (h : IsNote note) (before kept : List Char) :
    cutPositionNote before (kept ++ note) = before.reverse ++ kept := by
  induction kept generalizing before with
  | nil =>
      obtain ⟨_, _, rfl, -⟩ := h.exists_cons
      rw [List.nil_append, cutPositionNote, if_pos (isPositionNote_iff.mpr h), List.append_nil]
  | cons c kept ih =>
      -- A note that began here would be a second one at the end of the line.
      have hnone : ¬ isPositionNote (c :: (kept ++ note)) = true := by
        intro hnote
        have hinj : [] = c :: kept ∧ _ := (isPositionNote_iff.mp hnote).append_inj h rfl
        cases hinj.1
      rw [List.cons_append, cutPositionNote, if_neg hnone, ih, List.reverse_cons, List.append_assoc,
        List.singleton_append]

theorem cutPositionNote_of_forall (h : ∀ kept note, cs = kept ++ note → ¬ IsNote note)
    (before : List Char) : cutPositionNote before cs = before.reverse ++ cs := by
  induction cs generalizing before with
  | nil => exact (List.append_nil _).symm
  | cons c cs ih =>
      have hnone : ¬ isPositionNote (c :: cs) = true := fun hnote =>
        h [] (c :: cs) rfl (isPositionNote_iff.mp hnote)
      have hrest : ∀ kept note, cs = kept ++ note → ¬ IsNote note := fun kept note heq =>
        h (c :: kept) note (by rw [heq, List.cons_append])
      rw [cutPositionNote, if_neg hnone, ih hrest, List.reverse_cons, List.append_assoc,
        List.singleton_append]

/-- The ways to take the first line of a message apart into what is kept and a note. -/
def noteSplits (raw : String) : Set (List Char × List Char) :=
  {split | firstLine raw.toList = split.1 ++ split.2 ∧ IsNote split.2}

theorem clean_toList (raw : String) :
    (clean raw).toList = cutPositionNote [] (firstLine raw.toList) := by
  rw [clean, String.toList_ofList]

theorem clean_of_mem_noteSplits {raw : String} {split : List Char × List Char}
    (h : split ∈ noteSplits raw) : (clean raw).toList = split.1 := by
  rw [clean_toList, h.1]
  exact cutPositionNote_append h.2 [] split.1

theorem clean_of_noteSplits_eq_empty {raw : String} (h : noteSplits raw = ∅) :
    (clean raw).toList = firstLine raw.toList := by
  rw [clean_toList]
  refine cutPositionNote_of_forall (fun kept note heq hnote => ?_) []
  exact Set.notMem_empty (kept, note) (h ▸ ⟨heq, hnote⟩)

/-! ## Messages with a note behind them -/

theorem takeWhile_line {line : List Char} (h : '\n' ∉ line) (rest : List Char) :
    (line ++ rest).takeWhile (· != '\n') = line ++ rest.takeWhile (· != '\n') :=
  List.takeWhile_append_of_pos fun _ hc => by simpa using ne_of_mem_of_not_mem hc h

/-- The first line of a text is what stands before its first line feed, and no carriage return
counts as the end of it. -/
theorem firstLine_append {line tail : List Char} (hline : '\n' ∉ line)
    (hend : line.getLast? ≠ some '\r')
    (htail : tail = [] ∨ ∃ rest, tail = '\n' :: rest ∨ tail = '\r' :: '\n' :: rest) :
    firstLine (line ++ tail) = line := by
  rw [firstLine, takeWhile_line hline]
  rcases htail with rfl | ⟨rest, rfl | rfl⟩ <;> simp [hend]

theorem IsNumber.notMem {c : Char} (h : IsNumber cs) (hc : Text.isDecimalDigit c = false) :
    c ∉ cs :=
  fun hmem => by simp [h.digits c hmem] at hc

/-- The note as the compiler writes it. -/
theorem isNote_written {line column : List Char} (hline : IsNumber line)
    (hcolumn : IsNumber column) :
    IsNote (' ' :: 'a' :: 't' :: ':' :: ' ' :: (line ++ ':' :: column)) := by
  have hspace : Text.isBlank ' ' = true := by decide
  simpa using IsNote.mk hspace hspace hline hcolumn (List.forall_mem_nil _)

theorem clean_append_note {message line column tail : String}
    (hmessage : '\n' ∉ message.toList) (hline : IsNumber line.toList)
    (hcolumn : IsNumber column.toList)
    (htail : tail = "" ∨ ∃ rest, tail = "\n" ++ rest ∨ tail = "\r\n" ++ rest) :
    clean (message ++ " at: " ++ line ++ ":" ++ column ++ tail) = message := by
  have hsplit : (message ++ " at: " ++ line ++ ":" ++ column).toList = message.toList ++
      ' ' :: 'a' :: 't' :: ':' :: ' ' :: (line.toList ++ ':' :: column.toList) := by
    simp
  have hunbroken : '\n' ∉ (message ++ " at: " ++ line ++ ":" ++ column).toList := by
    have hdigit : Text.isDecimalDigit '\n' = false := by decide
    simp [hmessage, hline.notMem hdigit, hcolumn.notMem hdigit]
  have hend : (message ++ " at: " ++ line ++ ":" ++ column).toList.getLast? ≠ some '\r' := by
    rw [String.toList_append, List.getLast?_append, List.getLast?_eq_some_getLast hcolumn.ne_nil,
      Option.some_or, ne_eq, Option.some.injEq]
    intro hlast
    exact hcolumn.notMem (by decide) (hlast ▸ List.getLast_mem hcolumn.ne_nil)
  have hbehind : tail.toList = [] ∨
      ∃ rest, tail.toList = '\n' :: rest ∨ tail.toList = '\r' :: '\n' :: rest := by
    rcases htail with rfl | ⟨rest, rfl | rfl⟩ <;> simp
  have hfirst := firstLine_append hunbroken hend hbehind
  rw [← String.toList_append, hsplit] at hfirst
  have hkept : (message.toList, _) ∈ noteSplits _ := ⟨hfirst, isNote_written hline hcolumn⟩
  exact String.toList_inj.mp (clean_of_mem_noteSplits hkept)

/-- The first line of a message ends in a note in at most one way. Cleaning gives what is before
that note, or the whole line if there is none. A message of one line with a note behind it comes
back as it was, whatever notes it holds and whatever lines come after it. -/
theorem clean_cuts_note :
    (∀ raw : String, (noteSplits raw).Subsingleton ∧
      (∀ split ∈ noteSplits raw, (clean raw).toList = split.1) ∧
      (noteSplits raw = ∅ → (clean raw).toList = firstLine raw.toList)) ∧
    ∀ message line column tail : String, '\n' ∉ message.toList →
      IsNumber line.toList → IsNumber column.toList →
      (tail = "" ∨ ∃ rest, tail = "\n" ++ rest ∨ tail = "\r\n" ++ rest) →
      clean (message ++ " at: " ++ line ++ ":" ++ column ++ tail) = message := by
  refine ⟨fun raw => ⟨?_, fun split => clean_of_mem_noteSplits, clean_of_noteSplits_eq_empty⟩,
    fun message line column tail => clean_append_note⟩
  rintro ⟨kept, note⟩ ⟨hline, hnote⟩ ⟨kept', note'⟩ ⟨hline', hnote'⟩
  exact Prod.ext_iff.mpr (hnote.append_inj hnote' (hline.symm.trans hline'))

/-- A note in digits of another script, behind a message that ends in a note itself. -/
theorem clean_cuts_note_behind_note :
    '\n' ∉ "Bad at: 1:2".toList ∧ IsNumber "٣".toList ∧ IsNumber "04".toList ∧
      clean ("Bad at: 1:2" ++ " at: " ++ "٣" ++ ":" ++ "04" ++ "\r\n at: 5:6") = "Bad at: 1:2" := by
  have hmessage : '\n' ∉ "Bad at: 1:2".toList := by decide
  have hline : IsNumber "٣".toList := ⟨by decide, List.all_eq_true.mp (by decide)⟩
  have hcolumn : IsNumber "04".toList := ⟨by decide, List.all_eq_true.mp (by decide)⟩
  exact ⟨hmessage, hline, hcolumn,
    clean_cuts_note.2 _ _ _ _ hmessage hline hcolumn (.inr ⟨" at: 5:6", .inr rfl⟩)⟩

end Message

end TemplateBundler

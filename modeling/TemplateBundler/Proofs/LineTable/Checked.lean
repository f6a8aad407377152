import TemplateBundler.Proofs.Checked
import TemplateBundler.Proofs.LineTable.Ranges

/-! # Look-ups that might fault

The look-ups of a line table in operations that fault where words of 64 bits end or a list has no
such entry. A table that fits no text asks for no missing entry either: whether a line exists is
decided by the table alone, and a line that exists has a break before it if it is not the first.
Only the sums have to be words.
-/

namespace TemplateBundler

open Text

/-- A word holds the place behind each break, and the number of lines, as it does for every list
that fits in memory. -/
structure LineTable.IsStored (table : LineTable) : Prop where
  lt_max : ∀ offset ∈ table.breaks, offset < maxNatural
  length_lt_max : table.breaks.length < maxNatural

namespace Checked

variable {sure : Prop} {line : Nat} {table : LineTable}

/-! ## Look-ups -/

def isTerminated (table : LineTable) : Except Fault Bool :=
  match table.breaks.getLast? with
  | some last => do
    let behind ← add last 1
    return behind == table.length
  | none => return table.length == 0

def lineCount (table : LineTable) : Except Fault Nat := do
  if ← isTerminated table then return table.breaks.length
  else add table.breaks.length 1

def lineStart (table : LineTable) (line : Nat) : Except Fault Nat :=
  if line = 1 then return 0
  else do
    let place ← sub line 2
    let before ← entry table.breaks place
    add before 1

def lineBreak (table : LineTable) (line : Nat) : Except Fault Nat := do
  let place ← sub line 1
  return table.breaks[place]?.getD table.length

/-- The offset without the carriage return right before it, if there is one on the line. -/
def beforeReturn (text : String) (start stop : Nat) : Except Fault Nat :=
  if start < stop then do
    let last ← sub stop 1
    return if LineTable.returnsAt text last then last else stop
  else return stop

def lineRange? (table : LineTable) (line : Nat) (text : String) :
    Except Fault (Option ByteRange) :=
  if line = 0 then return none
  else do
    let count ← lineCount table
    if count < line then return none
    else
      let start ← lineStart table line
      let stop ← lineBreak table line
      let stop ← beforeReturn text start stop
      return some ⟨start, stop⟩

theorem ends_isTerminated (table : LineTable) :
    Ends table.IsStored (isTerminated table) table.isTerminated := by
  rw [isTerminated, LineTable.isTerminated]
  cases hlast : table.breaks.getLast? with
  | none => exact ends_pure _
  | some last =>
      have hword : table.IsStored → last + 1 ≤ maxNatural :=
        fun h => h.lt_max last (List.mem_of_getLast? hlast)
      exact (ends_add hword).bind (ends_pure _)

theorem ends_lineCount (table : LineTable) :
    Ends table.IsStored (lineCount table) table.lineCount := by
  refine (ends_isTerminated table).bind ?_
  rw [LineTable.lineCount]
  cases table.isTerminated with
  | true => exact ends_pure _
  | false => exact ends_add fun h => h.length_lt_max

/-- A line that exists has a break before it, unless it is the first. -/
theorem ends_lineStart (hline : line ∈ Set.Icc 1 table.lineCount) :
    Ends table.IsStored (lineStart table line) (table.lineStart line) := by
  obtain ⟨hpos, hle⟩ := hline
  rw [lineStart, LineTable.lineStart]
  by_cases hone : line = 1
  · rw [if_pos hone, if_pos (Nat.le_of_eq hone)]
    exact ends_pure _
  · have hbefore : line - 1 ≤ table.breaks.length := LineTable.le_length_breaks (by omega)
    have hplace : line - 2 < table.breaks.length := by omega
    rw [if_neg hone, if_neg (by omega), List.getElem?_eq_getElem hplace]
    refine (ends_sub (by omega)).bind ((ends_entry hplace).bind ?_)
    exact ends_add fun h => h.lt_max _ (List.getElem_mem hplace)

theorem ends_lineBreak (table : LineTable) (hpos : 0 < line) :
    Ends sure (lineBreak table line) (table.lineBreak line) :=
  (ends_sub hpos).bind (ends_pure _)

theorem ends_beforeReturn (text : String) (start stop : Nat) :
    Ends sure (beforeReturn text start stop)
      (if start < stop && LineTable.returnsAt text (stop - 1) then stop - 1 else stop) := by
  rw [beforeReturn]
  by_cases hlt : start < stop
  · rw [if_pos hlt, decide_eq_true hlt, Bool.true_and]
    exact (ends_sub (by omega)).bind (ends_pure _)
  · rw [if_neg hlt, decide_eq_false hlt, Bool.false_and]
    exact ends_pure _

/-- Looking up a line asks for no entry and no difference that is not there, whatever the table
says of the text. -/
theorem ends_lineRange? (table : LineTable) (line : Nat) (text : String) :
    Ends table.IsStored (lineRange? table line text) (table.lineRange? line text) := by
  rw [lineRange?]
  by_cases hline : line ∈ Set.Icc 1 table.lineCount
  · rw [LineTable.lineRange?_of_mem hline, if_neg (Nat.ne_of_gt hline.1)]
    refine (ends_lineCount table).bind ?_
    rw [if_neg (Nat.not_lt.mpr hline.2)]
    refine (ends_lineStart hline).bind ((ends_lineBreak table hline.1).bind ?_)
    exact (ends_beforeReturn text _ _).bind (ends_pure _)
  · rw [LineTable.lineRange?_of_not_mem hline]
    by_cases hzero : line = 0
    · rw [if_pos hzero]
      exact ends_pure _
    · have hlt : table.lineCount < line := by
        rw [Set.mem_Icc] at hline
        omega
      rw [if_neg hzero]
      refine (ends_lineCount table).bind ?_
      rw [if_pos hlt]
      exact ends_pure _

/-- The place behind the greatest break is no word. -/
example : lineRange? ⟨[maxNatural], 0⟩ 2 "" = .error .overflow := rfl

end Checked

theorem LineTable.isStored_ofText {text : String} (h : text.utf8ByteSize < maxNatural) :
    (ofText text).IsStored where
  lt_max offset hoffset := by
    have hlt := lt_of_mem_lineFeedsFrom hoffset
    rw [Nat.zero_add, byteLength_toList] at hlt
    omega
  length_lt_max := by
    have hcount := List.count_le_length (a := '\n') (l := text.toList)
    have hlength := length_le_byteLength text.toList
    rw [byteLength_toList] at hlength
    rw [ofText, length_lineFeedsFrom]
    omega

end TemplateBundler

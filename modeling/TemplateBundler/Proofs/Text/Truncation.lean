import TemplateBundler.Proofs.Checked
import TemplateBundler.Proofs.Text.Bytes
import TemplateBundler.Proofs.Text.Slice

/-! # Cutting a text at a limit

A text that is too long is cut at the last place within the limit that is not inside a character.
This place is found by going back from the limit byte by byte. The way back ends in time, since the
first byte of a text begins a character, and it is short, since a character has at most four bytes.
-/

namespace TemplateBundler

open Text

namespace Checked

variable {bytes : Bytes} {text : String} {cs : List Char} {c : Char} {offset : Nat}

/-- Whether a character begins at the offset, or the text ends there, as the byte there tells. -/
def isBoundary (bytes : Bytes) (offset : Nat) : Bool :=
  match bytes[offset]? with
  | some b => b.IsUTF8FirstByte
  | none => offset == bytes.length

/-- Goes back to the nearest boundary. -/
def backToBoundary (bytes : Bytes) (offset : Nat) : Except Fault Nat :=
  if isBoundary bytes offset then return offset
  else match offset with
    | 0 => throw .underflow
    | before + 1 => backToBoundary bytes before

/-- The text in front of an offset, which has to be a boundary. -/
def textBefore (text : String) (stop : Nat) : Except Fault String :=
  match splitAt? stop text.toList with
  | some (front, _) => .ok (String.ofList front)
  | none => .error .outOfBounds

def truncate (limit : Nat) (text : String) : Except Fault String :=
  if text.utf8ByteSize ≤ limit then return text
  else do
    let stop ← backToBoundary (Bytes.ofText text) limit
    textBefore text stop

/-! ## Boundaries -/

/-- Of the bytes of a character only the first begins one. -/
theorem isBoundary_utf8EncodeChar_append (h : offset < c.utf8Size) (bytes : Bytes) :
    isBoundary (String.utf8EncodeChar c ++ bytes) offset ↔ offset = 0 := by
  have hlt : offset < (String.utf8EncodeChar c).length := by
    rwa [String.length_utf8EncodeChar]
  rw [isBoundary, List.getElem?_append_left hlt, List.getElem?_eq_getElem hlt]
  exact decide_eq_true_iff.trans UInt8.isUTF8FirstByte_getElem_utf8EncodeChar

theorem isBoundary_append_add (front bytes : Bytes) (offset : Nat) :
    isBoundary (front ++ bytes) (front.length + offset) = isBoundary bytes offset := by
  rw [isBoundary, isBoundary, List.getElem?_append_right (Nat.le_add_right _ _),
    Nat.add_sub_cancel_left, List.length_append]
  cases bytes[offset]? with
  | some b => rfl
  | none => simp

/-- The boundaries in the bytes of a text are where its fronts end. -/
theorem isBoundary_flatMap_iff : isBoundary (cs.flatMap String.utf8EncodeChar) offset ↔
    ∃ front, front <+: cs ∧ byteLength front = offset := by
  induction cs generalizing offset with
  | nil =>
      have hend : isBoundary [] offset ↔ offset = 0 := beq_iff_eq
      simpa using hend.trans eq_comm
  | cons c cs ih =>
      rw [List.flatMap_cons]
      by_cases hlt : offset < c.utf8Size
      · rw [isBoundary_utf8EncodeChar_append hlt]
        constructor
        · rintro rfl
          exact ⟨[], List.nil_prefix, rfl⟩
        · rintro ⟨front, hfront, rfl⟩
          obtain rfl | ⟨tail, rfl, -⟩ := List.prefix_cons_iff.mp hfront
          · rfl
          · rw [byteLength_cons] at hlt
            omega
      · obtain ⟨rest, rfl⟩ : ∃ rest, offset = (String.utf8EncodeChar c).length + rest :=
          Nat.exists_eq_add_of_le (by rw [String.length_utf8EncodeChar]; omega)
        rw [isBoundary_append_add, ih, String.length_utf8EncodeChar]
        constructor
        · rintro ⟨front, hfront, rfl⟩
          exact ⟨c :: front, (List.prefix_cons_inj c).mpr hfront, rfl⟩
        · rintro ⟨front, hfront, hlength⟩
          have hpos := Char.utf8Size_pos c
          obtain rfl | ⟨tail, rfl, htail⟩ := List.prefix_cons_iff.mp hfront
          · rw [byteLength_nil] at hlength
            omega
          · rw [byteLength_cons] at hlength
            exact ⟨tail, htail, by omega⟩

theorem isBoundary_ofText_iff : isBoundary (Bytes.ofText text) offset ↔
    ∃ front, front <+: text.toList ∧ byteLength front = offset :=
  isBoundary_flatMap_iff

/-! ## The way back -/

/-- In the bytes of a text the way back ends at the longest front that fits. -/
theorem backToBoundary_ofText (text : String) (offset : Nat) :
    backToBoundary (Bytes.ofText text) offset =
      .ok (byteLength (takeBytes offset text.toList)) := by
  have htake (limit : Nat) := isLongestFront_takeBytes limit text.toList
  induction offset with
  | zero =>
      have hstart : isBoundary (Bytes.ofText text) 0 :=
        isBoundary_ofText_iff.mpr ⟨[], List.nil_prefix, rfl⟩
      rw [backToBoundary, if_pos hstart, Nat.le_zero.mp (htake 0).fits]
      rfl
  | succ before ih =>
      rw [backToBoundary]
      split_ifs with hboundary
      · obtain ⟨front, hfront, hlength⟩ := isBoundary_ofText_iff.mp hboundary
        have hle := byteLength_le_of_isPrefix ((htake (before + 1)).longest front hfront hlength.le)
        have hge := (htake (before + 1)).fits
        have hsame : byteLength (takeBytes (before + 1) text.toList) = before + 1 := by omega
        rw [hsame]
        rfl
      · -- No front is as long as that, so the longest one fits before it already.
        have hne : byteLength (takeBytes (before + 1) text.toList) ≠ before + 1 := fun hsame =>
          hboundary (isBoundary_ofText_iff.mpr ⟨_, (htake _).isPrefix, hsame⟩)
        have hfits : byteLength (takeBytes (before + 1) text.toList) ≤ before := by
          have hge := (htake (before + 1)).fits
          omega
        have hshorter := takeBytes_takeBytes (before + 1) before text.toList
        rw [takeBytes_eq_self_iff.mpr hfits, Nat.min_eq_right (Nat.le_succ before)] at hshorter
        rw [hshorter]
        exact ih

/-- In bytes that are no text there may be nothing to go back to. -/
example : backToBoundary [0x80] 0 = .error .underflow := by decide

theorem truncate_eq_ok (limit : Nat) (text : String) :
    truncate limit text = .ok (Text.truncate limit text) := by
  rw [truncate, Text.truncate]
  split_ifs with hle
  · rw [← byteLength_toList] at hle
    rw [takeBytes_eq_self_iff.mpr hle, String.ofList_toList]
    rfl
  · obtain ⟨rest, hrest⟩ := (isLongestFront_takeBytes limit text.toList).isPrefix
    have hcut := splitAt?_byteLength (takeBytes limit text.toList) rest
    rw [hrest] at hcut
    rw [backToBoundary_ofText]
    change textBefore text _ = _
    rw [textBefore, hcut]

/-- The limit falls inside the second character. -/
example : truncate 2 "héllo" = .ok "h" := by decide

end Checked

namespace Text

/-- Cutting a text at a limit comes to an end, and neither goes back behind the start of the text
nor cuts a character. It leaves the longest front of whole characters within the limit, which is
the whole text exactly if this fits and at most three bytes short of the limit if not. Cutting it
again is cutting at the smaller of the limits. -/
theorem truncate_leaves_longest_front (limit other : Nat) (text : String) :
    Checked.truncate limit text = .ok (truncate limit text) ∧
    IsLongestFront limit text.toList (truncate limit text).toList ∧
    (truncate limit text = text ↔ text.utf8ByteSize ≤ limit) ∧
    (limit < text.utf8ByteSize → limit ≤ (truncate limit text).utf8ByteSize + 3) ∧
    truncate other (truncate limit text) = truncate (min limit other) text := by
  have hchars (limit : Nat) (text : String) :
      (truncate limit text).toList = takeBytes limit text.toList := String.toList_ofList
  refine ⟨Checked.truncate_eq_ok limit text, ?_, ?_, ?_, ?_⟩
  · rw [hchars]
    exact isLongestFront_takeBytes limit text.toList
  · rw [← String.toList_inj, hchars, takeBytes_eq_self_iff, byteLength_toList]
  · intro hlong
    rw [← byteLength_toList] at hlong
    rw [← byteLength_toList, hchars]
    exact Nat.le_of_lt_succ (lt_byteLength_takeBytes hlong)
  · rw [← String.toList_inj, hchars, hchars, hchars, takeBytes_takeBytes]

end Text

end TemplateBundler

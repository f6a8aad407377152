import Mathlib.Tactic.IntervalCases
import TemplateBundler.Text.Bytes

/-! # Bytes of a text

The bytes of a text are read back as that text. An ASCII character has one byte of its own,
which stands in no other character, so texts and their bytes may be split at it alike.
-/

namespace TemplateBundler.Bytes

/-! ## Reading characters -/

section Openings

variable {bits : Nat}

theorem opening?_two (hleast : 2 ≤ bits) (hgreatest : bits < 0x20) :
    opening? (UInt8.ofNat (bits + 0xC0)) = some ⟨1, 0x80, 0xBF, bits⟩ := by
  interval_cases bits <;> rfl

theorem opening?_three (h : bits < 0x10) :
    opening? (UInt8.ofNat (bits + 0xE0)) =
      some ⟨2, if bits = 0 then 0xA0 else 0x80, if bits = 0xD then 0x9F else 0xBF, bits⟩ := by
  interval_cases bits <;> rfl

theorem opening?_four (h : bits < 5) :
    opening? (UInt8.ofNat (bits + 0xF0)) =
      some ⟨3, if bits = 0 then 0x90 else 0x80, if bits = 4 then 0x8F else 0xBF, bits⟩ := by
  interval_cases bits <;> rfl

end Openings

namespace Reading

variable {b : UInt8} {bits more : Nat} {demand : Opening}

theorem step_ascii (done : List (Option Char)) (hb : b < 0x80) :
    step { done } b = { done := some (Char.ofNat b.toNat) :: done } := by
  simp [step, start, hb]

theorem step_opening (done : List (Option Char)) (h : opening? b = some demand) :
    step { done } b = { begun := some demand, done } := by
  have hb : ¬ b < 0x80 := by
    intro hlt
    have hnone : b < 0xC2 := UInt8.lt_trans hlt (by decide)
    simp [opening?, hnone] at h
  simp [step, start, hb, h]

/-- The last byte that is asked for completes the character under way. -/
theorem step_last (done : List (Option Char)) {least greatest : UInt8} {lead : Nat}
    (hb : b.toNat = bits + 0x80) (hleast : least.toNat ≤ bits + 0x80)
    (hgreatest : bits + 0x80 ≤ greatest.toNat) :
    step { begun := some ⟨1, least, greatest, lead⟩, done } b =
      { done := some (Char.ofNat (lead * 64 + bits)) :: done } := by
  simp [step, UInt8.le_iff_toNat_le, hb, hleast, hgreatest]

/-- A byte that is asked for before the last one brings the character on. -/
theorem step_further (done : List (Option Char)) {least greatest : UInt8} {lead following : Nat}
    (hb : b.toNat = bits + 0x80) (hleast : least.toNat ≤ bits + 0x80)
    (hgreatest : bits + 0x80 ≤ greatest.toNat) :
    step { begun := some ⟨following + 2, least, greatest, lead⟩, done } b =
      { begun := some ⟨following + 1, 0x80, 0xBF, lead * 64 + bits⟩, done } := by
  simp [step, UInt8.le_iff_toNat_le, hb, hleast, hgreatest]

theorem toNat_continuation (h : bits < 0x40) : (UInt8.ofNat (bits + 0x80)).toNat = bits + 0x80 := by
  rw [UInt8.toNat_ofNat', Nat.mod_eq_of_lt (by omega)]

/-- A byte that continues a character is asked for wherever no character is excluded. -/
theorem continuation_le (h : bits < 0x40) : bits + 0x80 ≤ (0xBF : UInt8).toNat := by
  change bits + 0x80 ≤ 0xBF
  omega

section Characters

variable {n : Nat} (done : List (Option Char))

theorem foldl_step_two (hleast : 0x80 ≤ n) (hgreatest : n < 0x800) :
    [UInt8.ofNat (n / 64 % 0x20 + 0xC0), UInt8.ofNat (n % 0x40 + 0x80)].foldl step { done } =
      { done := some (Char.ofNat n) :: done } := by
  have hopening : opening? (UInt8.ofNat (n / 64 % 0x20 + 0xC0)) =
      some ⟨1, 0x80, 0xBF, n / 64 % 0x20⟩ := opening?_two (by omega) (by omega)
  have hbits : n % 0x40 < 0x40 := Nat.mod_lt _ (by decide)
  have hlast := toNat_continuation hbits
  have hvalue : n / 64 % 0x20 * 64 + n % 0x40 = n := by omega
  rw [List.foldl_cons, step_opening done hopening, List.foldl_cons,
    step_last done hlast (Nat.le_add_left _ _) (continuation_le hbits), hvalue, List.foldl_nil]

theorem foldl_step_three (hleast : 0x800 ≤ n) (hgreatest : n < 0x10000)
    (hvalid : n < 0xD800 ∨ 0xDFFF < n) :
    [UInt8.ofNat (n / 4096 % 0x10 + 0xE0), UInt8.ofNat (n / 64 % 0x40 + 0x80),
      UInt8.ofNat (n % 0x40 + 0x80)].foldl step { done } =
      { done := some (Char.ofNat n) :: done } := by
  have hopening := opening?_three (Nat.mod_lt (n / 4096) (by decide : 0x10 > 0))
  have hmiddle : n / 64 % 0x40 < 0x40 := Nat.mod_lt _ (by decide)
  have hbits : n % 0x40 < 0x40 := Nat.mod_lt _ (by decide)
  have hvalue : (n / 4096 % 0x10 * 64 + n / 64 % 0x40) * 64 + n % 0x40 = n := by omega
  -- No character is written with more bytes than it needs, and none is a surrogate.
  have hlong : (if n / 4096 % 0x10 = 0 then 0xA0 else 0x80 : UInt8).toNat ≤
      n / 64 % 0x40 + 0x80 := by
    split_ifs
    · change 0xA0 ≤ _
      omega
    · exact Nat.le_add_left _ _
  have hsurrogate : n / 64 % 0x40 + 0x80 ≤
      (if n / 4096 % 0x10 = 0xD then 0x9F else 0xBF : UInt8).toNat := by
    split_ifs
    · change _ ≤ 0x9F
      omega
    · exact continuation_le hmiddle
  rw [List.foldl_cons, step_opening done hopening, List.foldl_cons,
    step_further done (toNat_continuation hmiddle) hlong hsurrogate, List.foldl_cons,
    step_last done (toNat_continuation hbits) (Nat.le_add_left _ _) (continuation_le hbits),
    hvalue, List.foldl_nil]

theorem foldl_step_four (hleast : 0x10000 ≤ n) (hgreatest : n < 0x110000) :
    [UInt8.ofNat (n / 262144 % 0x08 + 0xF0), UInt8.ofNat (n / 4096 % 0x40 + 0x80),
      UInt8.ofNat (n / 64 % 0x40 + 0x80), UInt8.ofNat (n % 0x40 + 0x80)].foldl step { done } =
      { done := some (Char.ofNat n) :: done } := by
  -- The greatest character has 4 for its leading bits.
  have hlead : n / 262144 % 0x08 < 5 := by omega
  have hopening := opening?_four hlead
  have hsecond : n / 4096 % 0x40 < 0x40 := Nat.mod_lt _ (by decide)
  have hthird : n / 64 % 0x40 < 0x40 := Nat.mod_lt _ (by decide)
  have hbits : n % 0x40 < 0x40 := Nat.mod_lt _ (by decide)
  have hvalue : ((n / 262144 % 0x08 * 64 + n / 4096 % 0x40) * 64 + n / 64 % 0x40) * 64 +
      n % 0x40 = n := by omega
  have hlong : (if n / 262144 % 0x08 = 0 then 0x90 else 0x80 : UInt8).toNat ≤
      n / 4096 % 0x40 + 0x80 := by
    split_ifs
    · change 0x90 ≤ _
      omega
    · exact Nat.le_add_left _ _
  have hgreat : n / 4096 % 0x40 + 0x80 ≤
      (if n / 262144 % 0x08 = 4 then 0x8F else 0xBF : UInt8).toNat := by
    split_ifs
    · change _ ≤ 0x8F
      omega
    · exact continuation_le hsecond
  rw [List.foldl_cons, step_opening done hopening, List.foldl_cons,
    step_further done (toNat_continuation hsecond) hlong hgreat, List.foldl_cons,
    step_further done (toNat_continuation hthird) (Nat.le_add_left _ _) (continuation_le hthird),
    List.foldl_cons,
    step_last done (toNat_continuation hbits) (Nat.le_add_left _ _) (continuation_le hbits),
    hvalue, List.foldl_nil]

/-- The bytes of a character are read as this character. -/
theorem foldl_step_utf8EncodeChar (c : Char) :
    (String.utf8EncodeChar c).foldl step { done } = { done := some c :: done } := by
  have hvalid : c.toNat < 0xD800 ∨ 0xDFFF < c.toNat ∧ c.toNat < 0x110000 := c.valid
  unfold String.utf8EncodeChar
  dsimp only
  rw [← Char.toNat]
  split_ifs with hone htwo hthree
  · have hbyte : (UInt8.ofNat c.toNat).toNat = c.toNat := by
      rw [UInt8.toNat_ofNat', Nat.mod_eq_of_lt (by omega)]
    have hascii : UInt8.ofNat c.toNat < 0x80 := by
      rw [UInt8.lt_iff_toNat_lt, hbyte]
      exact Nat.lt_succ_of_le hone
    rw [List.foldl_cons, step_ascii done hascii, hbyte, Char.ofNat_toNat, List.foldl_nil]
  · rw [foldl_step_two done (by omega) (by omega), Char.ofNat_toNat]
  · rw [foldl_step_three done (by omega) (by omega) (by omega), Char.ofNat_toNat]
  · rw [foldl_step_four done (by omega) (by omega), Char.ofNat_toNat]

end Characters

end Reading

/-! ## Texts -/

variable {s t : String} {bytes other : Bytes} {c : Char}

/-- Texts are read back from their bytes. -/
theorem decode_ofText (s : String) : decode (ofText s) = s.toList.map some := by
  have hread : ∀ (cs : List Char) (done : List (Option Char)),
      (cs.flatMap String.utf8EncodeChar).foldl Reading.step { done } =
        { done := (cs.map some).reverse ++ done } := by
    intro cs
    induction cs with
    | nil => exact fun done => rfl
    | cons c cs ih =>
        intro done
        rw [List.flatMap_cons, List.foldl_append, Reading.foldl_step_utf8EncodeChar, ih]
        simp
  rw [decode, ofText, hread]
  simp [Reading.finish]

theorem shown_ofText (s : String) : shown (ofText s) = s := by
  rw [shown, decode_ofText, List.map_map, ← String.toList_inj, String.toList_ofList]
  exact List.map_id _

theorem ofText_inj : ofText s = ofText t ↔ s = t :=
  ⟨fun h => by rw [← shown_ofText s, h, shown_ofText], congrArg ofText⟩

theorem ofText_append (s t : String) : ofText (s ++ t) = ofText s ++ ofText t := by
  rw [ofText, String.toList_append, List.flatMap_append, ← ofText, ← ofText]

/-! ## ASCII characters -/

theorem utf8EncodeChar_of_ascii (hc : c.toNat < 0x80) : String.utf8EncodeChar c = [c.toUInt8] := by
  unfold String.utf8EncodeChar
  exact if_pos (Nat.le_of_lt_succ hc)

/-- No byte of any other character is one of an ASCII character. -/
theorem le_of_mem_utf8EncodeChar {b : UInt8} (hc : ¬ c.toNat < 0x80)
    (hb : b ∈ String.utf8EncodeChar c) : 0x80 ≤ b.toNat := by
  have hbyte : ∀ bits lead, lead + bits < 0x100 → 0x80 ≤ lead →
      0x80 ≤ (UInt8.ofNat (bits + lead)).toNat := by
    intro bits lead hlt hle
    rw [UInt8.toNat_ofNat', Nat.mod_eq_of_lt (by omega)]
    omega
  unfold String.utf8EncodeChar at hb
  dsimp only at hb
  rw [← Char.toNat] at hb
  split_ifs at hb with hone htwo hthree
  · exact absurd (Nat.lt_succ_of_le hone) hc
  all_goals
    simp only [List.mem_cons, List.not_mem_nil, or_false] at hb
    rcases hb with rfl | rfl | rfl | rfl <;> exact hbyte _ _ (by omega) (by omega)

theorem mem_utf8EncodeChar_iff {d : Char} (hc : c.toNat < 0x80) :
    c.toUInt8 ∈ String.utf8EncodeChar d ↔ d = c := by
  have hbyte : c.toUInt8.toNat = c.toNat := Nat.mod_eq_of_lt (Nat.lt_trans hc (by decide))
  constructor
  · intro hmem
    by_cases hd : d.toNat < 0x80
    · rw [utf8EncodeChar_of_ascii hd, List.mem_singleton] at hmem
      have hsame : d.toUInt8.toNat = d.toNat := Nat.mod_eq_of_lt (Nat.lt_trans hd (by decide))
      rw [← Char.ofNat_toNat d, ← Char.ofNat_toNat c, ← hbyte, hmem, hsame]
    · have hle := le_of_mem_utf8EncodeChar hd hmem
      omega
  · rintro rfl
    rw [utf8EncodeChar_of_ascii hc]
    exact List.mem_singleton_self _

theorem mem_ofText_iff (hc : c.toNat < 0x80) : c.toUInt8 ∈ ofText s ↔ c ∈ s.toList := by
  simp [ofText, List.mem_flatMap, mem_utf8EncodeChar_iff hc]

theorem splitOn_append_of_notMem {b : UInt8} {front : Bytes} (hb : b ∉ front) (rest : Bytes) :
    (front ++ rest).splitOn b = (rest.splitOn b).modifyHead (front ++ ·) := by
  induction front with
  | nil => exact (congrFun List.modifyHead_id _).symm
  | cons a front ih =>
      rw [List.mem_cons, not_or] at hb
      obtain ⟨hne, hb⟩ := hb
      rw [List.cons_append, List.splitOn_cons_eq_if_modifyHead, if_neg (by simpa using Ne.symm hne),
        ih hb, List.modifyHead_modifyHead]
      rfl

theorem notMem_of_mem_splitOn {b : UInt8} {piece : Bytes} (h : piece ∈ bytes.splitOn b) :
    b ∉ piece := by
  induction bytes generalizing piece with
  | nil =>
      rw [List.splitOn_nil, List.mem_singleton] at h
      rw [h]
      exact List.not_mem_nil
  | cons a bytes ih =>
      rw [List.splitOn_cons_eq_if_modifyHead] at h
      split_ifs at h with ha
      · rcases List.mem_cons.mp h with rfl | hrest
        · exact List.not_mem_nil
        · exact ih hrest
      · cases hpieces : bytes.splitOn b with
        | nil => exact absurd hpieces (List.splitOn_ne_nil b bytes)
        | cons first pieces =>
            rw [hpieces, List.modifyHead_cons, List.mem_cons] at h
            rw [hpieces] at ih
            rcases h with rfl | hrest
            · rw [List.mem_cons, not_or]
              exact ⟨fun heq => ha (by simp [heq]), ih List.mem_cons_self⟩
            · exact ih (List.mem_cons_of_mem _ hrest)

/-- A text and its bytes are split alike. -/
theorem splitOn_ofText (hc : c.toNat < 0x80) (s : String) :
    (ofText s).splitOn c.toUInt8 =
      (s.toList.splitOn c).map fun piece => ofText (String.ofList piece) := by
  simp only [ofText, String.toList_ofList]
  induction s.toList with
  | nil => rfl
  | cons d cs ih =>
      rw [List.flatMap_cons, List.splitOn_cons_eq_if_modifyHead]
      split_ifs with hd
      · rw [beq_iff_eq] at hd
        rw [hd, utf8EncodeChar_of_ascii hc, List.singleton_append,
          List.splitOn_cons_eq_if_modifyHead, if_pos (beq_self_eq_true _), ih]
        rfl
      · rw [splitOn_append_of_notMem, ih]
        · cases hpieces : cs.splitOn c with
          | nil => rfl
          | cons piece pieces => simp
        · rw [mem_utf8EncodeChar_iff hc]
          simpa using hd

/-! ## Bytes that are a text -/

/-- The bytes are those of some text. -/
def IsText (bytes : Bytes) : Prop := ∃ s, bytes = ofText s

theorem isText_ofText (s : String) : IsText (ofText s) := ⟨s, rfl⟩

theorem isText_nil : IsText [] := ⟨"", rfl⟩

theorem isText_toUInt8 (hc : c.toNat < 0x80) : IsText [c.toUInt8] :=
  ⟨String.singleton c, by simp [ofText, utf8EncodeChar_of_ascii hc]⟩

theorem IsText.append (h : IsText bytes) (hother : IsText other) : IsText (bytes ++ other) := by
  obtain ⟨s, rfl⟩ := h
  obtain ⟨t, rfl⟩ := hother
  exact ⟨s ++ t, (ofText_append s t).symm⟩

theorem IsText.of_mem_splitOn (h : IsText bytes) (hc : c.toNat < 0x80)
    (hmem : other ∈ bytes.splitOn c.toUInt8) : IsText other := by
  obtain ⟨s, rfl⟩ := h
  rw [splitOn_ofText hc, List.mem_map] at hmem
  obtain ⟨piece, -, rfl⟩ := hmem
  exact isText_ofText _

theorem isText_intercalate {separator : Bytes} {parts : List Bytes} (h : IsText separator)
    (hparts : ∀ part ∈ parts, IsText part) : IsText (separator.intercalate parts) := by
  induction parts with
  | nil => exact isText_nil
  | cons part parts ih =>
      obtain ⟨hpart, hothers⟩ := List.forall_mem_cons.mp hparts
      cases parts with
      | nil => simpa using hpart
      | cons next parts =>
          rw [List.intercalate_cons_cons]
          exact (hpart.append h).append (ih hothers)

end TemplateBundler.Bytes

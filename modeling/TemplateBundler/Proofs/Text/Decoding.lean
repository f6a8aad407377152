import TemplateBundler.Proofs.Text.Bytes

/-! # Which bytes are a text

Reading never takes back what it has read, so one unreadable piece is enough to spoil a text. Where
there is none, each character was read from its own bytes, and the bytes are those of the text.
-/

namespace TemplateBundler.Bytes

/-! ## Bytes of characters -/

section Characters

variable {b : UInt8} {n bits : Nat}

theorem toNat_ofNat_of_valid (h : n < 0xD800 ∨ 0xDFFF < n ∧ n < 0x110000) :
    (Char.ofNat n).toNat = n := by
  rw [Char.ofNat, dif_pos h]
  rfl

theorem utf8EncodeChar_two (hleast : 0x80 ≤ n) (hgreatest : n < 0x800) :
    String.utf8EncodeChar (Char.ofNat n) =
      [UInt8.ofNat (n / 64 % 0x20 + 0xC0), UInt8.ofNat (n % 0x40 + 0x80)] := by
  unfold String.utf8EncodeChar
  dsimp only
  rw [← Char.toNat, toNat_ofNat_of_valid (by omega), if_neg (by omega), if_pos (by omega)]

theorem utf8EncodeChar_three (hleast : 0x800 ≤ n) (hgreatest : n < 0x10000)
    (hvalid : n < 0xD800 ∨ 0xDFFF < n) :
    String.utf8EncodeChar (Char.ofNat n) =
      [UInt8.ofNat (n / 4096 % 0x10 + 0xE0), UInt8.ofNat (n / 64 % 0x40 + 0x80),
        UInt8.ofNat (n % 0x40 + 0x80)] := by
  unfold String.utf8EncodeChar
  dsimp only
  rw [← Char.toNat, toNat_ofNat_of_valid (by omega), if_neg (by omega), if_neg (by omega),
    if_pos (by omega)]

theorem utf8EncodeChar_four (hleast : 0x10000 ≤ n) (hgreatest : n < 0x110000) :
    String.utf8EncodeChar (Char.ofNat n) =
      [UInt8.ofNat (n / 262144 % 0x08 + 0xF0), UInt8.ofNat (n / 4096 % 0x40 + 0x80),
        UInt8.ofNat (n / 64 % 0x40 + 0x80), UInt8.ofNat (n % 0x40 + 0x80)] := by
  unfold String.utf8EncodeChar
  dsimp only
  rw [← Char.toNat, toNat_ofNat_of_valid (by omega), if_neg (by omega), if_neg (by omega),
    if_neg (by omega)]

/-- The demands that opening bytes make. -/
inductive Opens : UInt8 → Opening → Prop where
  | two {bits : Nat} (hleast : 2 ≤ bits) (hgreatest : bits < 0x20) :
      Opens (UInt8.ofNat (bits + 0xC0)) ⟨1, 0x80, 0xBF, bits⟩
  | three {bits : Nat} (h : bits < 0x10) :
      Opens (UInt8.ofNat (bits + 0xE0))
        ⟨2, if bits = 0 then 0xA0 else 0x80, if bits = 0xD then 0x9F else 0xBF, bits⟩
  | four {bits : Nat} (h : bits < 5) :
      Opens (UInt8.ofNat (bits + 0xF0))
        ⟨3, if bits = 0 then 0x90 else 0x80, if bits = 4 then 0x8F else 0xBF, bits⟩

theorem opens_of_opening? {demand : Opening} (h : opening? b = some demand) : Opens b demand := by
  have hbyte (lead : Nat) (hle : lead ≤ b.toNat) : b = UInt8.ofNat (b.toNat - lead + lead) := by
    rw [Nat.sub_add_cancel hle, UInt8.ofNat_toNat]
  by_cases hnone : b.toNat < 0xC2
  · have hlt : b < 0xC2 := UInt8.lt_iff_toNat_lt.mpr hnone
    simp [opening?, hlt] at h
  by_cases htwo : b.toNat < 0xE0
  · rw [hbyte 0xC0 (by omega)] at h ⊢
    rw [opening?_two (by omega) (by omega)] at h
    cases h
    exact .two (by omega) (by omega)
  by_cases hthree : b.toNat < 0xF0
  · rw [hbyte 0xE0 (by omega)] at h ⊢
    rw [opening?_three (by omega)] at h
    cases h
    exact .three (by omega)
  by_cases hfour : b.toNat < 0xF5
  · rw [hbyte 0xF0 (by omega)] at h ⊢
    rw [opening?_four (by omega)] at h
    cases h
    exact .four (by omega)
  · have htwo' : ¬ b ≤ 0xDF := by
      rw [UInt8.le_iff_toNat_le]
      change ¬ b.toNat ≤ 0xDF
      omega
    have hthree' : ¬ b ≤ 0xEF := by
      rw [UInt8.le_iff_toNat_le]
      change ¬ b.toNat ≤ 0xEF
      omega
    have hfour' : ¬ b ≤ 0xF4 := by
      rw [UInt8.le_iff_toNat_le]
      change ¬ b.toNat ≤ 0xF4
      omega
    simp [opening?, htwo', hthree', hfour'] at h

end Characters

namespace Reading

variable {b : UInt8} {bytes : Bytes} {reading : Reading}

/-! ## Clean readings -/

/-- Whatever was read stays read. -/
theorem exists_done_step (reading : Reading) (b : UInt8) :
    ∃ more, (step reading b).done = more ++ reading.done := by
  have hstart (done : List (Option Char)) : ∃ more, (start done b).done = more ++ done := by
    unfold start
    split_ifs
    · exact ⟨[_], rfl⟩
    · cases opening? b with
      | none => exact ⟨[none], rfl⟩
      | some demand => exact ⟨[], rfl⟩
  unfold step
  split
  · exact hstart reading.done
  · split_ifs
    · dsimp only
      split
      · exact ⟨[_], rfl⟩
      · exact ⟨[_], rfl⟩
      · exact ⟨[], rfl⟩
    · obtain ⟨more, hmore⟩ := hstart (none :: reading.done)
      exact ⟨more ++ [none], by simp [hmore]⟩

theorem exists_finish_foldl (bytes : Bytes) (reading : Reading) :
    ∃ more, (bytes.foldl step reading).finish = reading.done.reverse ++ more := by
  induction bytes generalizing reading with
  | nil =>
      unfold finish
      split_ifs
      · exact ⟨[none], by simp⟩
      · exact ⟨[], by simp⟩
  | cons b bytes ih =>
      obtain ⟨later, hlater⟩ := ih (step reading b)
      obtain ⟨more, hmore⟩ := exists_done_step reading b
      exact ⟨more.reverse ++ later, by simp [hlater, hmore]⟩

/-- The last byte is read as something, if only as unreadable. -/
theorem finish_step_ne_nil (reading : Reading) (b : UInt8) : (step reading b).finish ≠ [] := by
  have hread (read : Reading) (h : read.begun.isSome ∨ read.done ≠ []) : read.finish ≠ [] := by
    unfold finish
    split_ifs with hbegun
    · simp
    · simpa using h.resolve_left hbegun
  have hstart (done : List (Option Char)) : (start done b).finish ≠ [] := by
    apply hread
    unfold start
    split_ifs
    · simp
    · cases opening? b with
      | none => simp
      | some demand => simp
  unfold step
  split
  · exact hstart reading.done
  · split_ifs
    · apply hread
      dsimp only
      split <;> simp
    · exact hstart (none :: reading.done)

/-- Reading on from here finds nothing unreadable. -/
def Clean (reading : Reading) (bytes : Bytes) : Prop :=
  none ∉ (bytes.foldl step reading).finish

theorem Clean.notMem_done (h : Clean reading bytes) : none ∉ reading.done := by
  obtain ⟨more, hmore⟩ := exists_finish_foldl bytes reading
  rw [Clean, hmore, List.mem_append, not_or, List.mem_reverse] at h
  exact h.1

/-- A clean reading brings a character under way to the next byte that it asks for. -/
theorem Clean.exists_next {demand : Opening} {done : List (Option Char)}
    (h : Clean { begun := some demand, done } bytes) :
    ∃ b rest, bytes = b :: rest ∧ demand.least ≤ b ∧ b ≤ demand.greatest ∧
      Clean (step { begun := some demand, done } b) rest := by
  cases bytes with
  | nil => exact absurd (by simp [finish]) h
  | cons b rest =>
      refine ⟨b, rest, rfl, ?_⟩
      by_cases hrange : demand.least ≤ b ∧ b ≤ demand.greatest
      · exact ⟨hrange.1, hrange.2, h⟩
      · -- The byte breaks the character off.
        have hstep : step { begun := some demand, done } b = start (none :: done) b := by
          simp only [step, Bool.and_eq_true, decide_eq_true_eq, if_neg hrange]
        obtain ⟨more, hmore⟩ := exists_done_step { done := none :: done } b
        have hnone : none ∈ (step { begun := some demand, done } b).done := by
          rw [hstep]
          change none ∈ (step { done := none :: done } b).done
          rw [hmore]
          exact List.mem_append_right _ List.mem_cons_self
        exact absurd hnone (Clean.notMem_done (show Clean _ rest from h))

/-- That byte continues the character with bits of its own. -/
theorem Clean.exists_continuation {demand : Opening} {done : List (Option Char)}
    (h : Clean { begun := some demand, done } bytes) (hleast : 0x80 ≤ demand.least.toNat)
    (hgreatest : demand.greatest.toNat ≤ 0xBF) :
    ∃ more rest, more < 0x40 ∧ bytes = UInt8.ofNat (more + 0x80) :: rest ∧
      demand.least.toNat ≤ more + 0x80 ∧ more + 0x80 ≤ demand.greatest.toNat ∧
      Clean (step { begun := some demand, done } (UInt8.ofNat (more + 0x80))) rest := by
  obtain ⟨b, rest, rfl, hle, hge, hclean⟩ := h.exists_next
  rw [UInt8.le_iff_toNat_le] at hle hge
  have hbyte : UInt8.ofNat (b.toNat - 0x80 + 0x80) = b := by
    rw [Nat.sub_add_cancel (by omega), UInt8.ofNat_toNat]
  refine ⟨b.toNat - 0x80, rest, by omega, by rw [hbyte], by omega, by omega, ?_⟩
  rw [hbyte]
  exact hclean

/-- The bytes are those of a character and then more, which is clean. -/
def BeginsCharacter (bytes : Bytes) : Prop :=
  ∃ c later read, bytes = String.utf8EncodeChar c ++ later ∧ Clean { done := read } later

variable {bits : Nat} {done : List (Option Char)}

theorem Clean.beginsCharacter_two (h : Clean { begun := some ⟨1, 0x80, 0xBF, bits⟩, done } bytes)
    (hleast : 2 ≤ bits) (hgreatest : bits < 0x20) :
    BeginsCharacter (UInt8.ofNat (bits + 0xC0) :: bytes) := by
  obtain ⟨last, later, hlast, rfl, hle, hge, hclean⟩ :=
    h.exists_continuation (Nat.le_refl _) (Nat.le_refl _)
  rw [step_last done (toNat_continuation hlast) hle hge] at hclean
  have hfirst : (bits * 64 + last) / 64 % 0x20 = bits := by omega
  have hsecond : (bits * 64 + last) % 0x40 = last := by omega
  refine ⟨Char.ofNat (bits * 64 + last), later, _, ?_, hclean⟩
  rw [utf8EncodeChar_two (by omega) (by omega), hfirst, hsecond]
  rfl

theorem Clean.beginsCharacter_three (hbits : bits < 0x10)
    (h : Clean { begun := some ⟨2, if bits = 0 then 0xA0 else 0x80,
      if bits = 0xD then 0x9F else 0xBF, bits⟩, done } bytes) :
    BeginsCharacter (UInt8.ofNat (bits + 0xE0) :: bytes) := by
  obtain ⟨next, later, hnext, rfl, hle, hge, hclean⟩ :=
    h.exists_continuation (by dsimp only; split_ifs <;> decide)
      (by dsimp only; split_ifs <;> decide)
  rw [step_further done (toNat_continuation hnext) hle hge] at hclean
  obtain ⟨last, later, hlast, rfl, hle', hge', hclean⟩ :=
    hclean.exists_continuation (Nat.le_refl _) (Nat.le_refl _)
  rw [step_last done (toNat_continuation hlast) hle' hge'] at hclean
  have hlong : bits = 0 → 0xA0 ≤ next + 0x80 := by
    intro hzero
    rwa [if_pos hzero] at hle
  have hsurrogate : bits = 0xD → next + 0x80 ≤ 0x9F := by
    intro hD
    rwa [if_pos hD] at hge
  have hfirst : ((bits * 64 + next) * 64 + last) / 4096 % 0x10 = bits := by omega
  have hsecond : ((bits * 64 + next) * 64 + last) / 64 % 0x40 = next := by omega
  have hthird : ((bits * 64 + next) * 64 + last) % 0x40 = last := by omega
  refine ⟨Char.ofNat ((bits * 64 + next) * 64 + last), later, _, ?_, hclean⟩
  rw [utf8EncodeChar_three (by omega) (by omega) (by omega), hfirst, hsecond, hthird]
  rfl

theorem Clean.beginsCharacter_four (hbits : bits < 5)
    (h : Clean { begun := some ⟨3, if bits = 0 then 0x90 else 0x80,
      if bits = 4 then 0x8F else 0xBF, bits⟩, done } bytes) :
    BeginsCharacter (UInt8.ofNat (bits + 0xF0) :: bytes) := by
  obtain ⟨next, later, hnext, rfl, hle, hge, hclean⟩ :=
    h.exists_continuation (by dsimp only; split_ifs <;> decide)
      (by dsimp only; split_ifs <;> decide)
  rw [step_further done (toNat_continuation hnext) hle hge] at hclean
  obtain ⟨third, later, hthird, rfl, hle', hge', hclean⟩ :=
    hclean.exists_continuation (Nat.le_refl _) (Nat.le_refl _)
  rw [step_further done (toNat_continuation hthird) hle' hge'] at hclean
  obtain ⟨last, later, hlast, rfl, hle', hge', hclean⟩ :=
    hclean.exists_continuation (Nat.le_refl _) (Nat.le_refl _)
  rw [step_last done (toNat_continuation hlast) hle' hge'] at hclean
  have hlong : bits = 0 → 0x90 ≤ next + 0x80 := by
    intro hzero
    rwa [if_pos hzero] at hle
  have hgreat : bits = 4 → next + 0x80 ≤ 0x8F := by
    intro hfour
    rwa [if_pos hfour] at hge
  have hfirst : (((bits * 64 + next) * 64 + third) * 64 + last) / 262144 % 0x08 = bits := by omega
  have hsecond : (((bits * 64 + next) * 64 + third) * 64 + last) / 4096 % 0x40 = next := by omega
  have hthird : (((bits * 64 + next) * 64 + third) * 64 + last) / 64 % 0x40 = third := by omega
  have hfourth : (((bits * 64 + next) * 64 + third) * 64 + last) % 0x40 = last := by omega
  refine ⟨Char.ofNat (((bits * 64 + next) * 64 + third) * 64 + last), later, _, ?_, hclean⟩
  rw [utf8EncodeChar_four (by omega) (by omega), hfirst, hsecond, hthird, hfourth]
  rfl

/-- A clean reading starts with all bytes of a character. -/
theorem Clean.beginsCharacter {rest : Bytes} (h : Clean { done } (b :: rest)) :
    BeginsCharacter (b :: rest) := by
  have hclean : Clean (step { done } b) rest := h
  by_cases hascii : b < 0x80
  · rw [step_ascii done hascii] at hclean
    have hlt : b.toNat < 0x80 := UInt8.lt_iff_toNat_lt.mp hascii
    have hc : (Char.ofNat b.toNat).toNat = b.toNat := toNat_ofNat_of_valid (by omega)
    have hbyte : (Char.ofNat b.toNat).toUInt8 = b := by
      change UInt8.ofNat (Char.ofNat b.toNat).toNat = b
      rw [hc, UInt8.ofNat_toNat]
    refine ⟨Char.ofNat b.toNat, rest, _, ?_, hclean⟩
    rw [utf8EncodeChar_of_ascii (by omega), hbyte, List.singleton_append]
  cases hopening : opening? b with
  | none =>
      have hstep : step { done } b = { done := none :: done } := by
        simp [step, start, hascii, hopening]
      rw [hstep] at hclean
      exact absurd List.mem_cons_self hclean.notMem_done
  | some demand =>
      rw [step_opening done hopening] at hclean
      cases opens_of_opening? hopening with
      | two hleast hgreatest => exact hclean.beginsCharacter_two hleast hgreatest
      | three hbits => exact hclean.beginsCharacter_three hbits
      | four hbits => exact hclean.beginsCharacter_four hbits

end Reading

/-! ## Bytes that are read as a text -/

variable {bytes : Bytes} {text : String}

theorem isText_of_clean {done : List (Option Char)} (h : Reading.Clean { done } bytes) :
    IsText bytes := by
  induction hlength : bytes.length using Nat.strong_induction_on generalizing bytes done with
  | _ length ih =>
      cases bytes with
      | nil => exact isText_nil
      | cons b rest =>
          obtain ⟨c, later, read, hbytes, hclean⟩ := h.beginsCharacter
          have hpos : 0 < (String.utf8EncodeChar c).length :=
            List.length_pos_iff.mpr String.utf8EncodeChar_ne_nil
          have hshorter : later.length < length := by
            rw [← hlength, hbytes, List.length_append]
            omega
          rw [hbytes]
          apply IsText.append
          · exact ⟨String.singleton c, by simp [ofText]⟩
          · exact ih _ hshorter hclean rfl

/-- A byte of ASCII in front of others is shown as its own character. -/
theorem exists_shown_cons {b : UInt8} (hb : b < 0x80) (bytes : Bytes) :
    ∃ rest, (shown (b :: bytes)).toList = Char.ofNat b.toNat :: rest := by
  obtain ⟨more, hmore⟩ :=
    Reading.exists_finish_foldl bytes { done := [some (Char.ofNat b.toNat)] }
  have hdecode : decode (b :: bytes) = some (Char.ofNat b.toNat) :: more := by
    rw [decode, List.foldl_cons, Reading.step_ascii [] hb, hmore]
    rfl
  rw [shown, hdecode, String.toList_ofList]
  exact ⟨_, rfl⟩

/-- Any bytes at all are shown as some text. -/
theorem shown_eq_empty_iff : shown bytes = "" ↔ bytes = [] := by
  constructor
  · intro h
    obtain rfl | ⟨front, b, rfl⟩ := List.eq_nil_or_concat bytes
    · rfl
    · have hempty : decode (front.concat b) = [] := by simpa [shown] using h
      rw [List.concat_eq_append, decode, List.foldl_append] at hempty
      exact absurd hempty (Reading.finish_step_ne_nil _ b)
  · rintro rfl
    rfl

theorem mapM_id_eq_some_iff {pieces : List (Option Char)} {cs : List Char} :
    pieces.mapM id = some cs ↔ pieces = cs.map some := by
  induction pieces generalizing cs with
  | nil => cases cs <;> simp
  | cons piece pieces ih =>
      cases piece with
      | none => cases cs <;> simp
      | some c =>
          rw [List.mapM_cons]
          cases cs with
          | nil => simp [Option.bind_eq_some_iff]
          | cons c' cs => simp [Option.bind_eq_some_iff, ih, and_comm]

/-- Bytes are read as a text exactly if they are the text's own. -/
theorem text?_eq_some_iff : text? bytes = some text ↔ bytes = ofText text := by
  have hread : text? bytes = some text ↔ decode bytes = text.toList.map some := by
    rw [text?, Option.map_eq_some_iff]
    constructor
    · rintro ⟨cs, hcs, rfl⟩
      rw [String.toList_ofList]
      exact mapM_id_eq_some_iff.mp hcs
    · intro h
      exact ⟨text.toList, mapM_id_eq_some_iff.mpr h, String.ofList_toList⟩
  rw [hread]
  constructor
  · intro h
    have hclean : Reading.Clean {} bytes := by
      change none ∉ decode bytes
      simp [h]
    obtain ⟨text', rfl⟩ := isText_of_clean hclean
    rw [decode_ofText] at h
    have hsame : text'.toList = text.toList :=
      List.map_inj_right (fun _ _ => Option.some.inj) |>.mp h
    rw [String.toList_inj.mp hsame]
  · rintro rfl
    exact decode_ofText text

end TemplateBundler.Bytes

import TemplateBundler.Json.Literal
import TemplateBundler.Json.Parser

/-! # String literals read back

The reader gets from a literal the text that was written, and stops right behind it. So a
literal cannot end early, whatever the text and whatever comes after it, and none of its
characters can be taken for something else.
-/

namespace TemplateBundler.Json

variable {c letter : Char} {s t : String}

/-! ## Escapes -/

theorem unescapeLetter?_of_escapeLetter? (h : escapeLetter? c = some letter) :
    unescapeLetter? letter = some c ∧ letter ≠ 'u' := by
  unfold escapeLetter? at h
  split at h <;> cases h <;> decide

theorem escape_of_escapeLetter? (h : escapeLetter? c = some letter) :
    escape c = ['\\', letter] := by
  simp [escape, h]

theorem escape_of_control (h : escapeLetter? c = none) (hc : c.toNat < 0x20) :
    escape c = ['\\', 'u', '0', '0', hexDigit (c.toNat / 16), hexDigit (c.toNat % 16)] := by
  simp [escape, h, hc]

theorem escape_of_plain (h : escapeLetter? c = none) (hc : ¬ c.toNat < 0x20) : escape c = [c] := by
  simp [escape, h, hc]

theorem ne_of_escapeLetter? {d : Char} (h : escapeLetter? c = none)
    (hd : (escapeLetter? d).isSome) : c ≠ d := by
  rintro rfl
  simp [h] at hd

/-- Two hexadecimal digits behind two zeros are enough for a control character. -/
theorem natural?_hexDigits : ∀ n < 0x20,
    Text.natural? 16 ['0', '0', hexDigit (n / 16), hexDigit (n % 16)] = some n := by
  decide

theorem literal_toList (s : String) :
    (literal s).toList = '"' :: (s.toList.flatMap escape ++ ['"']) := by
  simp [literal]

theorem literal_append (s : String) (rest : List Char) :
    (literal s).toList ++ rest = '"' :: (s.toList.flatMap escape ++ '"' :: rest) := by
  simp [literal_toList]

/-- Four digits are read whatever comes next. -/
theorem readHex_eq {a b c d : Char} {unit : Nat} (h : Text.natural? 16 [a, b, c, d] = some unit)
    (rest : List Char) (place : Place) (bound : Nat) :
    ∃ next, readHex ⟨a :: b :: c :: d :: rest, place, bound⟩ = .ok (unit, ⟨rest, next, bound⟩) := by
  refine ⟨(((place.after a).after b).after c).after d, ?_⟩
  simp [readHex, h, Cursor.advance]

theorem readEscape_of_escapeLetter? (h : escapeLetter? c = some letter) (rest : List Char)
    (place : Place) (bound : Nat) :
    ∃ next, readEscape ⟨letter :: rest, place, bound⟩ = .ok (c, ⟨rest, next, bound⟩) := by
  obtain ⟨hback, hu⟩ := unescapeLetter?_of_escapeLetter? h
  refine ⟨place.after letter, ?_⟩
  simp [readEscape, Cursor.peek?, Cursor.advance, hback]

theorem readEscape_of_control (hc : c.toNat < 0x20) (rest : List Char) (place : Place)
    (bound : Nat) :
    ∃ next, readEscape ⟨'u' :: '0' :: '0' :: hexDigit (c.toNat / 16) :: hexDigit (c.toNat % 16) ::
      rest, place, bound⟩ = .ok (c, ⟨rest, next, bound⟩) := by
  obtain ⟨next, hnext⟩ := readHex_eq (natural?_hexDigits c.toNat hc) rest (place.after 'u') bound
  have hplain : ¬ (0xDC00 ≤ c.toNat ∧ c.toNat ≤ 0xDFFF) := by omega
  have hfirst : c.toNat < 0xD800 := by omega
  refine ⟨next, ?_⟩
  simp [readEscape, Cursor.peek?, Cursor.advance, readUnits, hnext, hplain, hfirst, bind,
    Except.bind, pure, Except.pure]

/-- Reading what stands for one character, whether it is escaped or not. -/
theorem readCharacters_escape (c : Char) (fuel : Nat) (before rest : List Char) (place : Place)
    (bound : Nat) :
    ∃ next, readCharacters (fuel + 1) before ⟨escape c ++ rest, place, bound⟩ =
      readCharacters fuel (c :: before) ⟨rest, next, bound⟩ := by
  -- The cases are those of writing: a letter for the character, its number, or itself.
  cases hletter : escapeLetter? c with
  | some letter =>
      obtain ⟨next, hnext⟩ := readEscape_of_escapeLetter? hletter rest (place.after '\\') bound
      refine ⟨next, ?_⟩
      simp [escape_of_escapeLetter? hletter, readCharacters, Cursor.peek?, Cursor.advance, hnext,
        bind, Except.bind]
  | none =>
      by_cases hc : c.toNat < 0x20
      · obtain ⟨next, hnext⟩ := readEscape_of_control hc rest (place.after '\\') bound
        refine ⟨next, ?_⟩
        simp [escape_of_control hletter hc, readCharacters, Cursor.peek?, Cursor.advance, hnext,
          bind, Except.bind]
      · have hquote : c ≠ '"' := ne_of_escapeLetter? hletter rfl
        have hbackslash : c ≠ '\\' := ne_of_escapeLetter? hletter rfl
        refine ⟨place.after c, ?_⟩
        simp [escape_of_plain hletter hc, readCharacters, Cursor.peek?, Cursor.advance, hc]

/-- Reading goes on to the quote that closes the literal, and no further. -/
theorem readCharacters_flatMap_escape (cs before rest : List Char) {fuel : Nat}
    (hfuel : cs.length < fuel) (place : Place) (bound : Nat) :
    ∃ next, readCharacters fuel before ⟨cs.flatMap escape ++ '"' :: rest, place, bound⟩ =
      .ok (String.ofList (before.reverse ++ cs), ⟨rest, next, bound⟩) := by
  induction cs generalizing fuel before place with
  | nil =>
      obtain ⟨fuel, rfl⟩ := Nat.exists_eq_add_of_lt hfuel
      exact ⟨place.after '"', by simp [readCharacters, Cursor.peek?, Cursor.advance]⟩
  | cons c cs ih =>
      rw [List.length_cons] at hfuel
      obtain ⟨fuel, rfl⟩ : ∃ more, fuel = more + 1 := ⟨fuel - 1, by omega⟩
      have hlater : cs.length < fuel := Nat.succ_lt_succ_iff.mp hfuel
      obtain ⟨place', hfirst⟩ := readCharacters_escape c fuel before
        (cs.flatMap escape ++ '"' :: rest) place bound
      obtain ⟨next, hnext⟩ := ih (c :: before) hlater place'
      refine ⟨next, ?_⟩
      rw [List.flatMap_cons, List.append_assoc, hfirst, hnext]
      simp

/-- A text is read back from its literal, behind the opening quote. -/
theorem readText_literal (s : String) (rest : List Char) (place : Place) {bound : Nat}
    (hbound : s.toList.length ≤ bound) :
    ∃ next, readText ⟨s.toList.flatMap escape ++ '"' :: rest, place, bound⟩ =
      .ok (s, ⟨rest, next, bound⟩) := by
  simpa [readText] using
    readCharacters_flatMap_escape s.toList [] rest (Nat.lt_succ_of_le hbound) place bound

theorem length_le_flatMap_escape (cs : List Char) : cs.length ≤ (cs.flatMap escape).length := by
  induction cs with
  | nil => exact Nat.le_refl _
  | cons c cs ih =>
      have hpos : 0 < (escape c).length := by
        unfold escape
        split <;> try split
        all_goals exact Nat.succ_pos _
      rw [List.flatMap_cons, List.length_append, List.length_cons]
      omega

theorem length_le_literal (s : String) : s.toList.length ≤ (literal s).toList.length := by
  have hle := length_le_flatMap_escape s.toList
  rw [literal_toList, List.length_cons, List.length_append]
  omega

/-- A text is read back from its literal, whatever comes next. -/
theorem readValue_literal (s : String) (rest : List Char) (place : Place) {bound : Nat}
    (hbound : s.toList.length ≤ bound) (fuel : Nat) :
    ∃ next, readValue (fuel + 1) ⟨(literal s).toList ++ rest, place, bound⟩ =
      .ok (.text s, ⟨rest, next, bound⟩) := by
  obtain ⟨next, hnext⟩ := readText_literal s rest (place.after '"') hbound
  refine ⟨next, ?_⟩
  simp [literal_append, readValue, Cursor.skipBlanks, Cursor.skipBlanks.go, Cursor.peek?,
    Cursor.advance, hnext, bind, Except.bind, pure, Except.pure]

end TemplateBundler.Json

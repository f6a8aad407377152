import TemplateBundler.Proofs.Json.Soundness

/-! # What the reader skips

What is skipped is the text of a value, whatever the numbers and escapes in it.
-/

namespace TemplateBundler.Json

variable {cursor after : Cursor} {fuel : Nat}

/-! ## Numbers and strings -/

theorem rest_of_skipExponent (h : skipExponent cursor = .ok after) :
    ∃ sign digits, sign ∈ [[], ['+'], ['-']] ∧ IsDigits digits ∧
      cursor.rest = sign ++ (digits ++ after.rest) := by
  unfold skipExponent at h
  extract_lets start at h
  have hsigned : ∃ sign, sign ∈ [[], ['+'], ['-']] ∧ cursor.rest = sign ++ start.rest := by
    unfold start
    split
    next hpeek => exact ⟨['+'], by simp, rest_of_peek? hpeek⟩
    next hpeek => exact ⟨['-'], by simp, rest_of_peek? hpeek⟩
    next => exact ⟨[], by simp, rfl⟩
  obtain ⟨sign, hsign, hrest⟩ := hsigned
  split at h
  next c hpeek =>
    split_ifs at h with hc
    · cases h
      exact ⟨sign, _, hsign, isDigits_takeDigits hpeek hc, rest_takeDigits start ▸ hrest⟩
    · cases h
  next => cases h

/-- An exponent that was announced by its mark. -/
theorem isExponent_of_skipExponent {mark : Char} (hmark : mark = 'e' ∨ mark = 'E')
    (hpeek : cursor.peek? = some mark) (h : skipExponent cursor.advance = .ok after) :
    ∃ cs, IsExponent cs ∧ cursor.rest = cs ++ after.rest := by
  obtain ⟨sign, digits, hsign, hdigits, hrest⟩ := rest_of_skipExponent h
  refine ⟨mark :: (sign ++ digits), .some hmark hsign hdigits, ?_⟩
  rw [rest_of_peek? hpeek, hrest, List.cons_append, List.append_assoc]

theorem rest_of_skipFraction (h : skipFraction cursor = .ok after) :
    ∃ digits cs, IsDigits digits ∧ IsExponent cs ∧ cursor.rest = digits ++ (cs ++ after.rest) := by
  have hdigits : ∀ d ∈ cursor.takeDigits.1, d.isDigit := fun d hd => List.mem_takeWhile_imp hd
  have hrest := rest_takeDigits cursor
  unfold skipFraction at h
  generalize cursor.takeDigits = taken at h hdigits hrest
  dsimp only at h
  split_ifs at h with hempty
  · cases h
  have hne : taken.1 ≠ [] := by simpa using hempty
  split at h
  next hpeek =>
    obtain ⟨cs, hcs, hexponent⟩ := isExponent_of_skipExponent (.inl rfl) hpeek h
    exact ⟨taken.1, cs, ⟨hne, hdigits⟩, hcs, hexponent ▸ hrest⟩
  next hpeek =>
    obtain ⟨cs, hcs, hexponent⟩ := isExponent_of_skipExponent (.inr rfl) hpeek h
    exact ⟨taken.1, cs, ⟨hne, hdigits⟩, hcs, hexponent ▸ hrest⟩
  next =>
    cases h
    exact ⟨taken.1, [], ⟨hne, hdigits⟩, .none, hrest⟩

theorem isNumeral_of_skipNumber (h : skipNumber cursor = .ok after) :
    ∃ cs, IsNumeral cs ∧ cursor.rest = cs ++ after.rest := by
  unfold skipNumber at h
  extract_lets start at h
  have hsigned : ∃ sign, sign ∈ [[], ['-']] ∧ cursor.rest = sign ++ start.rest := by
    unfold start
    split
    next hpeek => exact ⟨['-'], by simp, rest_of_peek? hpeek⟩
    next => exact ⟨[], by simp, rfl⟩
  obtain ⟨sign, hsign, hrest⟩ := hsigned
  split at h
  next => cases h
  next c hpeek =>
    split at h
    next => cases h
    next hdigit =>
      rw [Bool.not_eq_true, Bool.not_eq_false'] at hdigit
      extract_lets reached at h
      have hwhole : ∃ whole, IsDigits whole ∧ (whole.head? = some '0' → whole = ['0']) ∧
          start.rest = whole ++ reached.rest := by
        unfold reached
        split
        next hzero =>
          subst hzero
          exact ⟨['0'], by simp [IsDigits, hdigit], fun _ => rfl, rest_of_peek? hpeek⟩
        next hzero =>
          refine ⟨_, isDigits_takeDigits hpeek hdigit, fun hhead => ?_, rest_takeDigits start⟩
          rw [Cursor.takeDigits, rest_of_peek? hpeek, List.takeWhile_cons_of_pos hdigit] at hhead
          exact absurd (Option.some.inj hhead) hzero
      obtain ⟨whole, hwhole, hzero, hreached⟩ := hwhole
      have htail : ∃ fraction exponent, IsFraction fraction ∧ IsExponent exponent ∧
          reached.rest = fraction ++ (exponent ++ after.rest) := by
        split at h
        next hpoint =>
          obtain ⟨digits, cs, hdigits, hcs, htail⟩ := rest_of_skipFraction h
          refine ⟨'.' :: digits, cs, .some hdigits, hcs, ?_⟩
          rw [rest_of_peek? hpoint, htail, List.cons_append]
        next hmark =>
          obtain ⟨cs, hcs, htail⟩ := isExponent_of_skipExponent (.inl rfl) hmark h
          exact ⟨[], cs, .none, hcs, htail⟩
        next hmark =>
          obtain ⟨cs, hcs, htail⟩ := isExponent_of_skipExponent (.inr rfl) hmark h
          exact ⟨[], cs, .none, hcs, htail⟩
        next d hd =>
          split_ifs at h
          · cases h
          · exact ⟨[], [], .none, .none, congrArg Cursor.rest (Except.ok.inj h)⟩
        next => exact ⟨[], [], .none, .none, congrArg Cursor.rest (Except.ok.inj h)⟩
      obtain ⟨fraction, exponent, hfraction, hexponent, htail⟩ := htail
      refine ⟨_, .mk hsign hwhole hzero hfraction hexponent, ?_⟩
      rw [hrest, hreached, htail]
      simp only [List.append_assoc]

theorem isQuoted_of_skipCharacters (h : skipCharacters fuel cursor = .ok after) :
    ∃ inner, IsQuoted inner ∧ cursor.rest = inner ++ '"' :: after.rest := by
  induction fuel generalizing cursor with
  | zero => cases h
  | succ fuel ih =>
      rw [skipCharacters] at h
      split at h
      next => cases h
      next hpeek =>
        cases h
        exact ⟨[], .nil, rest_of_peek? hpeek⟩
      next hslash =>
        obtain ⟨next, hescape, h⟩ := bind_eq_ok_iff.mp h
        obtain ⟨inner, hinner, hrest⟩ := ih h
        rw [skipEscape] at hescape
        split at hescape
        next => cases hescape
        next hpeek =>
          obtain ⟨⟨unit, last⟩, hunit, hlast⟩ := bind_eq_ok_iff.mp hescape
          obtain ⟨x, y, z, w, hdigits, hunits⟩ := rest_of_readHex hunit
          cases hlast
          refine ⟨_, .unit (Option.isSome_of_mem hdigits) hinner, ?_⟩
          rw [rest_of_peek? hslash, rest_of_peek? hpeek, hunits, hrest]
          rfl
        next letter _ hpeek =>
          split_ifs at hescape with hletter
          · cases hescape
            refine ⟨_, .letter hletter hinner, ?_⟩
            rw [rest_of_peek? hslash, rest_of_peek? hpeek, hrest]
            rfl
          · cases hescape
      next c hquote hslash hpeek =>
        split at h
        next => cases h
        next hsmall =>
          obtain ⟨inner, hinner, hrest⟩ := ih h
          refine ⟨_, .unescaped (isUnescaped_of_ne hsmall ?_ ?_) hinner, ?_⟩
          · exact hquote
          · exact hslash
          · rw [rest_of_peek? hpeek, hrest, List.cons_append]

/-! ## Whole values -/

/-- What skipping with this fuel passes: a value, the items of an array and its end, or the members
of an object and its end. -/
structure SkipsValues (fuel : Nat) : Prop where
  value : ∀ {cursor after : Cursor}, skipValue fuel cursor = .ok after →
    ∃ blank raw, IsBlank blank ∧ IsValue raw ∧ cursor.rest = blank ++ (raw ++ after.rest)
  items : ∀ {cursor after : Cursor}, skipItems fuel cursor = .ok after →
    ∃ text texts inner, (∀ item ∈ text :: texts, IsValue item) ∧
      Spread true (text :: texts) inner ∧ cursor.rest = inner ++ ']' :: after.rest
  members : ∀ {cursor after : Cursor}, skipMembers fuel cursor = .ok after →
    ∃ member members inner, (∀ other ∈ member :: members, IsQuoted other.name ∧
        (IsBlank other.before ∧ IsBlank other.after) ∧ IsValue other.value) ∧
      Spread true ((member :: members).map WrittenMember.chars) inner ∧
      cursor.rest = inner ++ '\x7d' :: after.rest

theorem SkipsValues.value_succ (hskips : SkipsValues fuel)
    (h : skipValue (fuel + 1) cursor = .ok after) :
    ∃ blank raw, IsBlank blank ∧ IsValue raw ∧ cursor.rest = blank ++ (raw ++ after.rest) := by
  obtain ⟨blank, hblank, hrest⟩ := exists_skipBlanks cursor
  rw [skipValue] at h
  generalize cursor.skipBlanks = start at h hrest
  suffices hraw : ∃ raw, IsValue raw ∧ start.rest = raw ++ after.rest by
    obtain ⟨raw, hvalue, hraw⟩ := hraw
    exact ⟨blank, raw, hblank, hvalue, hraw ▸ hrest⟩
  dsimp only at h
  split at h
  next => cases h
  next hpeek => exact ⟨_, .null, by rw [rest_of_peek? hpeek, rest_of_readWord h]; rfl⟩
  next hpeek => exact ⟨_, .true, by rw [rest_of_peek? hpeek, rest_of_readWord h]; rfl⟩
  next hpeek => exact ⟨_, .false, by rw [rest_of_peek? hpeek, rest_of_readWord h]; rfl⟩
  next hpeek =>
    obtain ⟨inner, hquoted, hinner⟩ := isQuoted_of_skipCharacters h
    refine ⟨_, .text hquoted, ?_⟩
    simp [rest_of_peek? hpeek, hinner]
  next hpeek =>
    obtain ⟨lead, hlead, hinner⟩ := exists_skipBlanks start.advance
    generalize start.advance.skipBlanks = inner at h hinner
    split at h
    next => cases h
    next hend =>
      cases h
      refine ⟨_, .array (.nil hlead) (by simp), ?_⟩
      simp [rest_of_peek? hpeek, hinner, rest_of_peek? hend]
    next =>
      obtain ⟨text, texts, cs, hitems, hspread, hcs⟩ := hskips.items h
      refine ⟨_, .array (hspread.blank_append hlead) hitems, ?_⟩
      simp [rest_of_peek? hpeek, hinner, hcs]
  next hpeek =>
    obtain ⟨lead, hlead, hinner⟩ := exists_skipBlanks start.advance
    generalize start.advance.skipBlanks = inner at h hinner
    split at h
    next => cases h
    next hend =>
      cases h
      refine ⟨_, @IsValue.object [] _ (.nil hlead) (by simp) (by simp) (by simp), ?_⟩
      simp [rest_of_peek? hpeek, hinner, rest_of_peek? hend]
    next =>
      obtain ⟨member, members, cs, hmembers, hspread, hcs⟩ := hskips.members h
      refine ⟨_, .object (hspread.blank_append hlead) (fun other ho => (hmembers other ho).1)
        (fun other ho => (hmembers other ho).2.1) (fun other ho => (hmembers other ho).2.2), ?_⟩
      simp [rest_of_peek? hpeek, hinner, hcs]
  next c _ _ _ _ _ _ hpeek =>
    split_ifs at h
    · obtain ⟨raw, hnumeral, hraw⟩ := isNumeral_of_skipNumber h
      exact ⟨raw, .number hnumeral, hraw⟩
    · cases h

theorem SkipsValues.items_succ (hskips : SkipsValues fuel)
    (h : skipItems (fuel + 1) cursor = .ok after) :
    ∃ text texts inner, (∀ item ∈ text :: texts, IsValue item) ∧
      Spread true (text :: texts) inner ∧ cursor.rest = inner ++ ']' :: after.rest := by
  rw [skipItems] at h
  obtain ⟨next, hvalue, h⟩ := bind_eq_ok_iff.mp h
  obtain ⟨before, raw, hbefore, hraw, hrest⟩ := hskips.value hvalue
  obtain ⟨blank, hblank, hnext⟩ := exists_skipBlanks next
  generalize next.skipBlanks = reached at h hnext
  dsimp only at h
  split at h
  next hpeek =>
    obtain ⟨text, texts, inner, hitems, hspread, hinner⟩ := hskips.items h
    refine ⟨raw, text :: texts, _, List.forall_mem_cons.mpr ⟨hraw, hitems⟩,
      .cons hbefore isBlank_nil (hspread.comma_append hblank), ?_⟩
    simp [hrest, hnext, rest_of_peek? hpeek, hinner]
  next hpeek =>
    cases h
    refine ⟨raw, [], _, by simpa using hraw, .cons hbefore isBlank_nil (.nil hblank), ?_⟩
    simp [hrest, hnext, rest_of_peek? hpeek]
  next => cases h
  next => cases h

theorem SkipsValues.members_succ (hskips : SkipsValues fuel)
    (h : skipMembers (fuel + 1) cursor = .ok after) :
    ∃ member members inner, (∀ other ∈ member :: members, IsQuoted other.name ∧
        (IsBlank other.before ∧ IsBlank other.after) ∧ IsValue other.value) ∧
      Spread true ((member :: members).map WrittenMember.chars) inner ∧
      cursor.rest = inner ++ '\x7d' :: after.rest := by
  rw [skipMembers] at h
  obtain ⟨lead, hlead, hrest⟩ := exists_skipBlanks cursor
  generalize cursor.skipBlanks = start at h hrest
  dsimp only at h
  split at h
  next => cases h
  next hquote =>
    obtain ⟨named, hname, h⟩ := bind_eq_ok_iff.mp h
    obtain ⟨name, hquoted, hnamed⟩ := isQuoted_of_skipCharacters hname
    obtain ⟨before, hbefore, hcolon⟩ := exists_skipBlanks named
    generalize named.skipBlanks = colon at h hcolon
    split at h
    next => cases h
    next hpeek =>
      obtain ⟨next, hvalue, h⟩ := bind_eq_ok_iff.mp h
      obtain ⟨behind, raw, hbehind, hraw, hvalued⟩ := hskips.value hvalue
      obtain ⟨blank, hblank, hnext⟩ := exists_skipBlanks next
      generalize next.skipBlanks = reached at h hnext
      have hmember : IsQuoted name ∧ (IsBlank before ∧ IsBlank behind) ∧ IsValue raw :=
        ⟨hquoted, ⟨hbefore, hbehind⟩, hraw⟩
      have hchars : start.rest = (WrittenMember.mk name before behind raw).chars ++
          (blank ++ reached.rest) := by
        simp [WrittenMember.chars, rest_of_peek? hquote, hnamed, hcolon, rest_of_peek? hpeek,
          hvalued, hnext]
      split at h
      next hcomma =>
        obtain ⟨member, members, inner, hmembers, hspread, hinner⟩ := hskips.members h
        refine ⟨⟨name, before, behind, raw⟩, member :: members, _,
          List.forall_mem_cons.mpr ⟨hmember, hmembers⟩,
          .cons hlead isBlank_nil (hspread.comma_append hblank), ?_⟩
        simp [hrest, hchars, rest_of_peek? hcomma, hinner]
      next hend =>
        cases h
        refine ⟨⟨name, before, behind, raw⟩, [], _, by simpa using hmember,
          .cons hlead isBlank_nil (.nil hblank), ?_⟩
        simp [hrest, hchars, rest_of_peek? hend]
      next => cases h
      next => cases h
    next => cases h
  next => cases h

theorem skipsValues (fuel : Nat) : SkipsValues fuel := by
  induction fuel with
  | zero =>
      exact ⟨by simp [skipValue, fail], by simp [skipItems, fail], by simp [skipMembers, fail]⟩
  | succ fuel ih => exact ⟨ih.value_succ, ih.items_succ, ih.members_succ⟩

/-- What is skipped is a value, perhaps with blanks before it. -/
theorem isValue_of_skip (h : skip cursor = .ok after) :
    ∃ blank raw, IsBlank blank ∧ IsValue raw ∧ cursor.rest = blank ++ (raw ++ after.rest) :=
  (skipsValues _).value h

end TemplateBundler.Json

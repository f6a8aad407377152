import Mathlib.Data.List.Induction
import Mathlib.Data.List.TakeWhile
import TemplateBundler.Proofs.Json.Grammar
import TemplateBundler.Proofs.Json.RoundTrip

/-! # What the reader takes

Wherever the reader gets through, what it has passed is the text of what it was reading for: blanks,
words, natural numbers, strings and the text they stand for, the items of arrays and the members of
objects.
-/

namespace TemplateBundler.Json

variable {cursor after : Cursor} {c : Char} {n fuel : Nat} {first : Bool}

/-! ## Blanks and words -/

theorem exists_skipBlanks (cursor : Cursor) :
    ∃ blank, IsBlank blank ∧ cursor.rest = blank ++ cursor.skipBlanks.rest := by
  have hgo : ∀ (cs : List Char) (place : Place),
      ∃ blank, IsBlank blank ∧ cs = blank ++ (Cursor.skipBlanks.go cursor cs place).rest := by
    intro cs
    induction cs with
    | nil => exact fun place => ⟨[], isBlank_nil, rfl⟩
    | cons c cs ih =>
        intro place
        rw [Cursor.skipBlanks.go]
        split
        next hc =>
          obtain ⟨blank, hblank, hcs⟩ := ih (place.after c)
          refine ⟨c :: blank, List.forall_mem_cons.mpr ⟨?_, hblank⟩, congrArg (c :: ·) hcs⟩
          simpa [or_assoc] using hc
        next => exact ⟨[], isBlank_nil, rfl⟩
  exact hgo cursor.rest cursor.place

theorem rest_of_peek? (h : cursor.peek? = some c) : cursor.rest = c :: cursor.advance.rest := by
  obtain ⟨cs, hcs⟩ := List.head?_eq_some_iff.mp h
  rw [Cursor.advance, hcs]

theorem rest_of_readWord {word : List Char} (h : readWord word cursor = .ok after) :
    cursor.rest = word ++ after.rest := by
  induction word generalizing cursor with
  | nil => rw [Except.ok.inj h]; rfl
  | cons w word ih =>
      rw [readWord] at h
      split at h
      next => cases h
      next c hpeek =>
        split_ifs at h with hc
        · subst hc
          rw [rest_of_peek? hpeek, ih h]
          rfl
        · cases h

/-! ## Natural numbers -/

theorem rest_takeDigits_snd (cursor : Cursor) :
    cursor.takeDigits.2.rest = cursor.rest.dropWhile Char.isDigit := by
  have hsplit := @List.takeWhile_append_dropWhile _ Char.isDigit cursor.rest
  change cursor.rest.drop (cursor.rest.takeWhile Char.isDigit).length = _
  nth_rewrite 2 [← hsplit]
  rw [List.drop_left]

theorem rest_takeDigits (cursor : Cursor) :
    cursor.rest = cursor.takeDigits.1 ++ cursor.takeDigits.2.rest := by
  rw [rest_takeDigits_snd, Cursor.takeDigits, List.takeWhile_append_dropWhile]

theorem isDigit_of_takeDigits (h : cursor.takeDigits.2.peek? = some c) : c.isDigit = false := by
  have hhead := List.head?_dropWhile_not Char.isDigit cursor.rest
  rw [Cursor.peek?, rest_takeDigits_snd] at h
  simpa [h] using hhead

theorem isDigits_takeDigits (hpeek : cursor.peek? = some c) (hc : c.isDigit) :
    IsDigits cursor.takeDigits.1 := by
  refine ⟨?_, fun d hd => List.mem_takeWhile_imp hd⟩
  rw [Cursor.takeDigits, rest_of_peek? hpeek, List.takeWhile_cons_of_pos hc]
  exact List.cons_ne_nil _ _

/-- Once a digit was dropped there is no going back. -/
theorem dropped_pos (ds : List Char) {taken : Nat × Nat} (h : 0 < taken.2) :
    0 < (ds.foldl (fun (value, dropped) digit =>
      let next := value * 10 + (digit.toNat - '0'.toNat)
      if 0 < dropped || maxNatural < next then (value, dropped + 1) else (next, dropped))
        taken).2 := by
  induction ds generalizing taken with
  | nil => exact h
  | cons d ds ih =>
      apply ih
      simp [h]

theorem takeSignificand_cons_of_lt {start : Nat} {d : Char} (ds : List Char)
    (h : maxNatural < start * 10 + (d.toNat - '0'.toNat)) :
    (takeSignificand start (d :: ds)).2 ≠ 0 := by
  refine Nat.ne_of_gt (dropped_pos ds ?_)
  dsimp only
  rw [if_pos (by simpa using h)]
  exact Nat.one_pos

/-- Digits none of which is dropped are those of the significand. -/
theorem ofDigitChars_of_takeSignificand {start : Nat} {ds : List Char}
    (h : takeSignificand start ds = (n, 0)) (hstart : start ≤ maxNatural) :
    Nat.ofDigitChars 10 ds start = n ∧ n ≤ maxNatural := by
  induction ds generalizing start with
  | nil =>
      cases h
      exact ⟨rfl, hstart⟩
  | cons d ds ih =>
      by_cases hnext : maxNatural < start * 10 + (d.toNat - '0'.toNat)
      · exact absurd (congrArg Prod.snd h) (takeSignificand_cons_of_lt ds hnext)
      · have hstep : takeSignificand start (d :: ds) =
            takeSignificand (start * 10 + (d.toNat - '0'.toNat)) ds := by
          rw [takeSignificand, List.foldl_cons]
          dsimp only
          rw [if_neg (by simpa using hnext)]
          rfl
        rw [Nat.ofDigitChars_cons, Nat.mul_comm]
        exact ih (hstep ▸ h) (Nat.le_of_not_lt hnext)

theorem digitChar_of_isDigit (hc : c.isDigit) :
    c.toNat - '0'.toNat < 10 ∧ Nat.digitChar (c.toNat - '0'.toNat) = c := by
  have hbounds : 48 ≤ c.toNat ∧ c.toNat ≤ 57 := by
    simpa [Char.isDigit, UInt32.le_iff_toNat_le] using hc
  obtain ⟨k, hk⟩ := Nat.exists_eq_add_of_le hbounds.1
  have hlt : k < 10 := by omega
  have hvalue : c.toNat - '0'.toNat = k := by rw [hk]; exact Nat.add_sub_cancel_left _ _
  have hchar : ∀ k < 10, Nat.digitChar k = Char.ofNat (48 + k) := by decide
  rw [hvalue, hchar k hlt, ← hk, Char.ofNat_toNat]
  exact ⟨hlt, rfl⟩

/-- Digits that do not begin with a zero are those of their number. -/
theorem toDigits_ofDigitChars {ds : List Char} (hds : IsDigits ds) (hzero : ds.head? ≠ some '0') :
    Nat.toDigits 10 (Nat.ofDigitChars 10 ds 0) = ds := by
  obtain ⟨hne, hdigits⟩ := hds
  induction ds using List.reverseRecOn with
  | nil => exact absurd rfl hne
  | append_singleton front d ih =>
      obtain ⟨hlt, hchar⟩ := digitChar_of_isDigit (hdigits d (by simp))
      have hlast : Nat.toDigits 10 (d.toNat - '0'.toNat) = [d] := by
        rw [Nat.toDigits_of_lt_base hlt, hchar]
      rw [Nat.ofDigitChars_append, Nat.ofDigitChars_cons, Nat.ofDigitChars_nil]
      by_cases hfront : front = []
      · subst hfront
        rw [Nat.ofDigitChars_nil, Nat.mul_zero, Nat.zero_add, hlast, List.nil_append]
      · have hhead : front.head? ≠ some '0' := by
          rwa [List.head?_append_of_ne_nil _ hfront] at hzero
        have hih := ih hhead hfront (fun c hc => hdigits c (by simp [hc]))
        have hpos : 0 < Nat.ofDigitChars 10 front 0 := by
          apply Nat.pos_of_ne_zero
          intro heq
          rw [heq, Nat.toDigits_zero] at hih
          simp [← hih] at hhead
        rw [← Nat.toDigits_append_toDigits (by decide) hpos hlt, hih, hlast]

theorem exists_float_of_makeFloat {negative : Bool} {significand : Nat} {exponent : Int}
    {json : Json} (h : makeFloat negative significand exponent cursor = .ok (json, after)) :
    ∃ x, json = .float x := by
  rw [makeFloat] at h
  split at h
  next x _ =>
    cases h
    exact ⟨_, rfl⟩
  next => cases h

theorem exists_float_of_readExponent {negative : Bool} {significand : Nat} {exponent : Int}
    {json : Json} (h : readExponent negative significand exponent cursor = .ok (json, after)) :
    ∃ x, json = .float x := by
  unfold readExponent at h
  dsimp only at h
  split at h
  next => cases h
  next =>
    split at h
    next => cases h
    next =>
      split at h
      next => exact exists_float_of_makeFloat h
      next =>
        split_ifs at h
        · cases h
        · cases h
          exact ⟨_, rfl⟩
        · cases h
          exact ⟨_, rfl⟩

theorem exists_float_of_readFraction {negative : Bool} {significand : Nat} {exponent : Int}
    {json : Json} (h : readFraction negative significand exponent cursor = .ok (json, after)) :
    ∃ x, json = .float x := by
  unfold readFraction at h
  dsimp only at h
  split at h
  next =>
    split at h
    next => cases h
    next => cases h
  next =>
    split at h
    next => exact exists_float_of_readExponent h
    next => exact exists_float_of_readExponent h
    next => exact exists_float_of_makeFloat h

theorem isNumber_of_readAfterDigits {negative : Bool} {significand dropped : Nat} {json : Json}
    (h : readAfterDigits negative significand dropped cursor = .ok (json, after)) :
    (∃ value, json = .integer value) ∨ ∃ x, json = .float x := by
  rw [readAfterDigits] at h
  split at h
  next => exact .inr (exists_float_of_readFraction h)
  next => exact .inr (exists_float_of_readExponent h)
  next => exact .inr (exists_float_of_readExponent h)
  next =>
    split_ifs at h
    · exact .inr (exists_float_of_makeFloat h)
    · cases h
      exact .inl ⟨_, rfl⟩
    · cases h
      exact .inl ⟨_, rfl⟩
    · exact .inr (exists_float_of_makeFloat h)

theorem isNumber_of_readNumber {json : Json} (h : readNumber cursor = .ok (json, after)) :
    (∃ value, json = .integer value) ∨ ∃ x, json = .float x := by
  unfold readNumber at h
  dsimp only at h
  split at h
  next => cases h
  next =>
    split at h
    next =>
      split at h
      next => cases h
      next => exact isNumber_of_readAfterDigits h
    next => exact isNumber_of_readAfterDigits h
  next =>
    split at h
    next => exact isNumber_of_readAfterDigits h
    next => cases h

/-- Digits make a natural number only if they have no sign, none was dropped and no fraction or
exponent follows. -/
theorem of_readAfterDigits_natural {negative : Bool} {significand dropped : Nat}
    (h : readAfterDigits negative significand dropped cursor = .ok (.integer n, after)) :
    negative = false ∧ dropped = 0 ∧ significand = n ∧ after = cursor ∧
      ∀ c ∈ cursor.peek?, c ≠ '.' ∧ c ≠ 'e' ∧ c ≠ 'E' := by
  rw [readAfterDigits] at h
  split at h
  next => obtain ⟨x, hx⟩ := exists_float_of_readFraction h; cases hx
  next => obtain ⟨x, hx⟩ := exists_float_of_readExponent h; cases hx
  next => obtain ⟨x, hx⟩ := exists_float_of_readExponent h; cases hx
  next hpoint he hE =>
    have hends : ∀ c ∈ cursor.peek?, c ≠ '.' ∧ c ≠ 'e' ∧ c ≠ 'E' := by
      rintro c hc
      refine ⟨?_, ?_, ?_⟩
      · rintro rfl
        exact hpoint hc
      · rintro rfl
        exact he hc
      · rintro rfl
        exact hE hc
    split_ifs at h with hdropped hsign hrange
    · obtain ⟨x, hx⟩ := exists_float_of_makeFloat h; cases hx
    · simp at h hsign
      exact ⟨hsign, by omega, by omega, h.2.symm, hends⟩
    · simp at h hrange
      omega
    · obtain ⟨x, hx⟩ := exists_float_of_makeFloat h; cases hx

theorem rest_of_readNumber (h : readNumber cursor = .ok (.integer n, after)) :
    cursor.rest = Nat.toDigits 10 n ++ after.rest ∧ n ≤ maxNatural ∧ EndsNumber after.rest := by
  cases hpeek : cursor.peek? with
  | none => simp [readNumber, hpeek, fail] at h
  | some c =>
      by_cases hminus : c = '-'
      · subst hminus
        exfalso
        have hsign : ∀ {significand dropped : Nat} {reached : Cursor},
            readAfterDigits true significand dropped reached ≠ .ok (.integer n, after) :=
          fun h => Bool.true_eq_false.mp (of_readAfterDigits_natural h).1
        simp only [readNumber, hpeek] at h
        split at h
        next => cases h
        next =>
          split at h
          next =>
            split at h
            next => cases h
            next => exact hsign h
          next => exact hsign h
        next =>
          split at h
          next => exact hsign h
          next => cases h
      · simp [readNumber, hpeek, hminus] at h
        split at h
        next => cases h
        next hzero =>
          have hzeroed : readAfterDigits false 0 0 cursor.advance = .ok (.integer n, after) ∧
              ∀ c ∈ cursor.advance.peek?, c.isDigit = false := by
            split at h
            next d hnext =>
              split at h
              next => cases h
              next hdigit => exact ⟨h, by simpa [hnext] using hdigit⟩
            next hnext => exact ⟨h, by simp [hnext]⟩
          obtain ⟨-, -, rfl, rfl, hends⟩ := of_readAfterDigits_natural hzeroed.1
          exact ⟨rest_of_peek? (hpeek.trans hzero), Nat.zero_le _,
            fun d hd => ⟨hzeroed.2 d hd, hends d hd⟩⟩
        next c' hzero hc =>
          cases hc
          split at h
          next hdigit =>
            obtain ⟨-, hdropped, hvalue, rfl, hends⟩ := of_readAfterDigits_natural h
            have htaken : takeSignificand 0 cursor.takeDigits.1 = (n, 0) :=
              Prod.ext hvalue hdropped
            obtain ⟨hn, hle⟩ := ofDigitChars_of_takeSignificand htaken (Nat.zero_le _)
            have hhead : cursor.takeDigits.1.head? ≠ some '0' := by
              rw [Cursor.takeDigits, rest_of_peek? hpeek, List.takeWhile_cons_of_pos hdigit]
              exact fun heq => hzero (Option.some.inj heq)
            rw [← hn, toDigits_ofDigitChars (isDigits_takeDigits hpeek hdigit) hhead]
            exact ⟨rest_takeDigits cursor, hn ▸ hle,
              fun d hd => ⟨isDigit_of_takeDigits hd, hends d hd⟩⟩
          next => cases h

/-! ## Strings -/

theorem rest_of_readHex (h : readHex cursor = .ok (n, after)) :
    ∃ x y z w, Text.natural? 16 [x, y, z, w] = some n ∧
      cursor.rest = x :: y :: z :: w :: after.rest := by
  rw [readHex] at h
  split at h
  next x y z w cs hrest =>
    split at h
    next unit hunit =>
      cases h
      exact ⟨x, y, z, w, hunit, by simp [Cursor.advance, hrest]⟩
    next => cases h
  next =>
    split_ifs at h
    · cases h
    · cases h

theorem rest_of_readPairMark {mark : Char} (h : readPairMark mark cursor = .ok after) :
    cursor.rest = mark :: after.rest := by
  rw [readPairMark] at h
  split at h
  next => cases h
  next c hpeek =>
    split_ifs at h with hc
    · cases h
      rw [rest_of_peek? hpeek, hc]
    · cases h

theorem escapes_of_readUnits (h : readUnits cursor = .ok (c, after)) :
    ∃ cs, Escapes ('u' :: cs) c ∧ cursor.rest = cs ++ after.rest := by
  rw [readUnits] at h
  obtain ⟨⟨high, second⟩, hhigh, h⟩ := bind_eq_ok_iff.mp h
  obtain ⟨x, y, z, w, hfirst, hrest⟩ := rest_of_readHex hhigh
  dsimp only at h
  split at h
  next => cases h
  next hlone =>
    split at h
    next hplain =>
      cases h
      refine ⟨[x, y, z, w], .unit hfirst ?_, hrest⟩
      simp at hlone hplain
      omega
    next hlead =>
      obtain ⟨slash, hslash, h⟩ := bind_eq_ok_iff.mp h
      obtain ⟨mark, hmark, h⟩ := bind_eq_ok_iff.mp h
      obtain ⟨⟨low, last⟩, hlow, h⟩ := bind_eq_ok_iff.mp h
      obtain ⟨x', y', z', w', hsecond, hrest'⟩ := rest_of_readHex hlow
      dsimp only at h
      split at h
      next => cases h
      next htrail =>
        obtain ⟨rfl, rfl⟩ := Prod.mk.inj (Except.ok.inj h)
        have hpair : cursor.rest =
            [x, y, z, w, '\\', 'u', x', y', z', w'] ++ last.rest := by
          rw [hrest, rest_of_readPairMark hslash, rest_of_readPairMark hmark, hrest']
          rfl
        simp at hlead htrail
        exact ⟨_, .pair hfirst hlead hsecond htrail, hpair⟩

theorem escapes_of_readEscape (h : readEscape cursor = .ok (c, after)) :
    ∃ escape, Escapes escape c ∧ cursor.rest = escape ++ after.rest := by
  rw [readEscape] at h
  split at h
  next => cases h
  next hpeek =>
    obtain ⟨cs, hcs, hrest⟩ := escapes_of_readUnits h
    exact ⟨'u' :: cs, hcs, by rw [rest_of_peek? hpeek, hrest, List.cons_append]⟩
  next letter _ hpeek =>
    split at h
    next hletter =>
      cases h
      exact ⟨[letter], .letter hletter, rest_of_peek? hpeek⟩
    next => cases h

theorem isUnescaped_of_ne (hsmall : ¬ c.toNat < 0x20) (hquote : c ≠ '"') (hslash : c ≠ '\\') :
    IsUnescaped c := ⟨Nat.le_of_not_lt hsmall, hquote, hslash⟩

theorem spells_of_readCharacters {before : List Char} {s : String}
    (h : readCharacters fuel before cursor = .ok (s, after)) :
    ∃ inner text, Spells inner text ∧ s.toList = before.reverse ++ text ∧
      cursor.rest = inner ++ '"' :: after.rest := by
  induction fuel generalizing before cursor with
  | zero => cases h
  | succ fuel ih =>
      rw [readCharacters] at h
      split at h
      next => cases h
      next hpeek =>
        cases h
        exact ⟨[], [], .nil, by simp, rest_of_peek? hpeek⟩
      next hpeek =>
        obtain ⟨⟨c, next⟩, hescape, h⟩ := bind_eq_ok_iff.mp h
        obtain ⟨escape, hc, hrest⟩ := escapes_of_readEscape hescape
        obtain ⟨inner, text, hspells, hs, hinner⟩ := ih h
        refine ⟨_, _, .escape hc hspells, by simp [hs], ?_⟩
        rw [rest_of_peek? hpeek, hrest, hinner, List.cons_append, List.append_assoc]
      next c hquote hslash hpeek =>
        split at h
        next => cases h
        next hsmall =>
          obtain ⟨inner, text, hspells, hs, hinner⟩ := ih h
          refine ⟨_, _, .unescaped (isUnescaped_of_ne hsmall ?_ ?_) hspells, by simp [hs], ?_⟩
          · exact hquote
          · exact hslash
          · rw [rest_of_peek? hpeek, hinner, List.cons_append]

/-- What is read of a string is the text that is spelled up to its closing quote. -/
theorem spells_of_readText {s : String} (h : readText cursor = .ok (s, after)) :
    ∃ inner, Spells inner s.toList ∧ cursor.rest = inner ++ '"' :: after.rest := by
  obtain ⟨inner, text, hspells, hs, hrest⟩ := spells_of_readCharacters h
  rw [List.reverse_nil, List.nil_append] at hs
  exact ⟨inner, hs ▸ hspells, hrest⟩

/-! ## Items and members -/

variable {α : Type}

/-- Wherever the reader makes a value, the text that it has passed stands in this relation to it,
but for blanks before it. -/
def Takes (reader : Cursor → Except ReadError (α × Cursor)) (Means : List Char → α → Prop) : Prop :=
  ∀ ⦃cursor after : Cursor⦄ ⦃value : α⦄, reader cursor = .ok (value, after) →
    ∃ blank raw, IsBlank blank ∧ Means raw value ∧ cursor.rest = blank ++ (raw ++ after.rest)

theorem rest_of_nextItem (h : nextItem first cursor = .ok (true, after)) :
    ∃ before behind, IsBlank before ∧ IsBlank behind ∧
      cursor.rest = before ++ ((if first then [] else [',']) ++ (behind ++ after.rest)) := by
  obtain ⟨before, hbefore, hrest⟩ := exists_skipBlanks cursor
  rw [nextItem] at h
  generalize cursor.skipBlanks = start at h hrest
  dsimp only at h
  split at h
  next => cases h
  next => cases h
  next c _ hpeek =>
    split at h
    next hfirst =>
      cases h
      exact ⟨before, [], hbefore, isBlank_nil, by simpa [hfirst] using hrest⟩
    next hfirst =>
      split at h
      next hcomma =>
        obtain ⟨behind, hbehind, hstart⟩ := exists_skipBlanks start.advance
        split at h
        next => cases h
        next => cases h
        next =>
          cases h
          refine ⟨before, behind, hbefore, hbehind, ?_⟩
          rw [hrest, rest_of_peek? hpeek, hcomma, hstart, if_neg hfirst]
          rfl
      next => cases h

theorem rest_of_nextItem_end (h : nextItem first cursor = .ok (false, after)) :
    ∃ blank, IsBlank blank ∧ cursor.rest = blank ++ after.rest ∧ after.peek? = some ']' := by
  obtain ⟨blank, hblank, hrest⟩ := exists_skipBlanks cursor
  rw [nextItem] at h
  generalize cursor.skipBlanks = start at h hrest
  dsimp only at h
  split at h
  next => cases h
  next hpeek =>
    cases h
    exact ⟨blank, hblank, hrest, hpeek⟩
  next =>
    split_ifs at h
    · cases h
    · split at h
      next => cases h
      next => cases h
      next => cases h
    · cases h

/-- The items that are read up to the end of an array. -/
theorem exists_readItems {item : Cursor → Except ReadError (α × Cursor)}
    {Means : List Char → α → Prop} (hitem : Takes item Means) {before values : List α}
    (h : readItems item fuel before cursor = .ok (values, after)) :
    ∃ texts items inner, Spread before.isEmpty texts inner ∧ List.Forall₂ Means texts items ∧
      values = before.reverse ++ items ∧ cursor.rest = inner ++ after.rest ∧
      after.peek? = some ']' := by
  induction fuel generalizing before cursor with
  | zero => cases h
  | succ fuel ih =>
      rw [readItems] at h
      obtain ⟨⟨more, start⟩, hmore, h⟩ := bind_eq_ok_iff.mp h
      cases more with
      | false =>
          cases h
          obtain ⟨blank, hblank, hrest, hpeek⟩ := rest_of_nextItem_end hmore
          exact ⟨[], [], blank, .nil hblank, .nil, (List.append_nil _).symm, hrest, hpeek⟩
      | true =>
          obtain ⟨⟨value, next⟩, hvalue, h⟩ := bind_eq_ok_iff.mp h
          obtain ⟨lead, behind, hlead, hbehind, hrest⟩ := rest_of_nextItem hmore
          obtain ⟨blank, raw, hblank, hraw, hstart⟩ := hitem hvalue
          obtain ⟨texts, items, inner, hspread, hitems, hvalues, hnext, hpeek⟩ := ih h
          refine ⟨raw :: texts, value :: items, _,
            .cons hlead (hbehind.append hblank) hspread, .cons hraw hitems, ?_, ?_, hpeek⟩
          · simp [hvalues]
          · simp [hrest, hstart, hnext]

theorem rest_of_nextMember (h : nextMember first cursor = .ok (true, after)) :
    ∃ before behind, IsBlank before ∧ IsBlank behind ∧ after.peek? = some '"' ∧
      cursor.rest = before ++ ((if first then [] else [',']) ++ (behind ++ after.rest)) := by
  obtain ⟨before, hbefore, hrest⟩ := exists_skipBlanks cursor
  rw [nextMember] at h
  generalize cursor.skipBlanks = start at h hrest
  dsimp only at h
  split at h
  next => cases h
  next => cases h
  next c _ hpeek =>
    split at h
    next hfirst =>
      split at h
      next hquote =>
        cases h
        exact ⟨before, [], hbefore, isBlank_nil, hquote ▸ hpeek, by simpa [hfirst] using hrest⟩
      next => cases h
    next hfirst =>
      split at h
      next hcomma =>
        obtain ⟨behind, hbehind, hstart⟩ := exists_skipBlanks start.advance
        split at h
        next => cases h
        next hquote =>
          cases h
          refine ⟨before, behind, hbefore, hbehind, hquote, ?_⟩
          rw [hrest, rest_of_peek? hpeek, hcomma, hstart, if_neg hfirst]
          rfl
        next => cases h
        next => cases h
      next => cases h

theorem rest_of_nextMember_end (h : nextMember first cursor = .ok (false, after)) :
    ∃ blank, IsBlank blank ∧ cursor.rest = blank ++ after.rest ∧ after.peek? = some '\x7d' := by
  obtain ⟨blank, hblank, hrest⟩ := exists_skipBlanks cursor
  rw [nextMember] at h
  generalize cursor.skipBlanks = start at h hrest
  dsimp only at h
  split at h
  next => cases h
  next hpeek =>
    cases h
    exact ⟨blank, hblank, hrest, hpeek⟩
  next =>
    split_ifs at h
    · cases h
    · cases h
    · split at h
      next => cases h
      next => cases h
      next => cases h
      next => cases h
    · cases h

theorem rest_of_readColon (h : readColon cursor = .ok after) :
    ∃ blank, IsBlank blank ∧ cursor.rest = blank ++ ':' :: after.rest := by
  obtain ⟨blank, hblank, hrest⟩ := exists_skipBlanks cursor
  rw [readColon] at h
  split at h
  next => cases h
  next hpeek =>
    cases h
    exact ⟨blank, hblank, rest_of_peek? hpeek ▸ hrest⟩
  next => cases h

/-- The members that are read up to the end of an object. What holds of the members before and of
what was made of them goes on to hold with every member that is read. -/
theorem exists_readMembers {member : String → α → Cursor → Except ReadError (α × Cursor)}
    {Holds : List (String × List Char) → α → Prop}
    (hmember : ∀ ⦃name : String⦄ ⦃cursor after : Cursor⦄ ⦃value next : α⦄
        ⦃entries : List (String × List Char)⦄,
      member name value cursor = .ok (next, after) → Holds entries value →
        ∃ before behind raw, IsBlank before ∧ IsBlank behind ∧ IsValue raw ∧
          cursor.rest = before ++ ':' :: (behind ++ (raw ++ after.rest)) ∧
          Holds (entries ++ [(name, raw)]) next)
    {entries : List (String × List Char)} {value last : α} (hvalue : Holds entries value)
    (h : readMembers member fuel first value cursor = .ok (last, after)) :
    ∃ members others inner, List.Forall₂ WrittenMember.Says members others ∧
      Spread first (members.map WrittenMember.chars) inner ∧ Holds (entries ++ others) last ∧
      cursor.rest = inner ++ after.rest ∧ after.peek? = some '\x7d' := by
  induction fuel generalizing first value cursor entries with
  | zero => cases h
  | succ fuel ih =>
      rw [readMembers] at h
      obtain ⟨⟨more, start⟩, hmore, h⟩ := bind_eq_ok_iff.mp h
      cases more with
      | false =>
          cases h
          obtain ⟨blank, hblank, hrest, hpeek⟩ := rest_of_nextMember_end hmore
          refine ⟨[], [], blank, .nil, .nil hblank, ?_, hrest, hpeek⟩
          rwa [List.append_nil]
      | true =>
          obtain ⟨⟨name, named⟩, hname, h⟩ := bind_eq_ok_iff.mp h
          obtain ⟨⟨next, reached⟩, hnext, h⟩ := bind_eq_ok_iff.mp h
          obtain ⟨lead, blank, hlead, hblank, hquote, hrest⟩ := rest_of_nextMember hmore
          obtain ⟨spelled, hspelled, hnamed⟩ := spells_of_readText hname
          obtain ⟨before, behind, raw, hbefore, hbehind, hraw, hcolon, hholds⟩ :=
            hmember hnext hvalue
          obtain ⟨members, others, inner, hsays, hspread, hlast, hinner, hpeek⟩ := ih hholds h
          have hself : WrittenMember.Says ⟨spelled, before, behind, raw⟩ (name, raw) :=
            ⟨hspelled, hbefore, hbehind, rfl, hraw⟩
          refine ⟨_ :: members, (name, raw) :: others, _, .cons hself hsays,
            .cons hlead hblank hspread, ?_, ?_, hpeek⟩
          · rwa [List.append_assoc] at hlast
          · simp [WrittenMember.chars, hrest, rest_of_peek? hquote, hnamed, hcolon, hinner]

/-! ## Ends -/

theorem rest_of_readArrayEnd (h : readArrayEnd cursor = .ok after) :
    ∃ blank, IsBlank blank ∧ cursor.rest = blank ++ ']' :: after.rest := by
  obtain ⟨blank, hblank, hrest⟩ := exists_skipBlanks cursor
  rw [readArrayEnd] at h
  dsimp only at h
  split at h
  next => cases h
  next hpeek =>
    cases h
    exact ⟨blank, hblank, rest_of_peek? hpeek ▸ hrest⟩
  next =>
    split_ifs at h
    · cases h
    · cases h
  next => cases h

theorem isBlank_of_readEnd (h : readEnd cursor = .ok ()) : IsBlank cursor.rest := by
  obtain ⟨blank, hblank, hrest⟩ := exists_skipBlanks cursor
  rw [readEnd] at h
  split at h
  next hpeek =>
    rw [hrest, List.head?_eq_none_iff.mp hpeek, List.append_nil]
    exact hblank
  next => cases h

end TemplateBundler.Json

import Mathlib.Data.List.Forall2
import TemplateBundler.Json.Parser
import TemplateBundler.Proofs.Json.Printer

/-! # Values read back

What is printed of a value is read back as that value, whatever comes after it, as long as that
does not go on with a number. This holds of plain values: those without fractions, whose numbers
all fit 64 bits.
-/

namespace TemplateBundler.Json

variable {α : Type} {json : Json} {cs rest : List Char} {c : Char}

/-- All numbers in the value are integers of 64 bits. -/
inductive IsPlain : Json → Prop
  | null : IsPlain null
  | flag (value : Bool) : IsPlain (flag value)
  | integer {n : Int} (h : Found.isShort n) : IsPlain (integer n)
  | text (s : String) : IsPlain (text s)
  | array {items : List Json} (h : ∀ item ∈ items, IsPlain item) : IsPlain (array items)
  | object {members : List (String × Json)} (h : ∀ member ∈ members, IsPlain member.2) :
      IsPlain (object members)

/-- The characters cannot be more of a number that ends before them. -/
def EndsNumber (rest : List Char) : Prop :=
  ∀ c ∈ rest.head?, c.isDigit = false ∧ c ≠ '.' ∧ c ≠ 'e' ∧ c ≠ 'E'

/-- The reader makes this value of these characters and stops behind them, wherever they stand. -/
def Reads (reader : Cursor → Except ReadError (α × Cursor)) (cs : List Char) (value : α) : Prop :=
  ∀ (rest : List Char) (place : Place) (bound : Nat), EndsNumber rest →
    cs.length + rest.length ≤ bound →
      ∃ next, reader ⟨cs ++ rest, place, bound⟩ = .ok (value, ⟨rest, next, bound⟩)

/-! ## Digits -/

theorem endsNumber_nil : EndsNumber [] := by simp [EndsNumber]

theorem endsNumber_cons_iff :
    EndsNumber (c :: rest) ↔ c.isDigit = false ∧ c ≠ '.' ∧ c ≠ 'e' ∧ c ≠ 'E' := by
  simp [EndsNumber]

/-- A number does not begin with a zero, but for zero itself. -/
theorem head?_toDigits_ne {n : Nat} (h : 0 < n) : (Nat.toDigits 10 n).head? ≠ some '0' := by
  induction n using Nat.strongRecOn with
  | ind n ih =>
      by_cases hn : n < 10
      · simpa [Nat.toDigits_of_lt_base hn] using Nat.ne_of_gt h
      · have hfront := ih (n / 10) (by omega) (by omega)
        obtain ⟨d, ds, hds⟩ := List.exists_cons_of_ne_nil (@Nat.toDigits_ne_nil (n / 10) 10)
        rw [hds] at hfront
        simpa [Nat.toDigits_of_base_le (by decide) (Nat.le_of_not_lt hn), hds] using hfront

theorem takeWhile_digits {ds : List Char} (hds : ∀ d ∈ ds, d.isDigit)
    (hrest : ∀ c ∈ rest.head?, c.isDigit = false) : (ds ++ rest).takeWhile Char.isDigit = ds := by
  rw [List.takeWhile_append_of_pos hds]
  cases rest with
  | nil => simp
  | cons c rest => simp [hrest c rfl]

theorem takeDigits_append {ds : List Char} (hds : ∀ d ∈ ds, d.isDigit) (hrest : EndsNumber rest)
    (place : Place) (bound : Nat) :
    ∃ next, Cursor.takeDigits ⟨ds ++ rest, place, bound⟩ = (ds, ⟨rest, next, bound⟩) := by
  have htake := takeWhile_digits hds fun c hc => (hrest c hc).1
  refine ⟨{ place with column := place.column + ds.length }, ?_⟩
  simp [Cursor.takeDigits, htake]

theorem takeSignificand_eq {start : Nat} {ds : List Char}
    (h : Nat.ofDigitChars 10 ds start ≤ maxNatural) :
    takeSignificand start ds = (Nat.ofDigitChars 10 ds start, 0) := by
  induction ds generalizing start with
  | nil => simp [takeSignificand]
  | cons d ds ih =>
      rw [Nat.ofDigitChars_cons] at h
      have hle : 10 * start + (d.toNat - '0'.toNat) ≤ maxNatural := by
        refine Nat.le_trans ?_ h
        rw [Nat.ofDigitChars_eq_ofDigitChars_zero]
        have hpos := Nat.one_le_pow ds.length 10 (by decide)
        exact Nat.le_add_right_of_le (Nat.le_mul_of_pos_left _ hpos)
      rw [Nat.ofDigitChars_cons, ← ih h]
      simp only [takeSignificand, List.foldl_cons]
      rw [if_neg (by simpa [Nat.mul_comm] using hle), Nat.mul_comm]

/-! ## Numbers -/

/-- Digits that all fit make an integer, unless they go on as another number. -/
theorem readAfterDigits_eq (negative : Bool) {n : Nat}
    (hsign : negative → 0 < n ∧ n ≤ 9223372036854775808) (hrest : EndsNumber rest)
    (place : Place) (bound : Nat) :
    readAfterDigits negative n 0 ⟨rest, place, bound⟩ =
      .ok (.integer (if negative then -n else n), ⟨rest, place, bound⟩) := by
  unfold readAfterDigits
  have hnumber : ∀ c ∈ ['.', 'e', 'E'], rest.head? ≠ some c := by
    intro c hc heq
    obtain ⟨-, hpoint, he, hE⟩ := hrest c heq
    simp [hpoint, he, hE] at hc
  split
  next hpeek => exact absurd hpeek (hnumber '.' (by simp))
  next hpeek => exact absurd hpeek (hnumber 'e' (by simp))
  next hpeek => exact absurd hpeek (hnumber 'E' (by simp))
  next =>
    cases negative with
    | false => simp
    | true => simp [hsign rfl]

/-- The digits of a number that fits, perhaps with a sign before them. -/
theorem reads_digits (negative : Bool) {n : Nat} (hn : n ≤ maxNatural)
    (hsign : negative → 0 < n ∧ n ≤ 9223372036854775808) :
    Reads readNumber ((if negative then ['-'] else []) ++ Nat.toDigits 10 n)
      (.integer (if negative then -n else n)) := by
  intro rest place bound hrest hbound
  have hafter := readAfterDigits_eq negative hsign hrest
  obtain rfl | hpos := Nat.eq_zero_or_pos n
  · have hneg : negative = false := by
      rw [← Bool.not_eq_true]
      exact fun h => absurd (hsign h).1 (Nat.lt_irrefl 0)
    subst hneg
    refine ⟨place.after '0', ?_⟩
    cases rest with
    | nil => simp [readNumber, Cursor.peek?, Cursor.advance, hafter]
    | cons c rest =>
        simp [readNumber, Cursor.peek?, Cursor.advance, hafter, (endsNumber_cons_iff.mp hrest).1]
  · obtain ⟨d, ds, hds⟩ := List.exists_cons_of_ne_nil (@Nat.toDigits_ne_nil n 10)
    have hdigits : ∀ c ∈ d :: ds, c.isDigit := fun c hc =>
      Nat.isDigit_of_mem_toDigits (by decide) (Nat.le_refl 10) (hds ▸ hc)
    have hd : d.isDigit := hdigits d List.mem_cons_self
    have hzero : d ≠ '0' := by simpa [hds] using head?_toDigits_ne hpos
    have hminus : d ≠ '-' := by rintro rfl; cases hd
    have hvalue : takeSignificand 0 (d :: ds) = (n, 0) := by
      rw [← hds, takeSignificand_eq, Nat.ofDigitChars_ten_toDigits]
      rwa [Nat.ofDigitChars_ten_toDigits]
    rw [hds]
    cases negative with
    | false =>
        obtain ⟨next, htake⟩ := takeDigits_append hdigits hrest place bound
        refine ⟨next, ?_⟩
        simp at htake
        simp [readNumber, Cursor.peek?, hd, hminus, htake, hvalue, hafter]
    | true =>
        obtain ⟨next, htake⟩ := takeDigits_append hdigits hrest (place.after '-') bound
        refine ⟨next, ?_⟩
        simp at htake
        simp [readNumber, Cursor.peek?, Cursor.advance, hd, htake, hvalue, hafter]

theorem reads_integer {n : Int} (h : Found.isShort n) :
    Reads readNumber (integer n).chars (.integer n) := by
  simp only [Found.isShort, Bool.and_eq_true, decide_eq_true_eq] at h
  rw [chars_integer]
  cases n with
  | ofNat n =>
      have hchars : (toString (Int.ofNat n)).toList = Nat.toDigits 10 n := Nat.toList_repr
      rw [hchars]
      exact reads_digits false (Int.ofNat_le.mp h.2) (by simp)
  | negSucc n =>
      have hchars : (toString (Int.negSucc n)).toList = '-' :: Nat.toDigits 10 (n + 1) := by
        rw [← Nat.toList_repr]
        exact String.toList_append
      rw [hchars]
      exact reads_digits true (n := n + 1) (by unfold maxNatural; omega) (by omega)

/-! ## How values begin -/

/-- A value can begin with this character. -/
def Opens (c : Char) : Prop := c ∈ ['n', 't', 'f', '"', '[', '\x7b', '-'] ∨ c.isDigit

instance : DecidablePred Opens := fun _ => inferInstanceAs (Decidable (_ ∨ _))

theorem Opens.ne (h : Opens c) {d : Char} (hd : ¬ Opens d) : c ≠ d := by
  rintro rfl
  exact hd h

theorem Opens.notMem_blanks (h : Opens c) : c ∉ [' ', '\n', '\t', '\r'] := by
  intro hc
  have hblank : ∀ b ∈ [' ', '\n', '\t', '\r'], ¬ Opens b := by simp [Opens]
  exact hblank c hc h

theorem skipBlanks_cons (hc : c ∉ [' ', '\n', '\t', '\r']) (cs : List Char) (place : Place)
    (bound : Nat) : Cursor.skipBlanks ⟨c :: cs, place, bound⟩ = ⟨c :: cs, place, bound⟩ := by
  simp [Cursor.skipBlanks, Cursor.skipBlanks.go] at hc ⊢
  simp [hc]

theorem Opens.skipBlanks (h : Opens c) (place : Place) (bound : Nat) :
    Cursor.skipBlanks ⟨c :: cs, place, bound⟩ = ⟨c :: cs, place, bound⟩ :=
  skipBlanks_cons h.notMem_blanks cs place bound

theorem opens_of_number (hc : c = '-' ∨ c.isDigit) : Opens c := hc.imp_left fun heq => by simp [heq]

/-- No other value begins as a number does. -/
theorem ne_of_number (hc : c = '-' ∨ c.isDigit) {d : Char} (hd : ¬ (d = '-' ∨ d.isDigit)) :
    c ≠ d := by
  rintro rfl
  exact hd hc

/-- The text of an integer begins with a sign or a digit. -/
theorem exists_chars_integer (n : Int) :
    ∃ c cs, (integer n).chars = c :: cs ∧ (c = '-' ∨ c.isDigit) := by
  rw [chars_integer]
  cases n with
  | ofNat n =>
      obtain ⟨d, ds, hds⟩ := List.exists_cons_of_ne_nil (@Nat.toDigits_ne_nil n 10)
      refine ⟨d, ds, Nat.toList_repr.trans hds, .inr ?_⟩
      exact Nat.isDigit_of_mem_toDigits (by decide) (Nat.le_refl 10) (hds ▸ List.mem_cons_self)
  | negSucc n => exact ⟨'-', _, String.toList_append, .inl rfl⟩

theorem IsPlain.exists_chars (h : json.IsPlain) : ∃ c cs, json.chars = c :: cs ∧ Opens c := by
  cases h with
  | null => exact ⟨_, _, chars_null, by decide⟩
  | flag value =>
      cases value with
      | false => exact ⟨_, _, chars_false, by decide⟩
      | true => exact ⟨_, _, chars_true, by decide⟩
  | integer =>
      obtain ⟨c, cs, hchars, hc⟩ := exists_chars_integer _
      exact ⟨c, cs, hchars, opens_of_number hc⟩
  | text s => exact ⟨_, _, (chars_text s).trans (literal_toList s), by decide⟩
  | array => exact ⟨_, _, chars_array _, by decide⟩
  | object => exact ⟨_, _, chars_object _, by decide⟩

/-! ## Items -/

theorem endsNumber_comma (rest : List Char) : EndsNumber (',' :: rest) :=
  endsNumber_cons_iff.mpr (by decide)

/-- What follows the text of an item: other items, each behind a comma, and the end. -/
theorem endsNumber_listed (texts : List (List Char)) (hc : c ∈ [']', '\x7d'])
    (rest : List Char) : EndsNumber (listed false texts ++ c :: rest) := by
  cases texts with
  | nil =>
      rw [listed, List.nil_append, endsNumber_cons_iff]
      obtain rfl | rfl : c = ']' ∨ c = '\x7d' := by simpa using hc
      · decide
      · decide
  | cons text texts => exact endsNumber_comma _

/-- An item follows its comma, or else is the first. -/
theorem nextItem_opens (first : Bool) (h : Opens c) (cs : List Char) (place : Place) (bound : Nat) :
    ∃ next, nextItem first ⟨(if first then [] else [',']) ++ c :: cs, place, bound⟩ =
      .ok (true, ⟨c :: cs, next, bound⟩) := by
  have hend : c ≠ ']' := h.ne (by decide)
  cases first with
  | true => exact ⟨place, by simp [nextItem, h.skipBlanks, Cursor.peek?]⟩
  | false =>
      have hcomma : Cursor.skipBlanks ⟨',' :: c :: cs, place, bound⟩ =
          ⟨',' :: c :: cs, place, bound⟩ := rfl
      refine ⟨place.after ',', ?_⟩
      simp [nextItem, hcomma, h.skipBlanks, Cursor.peek?, Cursor.advance]

theorem nextItem_end (first : Bool) (rest : List Char) (place : Place) (bound : Nat) :
    nextItem first ⟨']' :: rest, place, bound⟩ = .ok (false, ⟨']' :: rest, place, bound⟩) := rfl

variable {item : Cursor → Except ReadError (α × Cursor)} {items : List Json} {values : List α}

theorem readItems_step {cursor start after : Cursor} {before : List α} {value : α} {fuel : Nat}
    (hnext : nextItem before.isEmpty cursor = .ok (true, start))
    (hitem : item start = .ok (value, after)) :
    readItems item (fuel + 1) before cursor = readItems item fuel (value :: before) after := by
  simp [readItems, hnext, hitem, bind, Except.bind]

/-- All items that are left, up to the bracket that closes the array. -/
theorem readItems_listed
    (hread : List.Forall₂ (fun json value => IsPlain json ∧ Reads item json.chars value)
      items values)
    (before : List α) {fuel : Nat} (hfuel : items.length < fuel) (rest : List Char) (place : Place)
    {bound : Nat}
    (hbound : (listed before.isEmpty (items.map chars) ++ ']' :: rest).length ≤ bound) :
    ∃ next, readItems item fuel before
        ⟨listed before.isEmpty (items.map chars) ++ ']' :: rest, place, bound⟩ =
      .ok (before.reverse ++ values, ⟨']' :: rest, next, bound⟩) := by
  induction hread generalizing before fuel place with
  | nil =>
      obtain ⟨fuel, rfl⟩ := Nat.exists_eq_add_of_lt hfuel
      refine ⟨place, ?_⟩
      simp [readItems, listed, nextItem_end, bind, Except.bind, pure, Except.pure]
  | @cons json value items values hjson _ ih =>
      obtain ⟨hplain, hread⟩ := hjson
      obtain ⟨c, cs, hchars, hc⟩ := hplain.exists_chars
      obtain ⟨fuel, rfl⟩ : ∃ more, fuel = more + 1 := ⟨fuel - 1, by omega⟩
      rw [List.map_cons, listed, List.append_assoc, List.append_assoc] at hbound ⊢
      rw [List.length_append, List.length_append] at hbound
      have hends := endsNumber_listed (items.map chars) (c := ']') (by simp) rest
      obtain ⟨start, hnext⟩ := nextItem_opens before.isEmpty hc
        (cs ++ (listed false (items.map chars) ++ ']' :: rest)) place bound
      obtain ⟨after, hitem⟩ := hread _ start bound hends (by omega)
      obtain ⟨next, hrest⟩ := ih (value :: before) (Nat.succ_lt_succ_iff.mp hfuel) after
        (by rw [List.isEmpty_cons]; omega)
      refine ⟨next, ?_⟩
      rw [hchars, List.cons_append] at hitem ⊢
      rw [readItems_step hnext hitem]
      simpa using hrest

/-! ## Members -/

theorem nextMember_quote (first : Bool) (cs : List Char) (place : Place) (bound : Nat) :
    ∃ next, nextMember first ⟨(if first then [] else [',']) ++ '"' :: cs, place, bound⟩ =
      .ok (true, ⟨'"' :: cs, next, bound⟩) := by
  cases first with
  | true => exact ⟨place, rfl⟩
  | false => exact ⟨place.after ',', rfl⟩

theorem nextMember_end (first : Bool) (rest : List Char) (place : Place) (bound : Nat) :
    nextMember first ⟨'\x7d' :: rest, place, bound⟩ =
      .ok (false, ⟨'\x7d' :: rest, place, bound⟩) := rfl

/-- Reading these members, one behind the other, makes the last value of the first. -/
inductive ReadsMembers (member : String → α → Cursor → Except ReadError (α × Cursor)) :
    α → List (String × Json) → α → Prop
  | nil (value : α) : ReadsMembers member value [] value
  | cons {name : String} {json : Json} {value next last : α} {members : List (String × Json)}
      (hread : Reads (member name value) (':' :: json.chars) next)
      (hothers : ReadsMembers member next members last) :
      ReadsMembers member value ((name, json) :: members) last

variable {member : String → α → Cursor → Except ReadError (α × Cursor)}
  {members others : List (String × Json)} {value next last : α}

theorem ReadsMembers.append (h : ReadsMembers member value members next)
    (hothers : ReadsMembers member next others last) :
    ReadsMembers member value (members ++ others) last := by
  induction h with
  | nil => exact hothers
  | cons hread _ ih => exact .cons hread (ih hothers)

/-- A member whose name is written as a literal is read by its own reader from the colon on; the
others come behind it. -/
theorem readMembers_cons (member : String → α → Cursor → Except ReadError (α × Cursor))
    (first : Bool) (name : String) (raw : List Char) (texts : List (List Char)) (rest : List Char)
    (place : Place) {bound : Nat}
    (hbound : (listed first (((literal name).toList ++ ':' :: raw) :: texts) ++
      '\x7d' :: rest).length ≤ bound) (fuel : Nat) (value : α) :
    ∃ named, readMembers member (fuel + 1) first value
        ⟨listed first (((literal name).toList ++ ':' :: raw) :: texts) ++ '\x7d' :: rest, place,
          bound⟩ =
      (member name value ⟨':' :: raw ++ (listed false texts ++ '\x7d' :: rest), named, bound⟩ >>=
        fun (value, cursor) => readMembers member fuel false value cursor) ∧
      (':' :: raw).length + (listed false texts ++ '\x7d' :: rest).length ≤ bound := by
  have hlength := length_le_literal name
  simp only [listed, List.append_assoc, List.cons_append, List.length_append, List.length_cons]
    at hbound ⊢
  have hname : name.toList.length ≤ bound := by omega
  obtain ⟨start, hnext⟩ := nextMember_quote first (name.toList.flatMap escape ++ '"' ::
    ':' :: (raw ++ (listed false texts ++ '\x7d' :: rest))) place bound
  obtain ⟨named, hnamed⟩ := readText_literal name
    (':' :: (raw ++ (listed false texts ++ '\x7d' :: rest))) (start.after '"') hname
  refine ⟨named, ?_, by omega⟩
  rw [literal_append]
  simp [readMembers, hnext, Cursor.advance, hnamed, bind, Except.bind]

/-- All members that are left, up to the brace that closes the object. -/
theorem readMembers_listed (hread : ReadsMembers member value members last) (first : Bool)
    {fuel : Nat} (hfuel : members.length < fuel) (rest : List Char) (place : Place) {bound : Nat}
    (hbound : (listed first (members.map memberChars) ++ '\x7d' :: rest).length ≤ bound) :
    ∃ next, readMembers member fuel first value
        ⟨listed first (members.map memberChars) ++ '\x7d' :: rest, place, bound⟩ =
      .ok (last, ⟨'\x7d' :: rest, next, bound⟩) := by
  induction hread generalizing first fuel place with
  | nil value =>
      obtain ⟨fuel, rfl⟩ := Nat.exists_eq_add_of_lt hfuel
      refine ⟨place, ?_⟩
      simp [readMembers, listed, nextMember_end, bind, Except.bind, pure, Except.pure]
  | @cons name json value after last members hread _ ih =>
      obtain ⟨fuel, rfl⟩ : ∃ more, fuel = more + 1 := ⟨fuel - 1, by omega⟩
      have hends := endsNumber_listed (members.map memberChars) (c := '\x7d') (by simp) rest
      obtain ⟨named, hnamed, hlength⟩ := readMembers_cons member first name json.chars
        (members.map memberChars) rest place hbound fuel value
      obtain ⟨place', hmember⟩ := hread _ named bound hends hlength
      obtain ⟨next, hrest⟩ := ih false (Nat.succ_lt_succ_iff.mp hfuel) place' (by omega)
      refine ⟨next, hnamed.trans ?_⟩
      rw [hmember]
      exact hrest

/-! ## Values -/

theorem length_le_listed (first : Bool) (texts : List (List Char)) :
    texts.length ≤ (listed first texts).length + 1 := by
  have hfurther : ∀ texts : List (List Char), texts.length ≤ (listed false texts).length := by
    intro texts
    induction texts with
    | nil => exact Nat.le_refl 0
    | cons text texts ih => simp [listed]; omega
  cases texts with
  | nil => exact Nat.zero_le _
  | cons text texts =>
      have hle := hfurther texts
      simp [listed]
      omega

theorem length_le_listed_of_mem {text : List Char} {texts : List (List Char)} (h : text ∈ texts)
    (first : Bool) : text.length ≤ (listed first texts).length := by
  induction texts generalizing first with
  | nil => cases h
  | cons front texts ih =>
      simp only [listed, List.length_append]
      rcases List.mem_cons.mp h with rfl | hmem
      · omega
      · have hle := ih hmem false
        omega

theorem readColon_cons (rest : List Char) (place : Place) (bound : Nat) :
    readColon ⟨':' :: rest, place, bound⟩ = .ok ⟨rest, place.after ':', bound⟩ := rfl

theorem readValue_of_number (hc : c = '-' ∨ c.isDigit) (cs : List Char) (place : Place)
    (bound fuel : Nat) :
    readValue (fuel + 1) ⟨c :: cs, place, bound⟩ = readNumber ⟨c :: cs, place, bound⟩ := by
  have hopens : Opens c := opens_of_number hc
  have hnull : c ≠ 'n' := ne_of_number hc (by decide)
  have htrue : c ≠ 't' := ne_of_number hc (by decide)
  have hfalse : c ≠ 'f' := ne_of_number hc (by decide)
  have htext : c ≠ '"' := ne_of_number hc (by decide)
  have harray : c ≠ '[' := ne_of_number hc (by decide)
  have hobject : c ≠ '\x7b' := ne_of_number hc (by decide)
  simp [readValue, hopens.skipBlanks, Cursor.peek?, hc]

theorem readValue_array (cs : List Char) (place : Place) (bound fuel : Nat) :
    readValue (fuel + 1) ⟨'[' :: cs, place, bound⟩ =
      (fun (items, cursor) => (array items, cursor.advance)) <$>
        readItems (readValue fuel) (fuel + 1) [] ⟨cs, place.after '[', bound⟩ := rfl

/-- How the member of an object is read, after those before it. -/
def gatherMember (item : Cursor → Except ReadError (Json × Cursor)) (name : String)
    (members : List (String × Json)) (cursor : Cursor) :
    Except ReadError (List (String × Json) × Cursor) := do
  let (value, cursor) ← item (← readColon cursor)
  return ((name, value) :: members, cursor)

theorem readValue_object (cs : List Char) (place : Place) (bound fuel : Nat) :
    readValue (fuel + 1) ⟨'\x7b' :: cs, place, bound⟩ =
      (fun (members, cursor) => (object members.reverse, cursor.advance)) <$>
        readMembers (gatherMember (readValue fuel)) (fuel + 1) true []
          ⟨cs, place.after '\x7b', bound⟩ := rfl

theorem readsMembers_gather {item : Cursor → Except ReadError (Json × Cursor)}
    {members : List (String × Json)} (h : ∀ member ∈ members, Reads item member.2.chars member.2)
    (before : List (String × Json)) :
    ReadsMembers (gatherMember item) before members (members.reverse ++ before) := by
  induction members generalizing before with
  | nil => exact .nil before
  | cons member members ih =>
      obtain ⟨hmember, hothers⟩ := List.forall_mem_cons.mp h
      rw [List.reverse_cons, List.append_assoc]
      refine .cons ?_ (ih hothers _)
      intro rest place bound hrest hbound
      rw [List.length_cons] at hbound
      obtain ⟨next, hnext⟩ := hmember rest (place.after ':') bound hrest (by omega)
      refine ⟨next, ?_⟩
      simp [gatherMember, readColon_cons, hnext, bind, Except.bind, pure, Except.pure]

/-- An array is read from the texts of its items. -/
theorem reads_array {fuel : Nat} {items : List Json}
    (hitems : ∀ item ∈ items, IsPlain item ∧ Reads (readValue fuel) item.chars item)
    (hfuel : items.length ≤ fuel) :
    Reads (readValue (fuel + 1)) (array items).chars (array items) := by
  intro rest place bound _ hbound
  rw [chars_array, List.length_cons, List.length_append, List.length_singleton] at hbound
  have hlength : (listed true (items.map chars) ++ ']' :: rest).length ≤ bound := by
    rw [List.length_append, List.length_cons]
    omega
  obtain ⟨next, hnext⟩ := readItems_listed (List.forall₂_same.mpr hitems) []
    (Nat.lt_succ_of_le hfuel) rest (place.after '[') hlength
  refine ⟨next.after ']', ?_⟩
  rw [List.isEmpty_nil] at hnext
  rw [chars_array, List.cons_append, List.append_assoc, readValue_array, List.singleton_append,
    hnext]
  rfl

/-- An object is read from the names and texts of its members. -/
theorem reads_object {fuel : Nat} {members : List (String × Json)}
    (hmembers : ∀ member ∈ members, Reads (readValue fuel) member.2.chars member.2)
    (hfuel : members.length ≤ fuel) :
    Reads (readValue (fuel + 1)) (object members).chars (object members) := by
  intro rest place bound _ hbound
  rw [chars_object, List.length_cons, List.length_append, List.length_singleton] at hbound
  have hlength : (listed true (members.map memberChars) ++ '\x7d' :: rest).length ≤ bound := by
    rw [List.length_append, List.length_cons]
    omega
  obtain ⟨next, hnext⟩ := readMembers_listed (readsMembers_gather hmembers []) true
    (Nat.lt_succ_of_le hfuel) rest (place.after '\x7b') hlength
  refine ⟨next.after '\x7d', ?_⟩
  rw [chars_object, List.cons_append, List.append_assoc, readValue_object, List.singleton_append,
    hnext]
  simp [Cursor.advance, Functor.map, Except.map]

/-- A plain value is read back from its text, with fuel to spare. -/
theorem reads_readValue (h : json.IsPlain) {fuel : Nat} (hfuel : json.chars.length < fuel) :
    Reads (readValue fuel) json.chars json := by
  induction h generalizing fuel with
  | null =>
      intro rest place bound _ _
      obtain ⟨fuel, rfl⟩ := Nat.exists_eq_add_of_lt hfuel
      rw [chars_null]
      exact ⟨_, rfl⟩
  | flag value =>
      intro rest place bound _ _
      obtain ⟨fuel, rfl⟩ := Nat.exists_eq_add_of_lt hfuel
      cases value with
      | true =>
          rw [chars_true]
          exact ⟨_, rfl⟩
      | false =>
          rw [chars_false]
          exact ⟨_, rfl⟩
  | @integer n hn =>
      intro rest place bound hrest hbound
      obtain ⟨fuel, rfl⟩ := Nat.exists_eq_add_of_lt hfuel
      obtain ⟨next, hnext⟩ := reads_integer hn rest place bound hrest hbound
      obtain ⟨c, cs, hchars, hc⟩ := exists_chars_integer n
      rw [hchars] at hnext ⊢
      exact ⟨next, (readValue_of_number hc _ _ _ _).trans hnext⟩
  | text s =>
      intro rest place bound _ hbound
      obtain ⟨fuel, rfl⟩ := Nat.exists_eq_add_of_lt hfuel
      rw [chars_text] at hbound ⊢
      have hlength := length_le_literal s
      exact readValue_literal s rest place (by omega) _
  | @array items hitems ih =>
      obtain ⟨fuel, rfl⟩ : ∃ more, fuel = more + 1 := ⟨fuel - 1, by omega⟩
      rw [chars_array, List.length_cons, List.length_append, List.length_singleton] at hfuel
      have hcount := length_le_listed true (items.map chars)
      rw [List.length_map] at hcount
      refine reads_array (fun item hitem => ?_) (by omega)
      have hle := length_le_listed_of_mem (List.mem_map_of_mem (f := chars) hitem) true
      exact ⟨hitems item hitem, ih item hitem (by omega)⟩
  | @object members hmembers ih =>
      obtain ⟨fuel, rfl⟩ : ∃ more, fuel = more + 1 := ⟨fuel - 1, by omega⟩
      rw [chars_object, List.length_cons, List.length_append, List.length_singleton] at hfuel
      have hcount := length_le_listed true (members.map memberChars)
      rw [List.length_map] at hcount
      refine reads_object (fun member hmember => ?_) (by omega)
      have hle := length_le_listed_of_mem (List.mem_map_of_mem (f := memberChars) hmember) true
      rw [memberChars, List.length_append, List.length_cons] at hle
      exact ih member hmember (by omega)

/-- The value of a printed text is the one that was printed. -/
theorem parse_render (h : json.IsPlain) : parse json.render = .ok json := by
  have hfuel : json.chars.length < json.chars.length + 1 := Nat.lt_succ_self _
  obtain ⟨next, hnext⟩ := reads_readValue h hfuel [] {} json.chars.length endsNumber_nil
    (Nat.le_refl _)
  rw [List.append_nil] at hnext
  change readValue (json.chars.length + 1) ⟨json.chars, {}, json.chars.length⟩ >>= _ = _
  rw [hnext]
  rfl

end TemplateBundler.Json

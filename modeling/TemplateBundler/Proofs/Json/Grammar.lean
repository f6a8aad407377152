import Mathlib.Data.List.Forall2
import TemplateBundler.Json.Reader
import TemplateBundler.Proofs.Except

/-! # The grammar of JSON

Which characters are the text of a value, said without the reader. What the reader takes, or skips,
is always such a text. This grammar is that of the format itself: it says nothing about the range
of numbers, and a string may hold escaped surrogates that are alone.
-/

namespace TemplateBundler.Json

/-! ## Blanks and numbers -/

def IsBlank (cs : List Char) : Prop := ∀ c ∈ cs, c = ' ' ∨ c = '\n' ∨ c = '\t' ∨ c = '\r'

/-- At least one digit. -/
def IsDigits (cs : List Char) : Prop := cs ≠ [] ∧ ∀ c ∈ cs, c.isDigit

inductive IsExponent : List Char → Prop
  | none : IsExponent []
  | some {mark : Char} {sign digits : List Char} (hmark : mark = 'e' ∨ mark = 'E')
      (hsign : sign ∈ [[], ['+'], ['-']]) (hdigits : IsDigits digits) :
      IsExponent (mark :: (sign ++ digits))

inductive IsFraction : List Char → Prop
  | none : IsFraction []
  | some {digits : List Char} (hdigits : IsDigits digits) : IsFraction ('.' :: digits)

/-- The text of a number. There are no zeros before its first digit. -/
inductive IsNumeral : List Char → Prop
  | mk {sign whole fraction exponent : List Char} (hsign : sign ∈ [[], ['-']])
      (hwhole : IsDigits whole) (hzero : whole.head? = some '0' → whole = ['0'])
      (hfraction : IsFraction fraction) (hexponent : IsExponent exponent) :
      IsNumeral (sign ++ (whole ++ (fraction ++ exponent)))

/-! ## Strings -/

/-- What stands for one character behind a backslash: a letter, or the digits of a code unit, or
those of the two units of a pair. -/
inductive Escapes : List Char → Char → Prop
  | letter {letter c : Char} (h : unescapeLetter? letter = some c) : Escapes [letter] c
  | unit {x y z w : Char} {unit : Nat} (h : Text.natural? 16 [x, y, z, w] = some unit)
      (hplain : unit < 0xD800 ∨ 0xDFFF < unit) : Escapes ['u', x, y, z, w] (Char.ofNat unit)
  | pair {x y z w x' y' z' w' : Char} {high low : Nat}
      (hhigh : Text.natural? 16 [x, y, z, w] = some high)
      (hfirst : 0xD800 ≤ high ∧ high ≤ 0xDBFF)
      (hlow : Text.natural? 16 [x', y', z', w'] = some low)
      (hsecond : 0xDC00 ≤ low ∧ low ≤ 0xDFFF) :
      Escapes ['u', x, y, z, w, '\\', 'u', x', y', z', w']
        (Char.ofNat (0x10000 + (high - 0xD800) * 0x400 + (low - 0xDC00)))

/-- Whether a character may stand for itself in a string. -/
def IsUnescaped (c : Char) : Prop := 0x20 ≤ c.toNat ∧ c ≠ '"' ∧ c ≠ '\\'

/-- What is written between the quotes of a string, and the text that it stands for. -/
inductive Spells : List Char → List Char → Prop
  | nil : Spells [] []
  | unescaped {c : Char} {cs text : List Char} (hc : IsUnescaped c) (h : Spells cs text) :
      Spells (c :: cs) (c :: text)
  | escape {escape cs text : List Char} {c : Char} (hescape : Escapes escape c)
      (h : Spells cs text) : Spells ('\\' :: (escape ++ cs)) (c :: text)

/-- What may be written between the quotes of a string, whether it stands for a text or not. -/
inductive IsQuoted : List Char → Prop
  | nil : IsQuoted []
  | unescaped {c : Char} {cs : List Char} (hc : IsUnescaped c) (h : IsQuoted cs) :
      IsQuoted (c :: cs)
  | letter {letter : Char} {cs : List Char} (hletter : (unescapeLetter? letter).isSome)
      (h : IsQuoted cs) : IsQuoted ('\\' :: letter :: cs)
  | unit {x y z w : Char} {cs : List Char} (hunit : (Text.natural? 16 [x, y, z, w]).isSome)
      (h : IsQuoted cs) : IsQuoted ('\\' :: 'u' :: x :: y :: z :: w :: cs)

/-! ## Arrays and objects -/

/-- The texts with commas between them and blanks around them. The first one follows no comma. -/
inductive Spread : Bool → List (List Char) → List Char → Prop
  | nil {first : Bool} {blank : List Char} (h : IsBlank blank) : Spread first [] blank
  | cons {first : Bool} {before after text cs : List Char} {texts : List (List Char)}
      (hbefore : IsBlank before) (hafter : IsBlank after) (h : Spread false texts cs) :
      Spread first (text :: texts)
        (before ++ ((if first then [] else [',']) ++ (after ++ (text ++ cs))))

/-- A member as it is written: what stands between the quotes of its name, the blanks on both
sides of the colon, and the text of its value. -/
structure WrittenMember where
  name : List Char
  before : List Char
  after : List Char
  value : List Char

def WrittenMember.chars (member : WrittenMember) : List Char :=
  '"' :: (member.name ++ '"' :: (member.before ++ ':' :: (member.after ++ member.value)))

/-- The characters are the text of a value. -/
inductive IsValue : List Char → Prop
  | null : IsValue ['n', 'u', 'l', 'l']
  | true : IsValue ['t', 'r', 'u', 'e']
  | false : IsValue ['f', 'a', 'l', 's', 'e']
  | number {cs : List Char} (h : IsNumeral cs) : IsValue cs
  | text {cs : List Char} (h : IsQuoted cs) : IsValue ('"' :: (cs ++ ['"']))
  | array {texts : List (List Char)} {cs : List Char} (h : Spread Bool.true texts cs)
      (hitems : ∀ text ∈ texts, IsValue text) : IsValue ('[' :: (cs ++ [']']))
  | object {members : List WrittenMember} {cs : List Char}
      (h : Spread Bool.true (members.map WrittenMember.chars) cs)
      (hnames : ∀ member ∈ members, IsQuoted member.name)
      (hblanks : ∀ member ∈ members, IsBlank member.before ∧ IsBlank member.after)
      (hvalues : ∀ member ∈ members, IsValue member.value) :
      IsValue ('\x7b' :: (cs ++ ['\x7d']))

/-- The text of an array whose items have these texts. -/
def IsArray (cs : List Char) (items : List (List Char)) : Prop :=
  (∀ item ∈ items, IsValue item) ∧
    ∃ inner, Spread Bool.true items inner ∧ cs = '[' :: (inner ++ [']'])

/-- The member has this name, and its value this text. -/
structure WrittenMember.Says (member : WrittenMember) (entry : String × List Char) : Prop where
  name : Spells member.name entry.1.toList
  before : IsBlank member.before
  after : IsBlank member.after
  value : member.value = entry.2
  isValue : IsValue entry.2

/-- The text of an object whose members have these names and texts, in this order. -/
def IsObject (cs : List Char) (entries : List (String × List Char)) : Prop :=
  ∃ members inner, List.Forall₂ WrittenMember.Says members entries ∧
    Spread Bool.true (members.map WrittenMember.chars) inner ∧ cs = '\x7b' :: (inner ++ ['\x7d'])

/-! ## Blanks around texts -/

theorem isBlank_nil : IsBlank [] := by simp [IsBlank]

theorem IsBlank.append {blank blank' : List Char} (h : IsBlank blank) (h' : IsBlank blank') :
    IsBlank (blank ++ blank') := List.forall_mem_append.mpr ⟨h, h'⟩

theorem Spread.blank_append {first : Bool} {texts : List (List Char)} {cs blank : List Char}
    (hblank : IsBlank blank) (h : Spread first texts cs) : Spread first texts (blank ++ cs) := by
  cases h with
  | nil h => exact .nil (hblank.append h)
  | cons hbefore hafter h =>
      rw [← List.append_assoc]
      exact .cons (hblank.append hbefore) hafter h

/-- The first text behind a comma. -/
theorem Spread.comma_append {text : List Char} {texts : List (List Char)} {cs blank : List Char}
    (hblank : IsBlank blank) (h : Spread true (text :: texts) cs) :
    Spread false (text :: texts) (blank ++ ',' :: cs) := by
  cases h with
  | cons hbefore hafter h =>
      rw [if_pos rfl, List.nil_append, ← List.append_assoc]
      exact .cons hblank (hbefore.append hafter) h

/-! ## Texts of values -/

theorem Spells.isQuoted {inner text : List Char} (h : Spells inner text) : IsQuoted inner := by
  induction h with
  | nil => exact .nil
  | unescaped hc _ ih => exact .unescaped hc ih
  | escape hescape _ ih =>
      cases hescape with
      | letter hletter => exact .letter (by simp [hletter]) ih
      | unit hunit => exact .unit (by simp [hunit]) ih
      | pair hhigh _ hlow => exact .unit (by simp [hhigh]) (.unit (by simp [hlow]) ih)

theorem IsArray.isValue {cs : List Char} {items : List (List Char)} (h : IsArray cs items) :
    IsValue cs := by
  obtain ⟨hitems, inner, hspread, rfl⟩ := h
  exact .array hspread hitems

theorem exists_says {members : List WrittenMember} {entries : List (String × List Char)}
    (h : List.Forall₂ WrittenMember.Says members entries) :
    ∀ member ∈ members, ∃ entry, member.Says entry := by
  induction h with
  | nil => simp
  | cons hself _ ih => exact List.forall_mem_cons.mpr ⟨⟨_, hself⟩, ih⟩

theorem IsObject.isValue {cs : List Char} {entries : List (String × List Char)}
    (h : IsObject cs entries) : IsValue cs := by
  obtain ⟨members, inner, hsays, hspread, rfl⟩ := h
  have hmember := exists_says hsays
  refine .object hspread ?_ ?_ ?_
  · intro member hmem
    obtain ⟨entry, hentry⟩ := hmember member hmem
    exact hentry.name.isQuoted
  · intro member hmem
    obtain ⟨entry, hentry⟩ := hmember member hmem
    exact ⟨hentry.before, hentry.after⟩
  · intro member hmem
    obtain ⟨entry, hentry⟩ := hmember member hmem
    exact hentry.value ▸ hentry.isValue

end TemplateBundler.Json

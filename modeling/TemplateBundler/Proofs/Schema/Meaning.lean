import TemplateBundler.Proofs.Json.Skipping
import TemplateBundler.Proofs.Schema.RoundTrip

/-! # What a text means under a schema

Which texts stand for which values, said without the reader: a record is an object that has each of
its fields once, or lacks it where it may, or an array of the fields in their order. Whatever is
read under a schema is what its text means.
-/

namespace TemplateBundler

open Json (Cursor IsArray IsBlank IsObject IsValue Spells Takes WrittenMember)

/-- The texts of the members with this name. -/
def Json.namedTexts (name : String) (entries : List (String × List Char)) : List (List Char) :=
  (entries.filter (·.1 == name)).map Prod.snd

theorem Json.namedTexts_append_self {name : String} {raw : List Char}
    {entries : List (String × List Char)} :
    namedTexts name (entries ++ [(name, raw)]) = namedTexts name entries ++ [raw] := by
  simp [namedTexts]

theorem Json.namedTexts_append_of_ne {name wanted : String} {raw : List Char}
    {entries : List (String × List Char)} (h : wanted ≠ name) :
    namedTexts name (entries ++ [(wanted, raw)]) = namedTexts name entries := by
  simp [namedTexts, h]

mutual

/-- The text stands for the value. -/
def Schema.Means : (schema : Schema) → List Char → schema.Carrier → Prop
  | .flag, raw, value => raw = (toString value).toList
  | .natural, raw, n => raw = Nat.toDigits 10 n ∧ n ≤ maxNatural
  | .text, raw, s => ∃ inner, Spells inner s.toList ∧ raw = '"' :: (inner ++ ['"'])
  | .optional _, raw, none => raw = ['n', 'u', 'l', 'l']
  | .optional schema, raw, some value => schema.Means raw value
  | .list schema, raw, values => ∃ items, IsArray raw items ∧ List.Forall₂ schema.Means items values
  | .record _ fields, raw, values =>
    (∃ items, IsArray raw items ∧ fields.MeansItems items values) ∨
      ∃ entries, IsObject raw entries ∧ fields.MeansMembers entries values

/-- The fields stand in this order; those at the end may be absent. -/
def Fields.MeansItems : (fields : Fields) → List (List Char) → fields.Carrier → Prop
  | .nil, items, () => items = []
  | .cons _ schema required rest, [], (value, values) =>
    required = false ∧ value = schema.blank ∧ rest.MeansItems [] values
  | .cons _ schema _ rest, raw :: items, (value, values) =>
    schema.Means raw value ∧ rest.MeansItems items values

/-- Each field stands in the only member with its name, or there is none and it may be absent. -/
def Fields.MeansMembers : (fields : Fields) → List (String × List Char) → fields.Carrier → Prop
  | .nil, _, () => True
  | .cons name schema required rest, entries, (value, values) =>
    (Json.namedTexts name entries = [] ∧ required = false ∧ value = schema.blank ∨
      ∃ raw, Json.namedTexts name entries = [raw] ∧ schema.Means raw value) ∧
      rest.MeansMembers entries values

end

/-- What the slots hold is what the members say that were read so far. -/
def Fields.MeansSlots : (fields : Fields) → List (String × List Char) → fields.Slots → Prop
  | .nil, _, () => True
  | .cons name schema _ rest, entries, (slot, slots) =>
    (Json.namedTexts name entries = [] ∧ slot = none ∨
      ∃ raw value, Json.namedTexts name entries = [raw] ∧ slot = some value ∧
        schema.Means raw value) ∧ rest.MeansSlots entries slots

variable {schema : Schema} {fields rest : Fields} {name wanted title : String} {required : Bool}
  {cursor after : Cursor} {raw : List Char} {entries : List (String × List Char)}

/-! ## What is found -/

/-- Between the two texts stands what was found. Arrays and objects are not entered. -/
def Json.Finds : Found → List Char → List Char → Prop
  | .flag value, cs, rest => cs = (toString value).toList ++ rest
  | .integer n, cs, rest =>
    0 ≤ n → cs = Nat.toDigits 10 n.toNat ++ rest ∧ n ≤ maxNatural ∧ Json.EndsNumber rest
  | .text s, cs, rest => ∃ inner, Spells inner s.toList ∧ cs = '"' :: (inner ++ '"' :: rest)
  | .sequence, cs, rest => cs = rest ∧ rest.head? = some '['
  | .mapping, cs, rest => cs = rest ∧ rest.head? = some '\x7b'
  | .nothing, _, _ | .float _, _, _ => True

theorem Json.finds_of_readFound {found : Found} (h : Json.readFound cursor = .ok (found, after)) :
    ∃ blank start, IsBlank blank ∧ cursor.rest = blank ++ start ∧ Finds found start after.rest := by
  obtain ⟨blank, hblank, hrest⟩ := exists_skipBlanks cursor
  refine ⟨blank, cursor.skipBlanks.rest, hblank, hrest, ?_⟩
  rw [readFound] at h
  generalize cursor.skipBlanks = start at h
  dsimp only at h
  split at h
  next => cases h
  next =>
    obtain ⟨next, -, h⟩ := bind_eq_ok_iff.mp h
    cases h
    trivial
  next hpeek =>
    obtain ⟨next, hword, h⟩ := bind_eq_ok_iff.mp h
    cases h
    rw [rest_of_peek? hpeek, rest_of_readWord hword]
    rfl
  next hpeek =>
    obtain ⟨next, hword, h⟩ := bind_eq_ok_iff.mp h
    cases h
    rw [rest_of_peek? hpeek, rest_of_readWord hword]
    rfl
  next hpeek =>
    obtain ⟨⟨s, next⟩, htext, h⟩ := bind_eq_ok_iff.mp h
    cases h
    obtain ⟨inner, hspells, hinner⟩ := spells_of_readText htext
    exact ⟨inner, hspells, by rw [rest_of_peek? hpeek, hinner]⟩
  next hpeek =>
    cases h
    exact ⟨rfl, hpeek⟩
  next hpeek =>
    cases h
    exact ⟨rfl, hpeek⟩
  next =>
    split_ifs at h
    · obtain ⟨⟨number, next⟩, hnumber, h⟩ := bind_eq_ok_iff.mp h
      cases h
      obtain ⟨n, rfl⟩ | ⟨x, rfl⟩ := isNumber_of_readNumber hnumber
      · intro hn
        obtain ⟨n, rfl⟩ := Int.eq_ofNat_of_zero_le hn
        obtain ⟨hdigits, hle, hends⟩ := rest_of_readNumber hnumber
        exact ⟨hdigits, Int.ofNat_le.mpr hle, hends⟩
      · trivial
    · cases h

/-! ## Values -/

theorem Json.isDigits_toDigits (n : Nat) : IsDigits (Nat.toDigits 10 n) :=
  ⟨Nat.toDigits_ne_nil, fun _ hc => Nat.isDigit_of_mem_toDigits (by decide) (Nat.le_refl 10) hc⟩

theorem Json.isNumeral_toDigits (n : Nat) : IsNumeral (Nat.toDigits 10 n) := by
  have hzero : (Nat.toDigits 10 n).head? = some '0' → Nat.toDigits 10 n = ['0'] := by
    intro hhead
    obtain rfl | hpos := Nat.eq_zero_or_pos n
    · exact Nat.toDigits_zero 10
    · exact absurd hhead (head?_toDigits_ne hpos)
  have hnumeral : IsNumeral ([] ++ (Nat.toDigits 10 n ++ ([] ++ []))) :=
    .mk (by simp) (isDigits_toDigits n) hzero .none .none
  simpa using hnumeral

/-- What means something is a value. -/
theorem Schema.isValue_of_means : ∀ (schema : Schema) {raw : List Char} (value : schema.Carrier),
    schema.Means raw value → IsValue raw
  | .flag, _, true, h => h ▸ .true
  | .flag, _, false, h => h ▸ .false
  | .natural, _, n, ⟨h, _⟩ => h ▸ .number (Json.isNumeral_toDigits n)
  | .text, _, _, ⟨_, hinner, h⟩ => h ▸ .text hinner.isQuoted
  | .optional _, _, none, h => h ▸ .null
  | .optional schema, _, some value, h => schema.isValue_of_means value h
  | .list _, _, _, ⟨_, h, _⟩ => h.isValue
  | .record _ _, _, _, .inl ⟨_, h, _⟩ => h.isValue
  | .record _ _, _, _, .inr ⟨_, h, _⟩ => h.isValue

theorem Schema.read_eq (hschema : schema = .flag ∨ schema = .natural ∨ schema = .text) :
    schema.read cursor = (do
      let (found, cursor) ← Json.readFound cursor
      match schema.ofFound found with
      | .ok value => return (value, cursor)
      | .error error => Json.misfit error cursor) := by
  obtain rfl | rfl | rfl := hschema
  · unfold Schema.read
    rfl
  · unfold Schema.read
    rfl
  · unfold Schema.read
    rfl

/-- What is read without being entered comes from what was found. -/
theorem Schema.exists_found (hschema : schema = .flag ∨ schema = .natural ∨ schema = .text)
    {value : schema.Carrier} (h : schema.read cursor = .ok (value, after)) :
    ∃ found blank start, schema.ofFound found = .ok value ∧ IsBlank blank ∧
      cursor.rest = blank ++ start ∧ Json.Finds found start after.rest := by
  rw [read_eq hschema] at h
  obtain ⟨⟨found, next⟩, hfound, h⟩ := bind_eq_ok_iff.mp h
  obtain ⟨blank, start, hblank, hrest, hstart⟩ := Json.finds_of_readFound hfound
  dsimp only at h
  split at h
  next hvalue =>
    cases h
    exact ⟨found, blank, start, hvalue, hblank, hrest, hstart⟩
  next => cases h

theorem Schema.takes_flag : Takes Schema.flag.read Schema.flag.Means := by
  intro cursor after value h
  obtain ⟨found, blank, start, hvalue, hblank, hrest, hstart⟩ := Schema.exists_found (by simp) h
  cases found with
  | flag value =>
      cases hvalue
      exact ⟨blank, _, hblank, rfl, hstart ▸ hrest⟩
  | nothing | integer | float | text | sequence | mapping => cases hvalue

/-- A natural number is read up to where its digits end. -/
theorem Schema.exists_of_read_natural {n : Nat} (h : Schema.natural.read cursor = .ok (n, after)) :
    ∃ blank, IsBlank blank ∧ cursor.rest = blank ++ (Nat.toDigits 10 n ++ after.rest) ∧
      n ≤ maxNatural ∧ Json.EndsNumber after.rest := by
  obtain ⟨found, blank, start, hvalue, hblank, hrest, hstart⟩ := Schema.exists_found (by simp) h
  cases found with
  | integer n =>
      rw [Schema.ofFound] at hvalue
      split_ifs at hvalue with hshort hsign
      obtain ⟨hdigits, hle, hends⟩ := hstart (Int.not_lt.mp hsign)
      cases hvalue
      exact ⟨blank, hblank, hdigits ▸ hrest, Int.toNat_le.mpr hle, hends⟩
  | nothing | flag | float | text | sequence | mapping => cases hvalue

theorem Schema.takes_natural : Takes Schema.natural.read Schema.natural.Means := by
  intro cursor after value h
  obtain ⟨blank, hblank, hrest, hle, -⟩ := Schema.exists_of_read_natural h
  exact ⟨blank, _, hblank, ⟨rfl, hle⟩, hrest⟩

theorem Schema.takes_text : Takes Schema.text.read Schema.text.Means := by
  intro cursor after value h
  obtain ⟨found, blank, start, hvalue, hblank, hrest, hstart⟩ := Schema.exists_found (by simp) h
  cases found with
  | text s =>
      cases hvalue
      obtain ⟨inner, hspells, hinner⟩ := hstart
      refine ⟨blank, _, hblank, ⟨inner, hspells, rfl⟩, ?_⟩
      simp [hrest, hinner]
  | nothing | flag | float | integer | sequence | mapping => cases hvalue

theorem Schema.takes_optional (hschema : Takes schema.read schema.Means) :
    Takes (Schema.optional schema).read (Schema.optional schema).Means := by
  intro cursor after value h
  obtain ⟨blank, hblank, hrest⟩ := Json.exists_skipBlanks cursor
  rw [Schema.read] at h
  generalize cursor.skipBlanks = start at h hrest
  dsimp only at h
  split at h
  next hpeek =>
    obtain ⟨next, hword, h⟩ := bind_eq_ok_iff.mp h
    cases h
    refine ⟨blank, _, hblank, rfl, ?_⟩
    rw [hrest, Json.rest_of_peek? hpeek, Json.rest_of_readWord hword]
    rfl
  next =>
    obtain ⟨⟨value, next⟩, hvalue, h⟩ := bind_eq_ok_iff.mp h
    cases h
    obtain ⟨blank', raw, hblank', hraw, hstart⟩ := hschema hvalue
    refine ⟨blank ++ blank', raw, hblank.append hblank', hraw, ?_⟩
    rw [hrest, hstart, List.append_assoc]

theorem Json.forall_isValue {items : List (List Char)} {values : List schema.Carrier}
    (h : List.Forall₂ schema.Means items values) : ∀ item ∈ items, IsValue item := by
  induction h with
  | nil => simp
  | cons hvalue _ ih => exact List.forall_mem_cons.mpr ⟨schema.isValue_of_means _ hvalue, ih⟩

theorem Schema.takes_list (hschema : Takes schema.read schema.Means) :
    Takes (Schema.list schema).read (Schema.list schema).Means := by
  intro cursor after values h
  rw [Schema.read] at h
  obtain ⟨⟨found, start⟩, hfound, h⟩ := bind_eq_ok_iff.mp h
  obtain ⟨blank, opened, hblank, hrest, hstart⟩ := Json.finds_of_readFound hfound
  cases found with
  | sequence =>
      obtain ⟨⟨items, last⟩, hitems, h⟩ := bind_eq_ok_iff.mp h
      cases h
      obtain ⟨rfl, hopen⟩ := hstart
      obtain ⟨texts, values, inner, hspread, hvalues, heq, hinner, hpeek⟩ :=
        Json.exists_readItems hschema hitems
      rw [List.reverse_nil, List.nil_append] at heq
      refine ⟨blank, _, hblank,
        ⟨texts, ⟨Json.forall_isValue hvalues, inner, hspread, rfl⟩, heq ▸ hvalues⟩, ?_⟩
      simp [hrest, Json.rest_of_peek? hopen, hinner, Json.rest_of_peek? hpeek]
  | nothing | flag | integer | float | text | mapping => cases h

/-! ## Records -/

namespace Fields

/-- What is read of the fields from an array is their items, up to where the array may end. -/
def TakesItems (fields : Fields) : Prop :=
  ∀ ⦃title : String⦄ ⦃count before : Nat⦄ ⦃cursor after : Cursor⦄ ⦃values : fields.Carrier⦄,
    fields.readItems title count before cursor = .ok (values, after) →
      ∃ items inner, fields.MeansItems items values ∧ cursor.rest = inner ++ after.rest ∧
        ∀ blank, IsBlank blank → Json.Spread (before == 0) items (inner ++ blank)

/-- A member that is read goes on with what the slots mean. -/
def TakesMember (fields : Fields) : Prop :=
  ∀ ⦃wanted : String⦄ ⦃cursor after : Cursor⦄ ⦃slots next : fields.Slots⦄
    ⦃entries : List (String × List Char)⦄,
    fields.readMember wanted slots cursor = .ok (next, after) → fields.MeansSlots entries slots →
      ∃ before behind raw, IsBlank before ∧ IsBlank behind ∧ IsValue raw ∧
        cursor.rest = before ++ ':' :: (behind ++ (raw ++ after.rest)) ∧
        fields.MeansSlots (entries ++ [(wanted, raw)]) next

theorem isValue_of_meansItems : ∀ {fields : Fields} {items : List (List Char)}
    {values : fields.Carrier}, fields.MeansItems items values → ∀ item ∈ items, IsValue item
  | .nil, _, (), h => by simp [show _ = [] from h]
  | .cons .., [], _, _ => by simp
  | .cons _ schema _ _, _ :: _, (_, _), ⟨hraw, hitems⟩ =>
    List.forall_mem_cons.mpr ⟨schema.isValue_of_means _ hraw, isValue_of_meansItems hitems⟩

/-- A field is the next item, or is left out at the end of the array. -/
theorem exists_of_readItems {count before : Nat}
    {values : (Fields.cons name schema required rest).Carrier}
    (h : (Fields.cons name schema required rest).readItems title count before cursor =
      .ok (values, after)) :
    ∃ more start next, Json.nextItem (before == 0) cursor = .ok (more, start) ∧
      (more = true ∧ schema.read start = .ok (values.1, next) ∨
        more = false ∧ required = false ∧ values.1 = schema.blank ∧ next = start) ∧
      rest.readItems title count (before + 1) next = .ok (values.2, after) := by
  rw [readItems] at h
  obtain ⟨⟨more, start⟩, hmore, h⟩ := bind_eq_ok_iff.mp h
  dsimp only at h
  split at h
  next hitem =>
    obtain ⟨⟨value, next⟩, hvalue, h⟩ := bind_eq_ok_iff.mp h
    obtain ⟨⟨others, last⟩, hothers, h⟩ := bind_eq_ok_iff.mp h
    cases h
    exact ⟨more, start, next, hmore, .inl ⟨hitem, hvalue⟩, hothers⟩
  next hitem =>
    split at h
    next => cases h
    next hrequired =>
      obtain ⟨⟨value, next⟩, hvalue, h⟩ := bind_eq_ok_iff.mp h
      cases hvalue
      obtain ⟨⟨others, last⟩, hothers, h⟩ := bind_eq_ok_iff.mp h
      cases h
      refine ⟨more, start, start, hmore, .inr ⟨?_, ?_, rfl, rfl⟩, hothers⟩
      · exact Bool.not_eq_true _ ▸ hitem
      · exact Bool.not_eq_true _ ▸ hrequired

/-- At the end of an array only fields are left that may be absent. -/
theorem of_readItems_end {count : Nat} {cs : List Char} {place : Json.Place} {bound : Nat} :
    ∀ (fields : Fields) {values : fields.Carrier} (before : Nat),
      fields.readItems title count before ⟨']' :: cs, place, bound⟩ = .ok (values, after) →
        fields.MeansItems [] values ∧ after.rest = ']' :: cs
  | .nil, (), _, h => by
      cases h
      exact ⟨rfl, rfl⟩
  | .cons .., (_, _), before, h => by
      obtain ⟨more, start, next, hmore, hvalue, hothers⟩ := exists_of_readItems h
      rw [Json.nextItem_end] at hmore
      cases hmore
      obtain ⟨hmore, -⟩ | ⟨-, hrequired, hblank, rfl⟩ := hvalue
      · cases hmore
      · obtain ⟨hmeans, hrest⟩ := of_readItems_end _ (before + 1) hothers
        exact ⟨⟨hrequired, hblank, hmeans⟩, hrest⟩

theorem takesItems_nil : TakesItems .nil := by
  intro title count before cursor after values h
  cases h
  exact ⟨[], [], rfl, rfl, fun blank hblank => .nil hblank⟩

theorem takesItems_cons (hschema : Takes schema.read schema.Means) (hfields : rest.TakesItems) :
    (Fields.cons name schema required rest).TakesItems := by
  intro title count before cursor after values h
  obtain ⟨more, start, next, hmore, hvalue, hothers⟩ := exists_of_readItems h
  obtain ⟨rfl, hvalue⟩ | ⟨rfl, hrequired, hblank, rfl⟩ := hvalue
  · obtain ⟨lead, behind, hlead, hbehind, hrest⟩ := Json.rest_of_nextItem hmore
    obtain ⟨blank, raw, hblank, hraw, hstart⟩ := hschema hvalue
    obtain ⟨items, inner, hitems, hnext, hspread⟩ := hfields hothers
    refine ⟨raw :: items,
      lead ++ ((if before == 0 then [] else [',']) ++ ((behind ++ blank) ++ (raw ++ inner))),
      ⟨hraw, hitems⟩, ?_, fun tail htail => ?_⟩
    · simp [hrest, hstart, hnext]
    · have hcons : Json.Spread (before == 0) (raw :: items) _ :=
        .cons hlead (hbehind.append hblank) (hspread tail htail)
      simpa using hcons
  · obtain ⟨lead, hlead, hrest, hpeek⟩ := Json.rest_of_nextItem_end hmore
    obtain ⟨cs, place, bound⟩ := next
    obtain ⟨cs, rfl⟩ := List.head?_eq_some_iff.mp hpeek
    obtain ⟨hmeans, hlast⟩ := of_readItems_end _ (before + 1) hothers
    refine ⟨[], lead, ⟨hrequired, hblank, hmeans⟩, by rw [hrest, hlast], fun tail htail => ?_⟩
    exact .nil (hlead.append htail)

/-- A member of another name changes nothing. -/
theorem meansSlots_append : ∀ {fields : Fields} {slots : fields.Slots},
    fields.contains wanted = false → fields.MeansSlots entries slots →
      fields.MeansSlots (entries ++ [(wanted, raw)]) slots
  | .nil, (), _, _ => trivial
  | .cons name schema required rest, (slot, slots), hwanted, ⟨hslot, hslots⟩ => by
      rw [contains, Bool.or_eq_false_iff, beq_eq_false_iff_ne] at hwanted
      refine ⟨?_, meansSlots_append hwanted.2 hslots⟩
      rwa [Json.namedTexts_append_of_ne hwanted.1.symm]

theorem meansSlots_noSlots : ∀ fields : Fields, fields.MeansSlots [] fields.noSlots
  | .nil => trivial
  | .cons _ _ _ rest => ⟨.inl ⟨rfl, rfl⟩, meansSlots_noSlots rest⟩

theorem takesMember_nil : TakesMember .nil := by
  intro wanted cursor after slots next entries h _
  rw [readMember] at h
  obtain ⟨colon, hcolon, h⟩ := bind_eq_ok_iff.mp h
  obtain ⟨last, hskip, h⟩ := bind_eq_ok_iff.mp h
  cases h
  obtain ⟨before, hbefore, hrest⟩ := Json.rest_of_readColon hcolon
  obtain ⟨behind, raw, hbehind, hraw, hvalue⟩ := Json.isValue_of_skip hskip
  exact ⟨before, behind, raw, hbefore, hbehind, hraw, hvalue ▸ hrest, trivial⟩

/-- The member goes into the slot of its name, if that is still empty. -/
theorem takesMember_cons (hname : rest.contains name = false)
    (hschema : Takes schema.read schema.Means) (hfields : rest.TakesMember) :
    (Fields.cons name schema required rest).TakesMember := by
  rintro wanted cursor after ⟨slot, slots⟩ ⟨slot', slots'⟩ entries h ⟨hslot, hslots⟩
  rw [readMember] at h
  split at h
  next heq =>
    subst heq
    split at h
    next => cases h
    next hempty =>
      obtain ⟨colon, hcolon, h⟩ := bind_eq_ok_iff.mp h
      obtain ⟨⟨value, last⟩, hvalue, h⟩ := bind_eq_ok_iff.mp h
      cases h
      obtain ⟨before, hbefore, hrest⟩ := Json.rest_of_readColon hcolon
      obtain ⟨behind, raw, hbehind, hraw, hstart⟩ := hschema hvalue
      refine ⟨before, behind, raw, hbefore, hbehind, schema.isValue_of_means value hraw,
        hstart ▸ hrest, .inr ⟨raw, value, ?_, rfl, hraw⟩, meansSlots_append hname hslots⟩
      obtain ⟨hnone, -⟩ | ⟨_, _, -, rfl, -⟩ := hslot
      · rw [Json.namedTexts_append_self, hnone, List.nil_append]
      · exact absurd rfl hempty
  next hne =>
    obtain ⟨⟨others, last⟩, hothers, h⟩ := bind_eq_ok_iff.mp h
    cases h
    obtain ⟨before, behind, raw, hbefore, hbehind, hraw, hrest, hmeans⟩ := hfields hothers hslots
    refine ⟨before, behind, raw, hbefore, hbehind, hraw, hrest, ?_, hmeans⟩
    rwa [Json.namedTexts_append_of_ne (Ne.symm hne)]

/-- The values are those of the slots, and blank where there are none. -/
theorem meansMembers_of_fill : ∀ {fields : Fields} {slots : fields.Slots} {values : fields.Carrier},
    fields.fill slots = .ok values → fields.MeansSlots entries slots →
      fields.MeansMembers entries values
  | .nil, (), (), _, _ => trivial
  | .cons name schema required rest, (slot, slots), (value, values), h, ⟨hslot, hslots⟩ => by
      obtain ⟨hnone, rfl⟩ | ⟨raw, first, hraw, rfl, hmeans⟩ := hslot
      · simp only [fill] at h
        split_ifs at h with hrequired
        · cases h
        · obtain ⟨_, hfirst, h⟩ := bind_eq_ok_iff.mp h
          obtain ⟨others, hothers, h⟩ := bind_eq_ok_iff.mp h
          cases hfirst
          cases h
          exact ⟨.inl ⟨hnone, Bool.not_eq_true _ ▸ hrequired, rfl⟩,
            meansMembers_of_fill hothers hslots⟩
      · simp only [fill] at h
        obtain ⟨_, hfirst, h⟩ := bind_eq_ok_iff.mp h
        obtain ⟨others, hothers, h⟩ := bind_eq_ok_iff.mp h
        cases hfirst
        cases h
        exact ⟨.inr ⟨raw, hraw, hmeans⟩, meansMembers_of_fill hothers hslots⟩

end Fields

theorem Schema.takes_record (hitems : fields.TakesItems) (hmember : fields.TakesMember) :
    Takes (Schema.record title fields).read (Schema.record title fields).Means := by
  intro cursor after values h
  rw [Schema.read] at h
  obtain ⟨⟨found, start⟩, hfound, h⟩ := bind_eq_ok_iff.mp h
  obtain ⟨blank, opened, hblank, hrest, hstart⟩ := Json.finds_of_readFound hfound
  cases found with
  | sequence =>
      obtain ⟨⟨values, last⟩, hvalues, h⟩ := bind_eq_ok_iff.mp h
      obtain ⟨closed, hclosed, h⟩ := bind_eq_ok_iff.mp h
      cases h
      obtain ⟨rfl, hopen⟩ := hstart
      obtain ⟨items, inner, hmeans, hinner, hspread⟩ := hitems hvalues
      obtain ⟨tail, htail, hend⟩ := Json.rest_of_readArrayEnd hclosed
      refine ⟨blank, _, hblank, .inl ⟨items, ⟨Fields.isValue_of_meansItems hmeans, _,
        hspread tail htail, rfl⟩, hmeans⟩, ?_⟩
      simp [hrest, Json.rest_of_peek? hopen, hinner, hend]
  | mapping =>
      obtain ⟨⟨slots, last⟩, hslots, h⟩ := bind_eq_ok_iff.mp h
      dsimp only at h
      split at h
      next values hfill =>
        cases h
        obtain ⟨rfl, hopen⟩ := hstart
        obtain ⟨members, entries, inner, hsays, hspread, hmeans, hinner, hpeek⟩ :=
          Json.exists_readMembers hmember (Fields.meansSlots_noSlots fields) hslots
        refine ⟨blank, _, hblank, .inr ⟨entries, ⟨members, inner, hsays, hspread, rfl⟩,
          Fields.meansMembers_of_fill hfill hmeans⟩, ?_⟩
        simp [hrest, Json.rest_of_peek? hopen, hinner, Json.rest_of_peek? hpeek]
      next => cases h
  | nothing | flag | integer | float | text => cases h

/-! ## All schemas -/

mutual

/-- What is read under a schema is what the text means that was passed. -/
theorem Schema.takes_read : ∀ {schema : Schema}, schema.isClear → Takes schema.read schema.Means
  | .flag, _ => Schema.takes_flag
  | .natural, _ => Schema.takes_natural
  | .text, _ => Schema.takes_text
  | .optional schema, hclear => by
      rw [Schema.isClear, Bool.and_eq_true] at hclear
      exact Schema.takes_optional (Schema.takes_read hclear.2)
  | .list schema, hclear => Schema.takes_list (@Schema.takes_read schema hclear)
  | .record _ fields, hclear =>
    Schema.takes_record (Fields.takesItems fields hclear) (Fields.takesMember fields hclear)

theorem Fields.takesItems : ∀ fields : Fields, fields.isClear → fields.TakesItems
  | .nil, _ => Fields.takesItems_nil
  | .cons name schema required rest, hclear => by
      rw [Fields.isClear, Bool.and_eq_true, Bool.and_eq_true, Bool.and_eq_true] at hclear
      exact Fields.takesItems_cons (Schema.takes_read hclear.1.1.2)
        (Fields.takesItems rest hclear.2)

theorem Fields.takesMember : ∀ fields : Fields, fields.isClear → fields.TakesMember
  | .nil, _ => Fields.takesMember_nil
  | .cons name schema required rest, hclear => by
      rw [Fields.isClear, Bool.and_eq_true, Bool.and_eq_true, Bool.and_eq_true] at hclear
      exact Fields.takesMember_cons (Bool.not_eq_true' _ ▸ hclear.1.2)
        (Schema.takes_read hclear.1.1.2) (Fields.takesMember rest hclear.2)

end

/-- A text that is read whole under a schema means what is read, but for blanks around it. -/
theorem Schema.means_of_parse (hclear : schema.isClear) {text : String} {value : schema.Carrier}
    (h : schema.parse text = .ok value) :
    ∃ before raw behind, text.toList = before ++ (raw ++ behind) ∧ IsBlank before ∧
      IsBlank behind ∧ schema.Means raw value := by
  rw [Schema.parse] at h
  obtain ⟨⟨read, last⟩, hread, h⟩ := bind_eq_ok_iff.mp h
  obtain ⟨_, hend, h⟩ := bind_eq_ok_iff.mp h
  cases h
  obtain ⟨before, raw, hbefore, hraw, htext⟩ := takes_read hclear hread
  exact ⟨before, raw, _, htext, hbefore, Json.isBlank_of_readEnd hend, hraw⟩

/-! ## Parts that may be absent -/

/-- What an optional part stands for; one that is absent stands for nothing. -/
def Schema.MeansPart (schema : Schema) : Option (List Char) → Option schema.Carrier → Prop
  | none, value? => value? = none
  | some raw, value? => (Schema.optional schema).Means raw value?

theorem Schema.exists_part {value? : Option schema.Carrier}
    (h : Json.namedTexts name entries = [] ∧ false = false ∧ value? = none ∨
      ∃ raw, Json.namedTexts name entries = [raw] ∧ (Schema.optional schema).Means raw value?) :
    ∃ part?, Json.namedTexts name entries = Option.toList part? ∧
      schema.MeansPart part? value? := by
  obtain ⟨hnone, -, rfl⟩ | ⟨raw, hraw, hmeans⟩ := h
  · exact ⟨none, hnone, rfl⟩
  · exact ⟨some raw, hraw, hmeans⟩

end TemplateBundler

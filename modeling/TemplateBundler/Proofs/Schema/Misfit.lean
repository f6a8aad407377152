import TemplateBundler.Proofs.Schema.Meaning

/-! # Texts that do not fit

Texts from which nothing can be read under a schema, however they go on: those that are no natural
number where one is due, and the objects that have such a text for a field. The members before it
are read, and those behind it are not looked at.
-/

namespace TemplateBundler

open Json (Cursor EndsNumber IsBlank IsDigits Place ReadError Reads)

variable {α : Type} {schema : Schema} {fields rest : Fields} {name title wanted : String}
  {required : Bool} {c : Char} {cs ds raw : List Char} {entries : List (String × List Char)}

/-! ## Readers that fail -/

namespace Json

variable {reader : Cursor → Except ReadError (α × Cursor)}
  {member : String → α → Cursor → Except ReadError (α × Cursor)} {value next : α}

/-- The reader fails at these characters, wherever they stand. -/
def Stops (reader : Cursor → Except ReadError (α × Cursor)) (cs : List Char) : Prop :=
  ∀ (rest : List Char) (place : Place) (bound : Nat), EndsNumber rest →
    cs.length + rest.length ≤ bound → ∃ error, reader ⟨cs ++ rest, place, bound⟩ = .error error

theorem stops_of_ne_ok (h : ∀ (rest : List Char) (place : Place) (bound : Nat) (value : α)
    (after : Cursor), EndsNumber rest → reader ⟨cs ++ rest, place, bound⟩ ≠ .ok (value, after)) :
    Stops reader cs := by
  intro rest place bound hrest _
  cases hread : reader ⟨cs ++ rest, place, bound⟩ with
  | error error => exact ⟨error, rfl⟩
  | ok read => exact absurd hread (h rest place bound read.1 read.2 hrest)

/-- The members up to some one are read one behind the other, and then that one is not. -/
inductive StopsMembers (member : String → α → Cursor → Except ReadError (α × Cursor)) :
    α → List (String × List Char) → Prop
  | here {name : String} {raw : List Char} {value : α} (h : Stops (member name value) (':' :: raw))
      (others : List (String × List Char)) : StopsMembers member value ((name, raw) :: others)
  | there {name : String} {raw : List Char} {value next : α} {others : List (String × List Char)}
      (hread : Reads (member name value) (':' :: raw) next)
      (hothers : StopsMembers member next others) :
      StopsMembers member value ((name, raw) :: others)

/-- An object with such a member is not read. -/
theorem error_of_stopsMembers (h : StopsMembers member value entries) (first : Bool) (fuel : Nat)
    (rest : List Char) (place : Place) {bound : Nat}
    (hbound : (listed first (entries.map entryChars) ++ '\x7d' :: rest).length ≤ bound) :
    ∃ error, readMembers member fuel first value
      ⟨listed first (entries.map entryChars) ++ '\x7d' :: rest, place, bound⟩ = .error error := by
  induction h generalizing first fuel place with
  | @here name raw value h others =>
      cases fuel with
      | zero => exact ⟨_, rfl⟩
      | succ fuel =>
          have hends := endsNumber_listed (others.map entryChars) (c := '\x7d') (by simp) rest
          obtain ⟨named, hnamed, hlength⟩ := readMembers_cons member first name raw
            (others.map entryChars) rest place hbound fuel value
          obtain ⟨error, herror⟩ := h _ named bound hends hlength
          refine ⟨error, hnamed.trans ?_⟩
          rw [herror]
          rfl
  | @there name raw value next others hread _ ih =>
      cases fuel with
      | zero => exact ⟨_, rfl⟩
      | succ fuel =>
          have hends := endsNumber_listed (others.map entryChars) (c := '\x7d') (by simp) rest
          obtain ⟨named, hnamed, hlength⟩ := readMembers_cons member first name raw
            (others.map entryChars) rest place hbound fuel value
          obtain ⟨place', hmember⟩ := hread _ named bound hends hlength
          obtain ⟨error, herror⟩ := ih false fuel place' (by omega)
          refine ⟨error, hnamed.trans ?_⟩
          rw [hmember]
          exact herror

/-! ## Digits -/

/-- Where digits end is clear from what comes next. -/
theorem digits_append_inj {ds' tail tail' : List Char} (hds : ∀ d ∈ ds, d.isDigit)
    (hds' : ∀ d ∈ ds', d.isDigit) (htail : ∀ c ∈ tail.head?, c.isDigit = false)
    (htail' : ∀ c ∈ tail'.head?, c.isDigit = false) (h : ds ++ tail = ds' ++ tail') :
    ds = ds' ∧ tail = tail' := by
  have heq : ds = ds' := by rw [← takeWhile_digits hds htail, h, takeWhile_digits hds' htail']
  exact ⟨heq, List.append_cancel_left (heq ▸ h)⟩

end Json

/-! ## Natural numbers -/

namespace Schema

/-- A natural number that is read where no blank comes first begins there. -/
theorem of_read_natural (hc : c ∉ [' ', '\n', '\t', '\r']) {place : Place} {bound n : Nat}
    {after : Cursor} (h : Schema.natural.read ⟨c :: cs, place, bound⟩ = .ok (n, after)) :
    c :: cs = Nat.toDigits 10 n ++ after.rest ∧ n ≤ maxNatural ∧ EndsNumber after.rest := by
  obtain ⟨blank, hblank, hrest, hle, hends⟩ := exists_of_read_natural h
  cases blank with
  | nil => exact ⟨hrest, hle, hends⟩
  | cons b blank =>
      obtain ⟨rfl, -⟩ := List.cons.inj hrest
      exact absurd (by simpa using hblank c List.mem_cons_self) hc

theorem stops_natural_of_head (hc : c ∉ [' ', '\n', '\t', '\r']) (hdigit : c.isDigit = false)
    (cs : List Char) : Json.Stops Schema.natural.read (c :: cs) := by
  refine Json.stops_of_ne_ok fun rest place bound n after _ h => ?_
  obtain ⟨hrest, -, -⟩ := of_read_natural hc h
  obtain ⟨d, ds, hds⟩ := List.exists_cons_of_ne_nil (@Nat.toDigits_ne_nil n 10)
  rw [hds] at hrest
  obtain ⟨rfl, -⟩ := List.cons.inj hrest
  have hmem : c ∈ Nat.toDigits 10 n := hds ▸ List.mem_cons_self
  rw [(Json.isDigits_toDigits n).2 c hmem] at hdigit
  cases hdigit

/-- Digits that are read as a natural number are all of its digits. -/
theorem of_read_digits (hds : IsDigits ds) {tail : List Char}
    (htail : ∀ c ∈ tail.head?, c.isDigit = false) {place : Place} {bound n : Nat} {after : Cursor}
    (h : Schema.natural.read ⟨ds ++ tail, place, bound⟩ = .ok (n, after)) :
    ds = Nat.toDigits 10 n ∧ n ≤ maxNatural ∧ EndsNumber tail := by
  obtain ⟨hne, hdigits⟩ := hds
  obtain ⟨d, ds, rfl⟩ := List.exists_cons_of_ne_nil hne
  have hopens : Json.Opens d := .inr (hdigits d List.mem_cons_self)
  obtain ⟨hrest, hle, hends⟩ := of_read_natural hopens.notMem_blanks h
  obtain ⟨heq, htails⟩ := Json.digits_append_inj hdigits (Json.isDigits_toDigits n).2 htail
    (fun c hc => (hends c hc).1) hrest
  exact ⟨heq, hle, htails ▸ hends⟩

theorem stops_natural_of_fraction (hds : IsDigits ds) (hc : c ∈ ['.', 'e', 'E']) (cs : List Char) :
    Json.Stops Schema.natural.read (ds ++ c :: cs) := by
  have hdigit : ∀ c ∈ ['.', 'e', 'E'], c.isDigit = false := by simp
  refine Json.stops_of_ne_ok fun rest place bound n after _ h => ?_
  rw [List.append_assoc] at h
  have htail : ∀ d ∈ (c :: cs ++ rest).head?, d.isDigit = false := fun d hd =>
    Option.some.inj hd ▸ hdigit c hc
  obtain ⟨-, -, hends⟩ := of_read_digits hds htail h
  obtain ⟨-, hpoint, he, hE⟩ := Json.endsNumber_cons_iff.mp hends
  simp [hpoint, he, hE] at hc

/-- Digits alone are a natural number, or are not read at all if they begin with a needless zero or
are too many. -/
theorem reads_or_stops_digits (hds : IsDigits ds) :
    (∃ n, Reads (Schema.optional .natural).read ds (some n)) ∨
      Json.Stops Schema.natural.read ds := by
  by_cases hnatural : ∃ n ≤ maxNatural, ds = Nat.toDigits 10 n
  · obtain ⟨n, hle, rfl⟩ := hnatural
    refine .inl ⟨n, ?_⟩
    have hchars : (Json.integer n).chars = Nat.toDigits 10 n :=
      (Json.chars_integer n).trans Nat.toList_repr
    exact hchars ▸ reads_some_natural hle
  · refine .inr (Json.stops_of_ne_ok fun rest place bound n after hrest h => hnatural ?_)
    obtain ⟨heq, hle, -⟩ := of_read_digits hds (fun c hc => (hrest c hc).1) h
    exact ⟨n, hle, heq⟩

/-! ## Optional values and records -/

theorem stops_some (hblank : c ∉ [' ', '\n', '\t', '\r']) (hc : c ≠ 'n')
    (h : Json.Stops schema.read (c :: cs)) :
    Json.Stops (Schema.optional schema).read (c :: cs) := by
  intro rest place bound hrest hbound
  obtain ⟨error, herror⟩ := h rest place bound hrest hbound
  refine ⟨error, ?_⟩
  rw [List.cons_append] at herror ⊢
  simp [Schema.read, Json.skipBlanks_cons hblank, Cursor.peek?, hc, herror, bind, Except.bind]

theorem stops_record (h : Json.StopsMembers fields.readMember fields.noSlots entries) :
    Json.Stops (Schema.record title fields).read
      ('\x7b' :: (Json.listed true (entries.map Json.entryChars) ++ ['\x7d'])) := by
  intro rest place bound _ hbound
  have hlength : (Json.listed true (entries.map Json.entryChars) ++ '\x7d' :: rest).length ≤
      bound := by
    simp at hbound ⊢
    omega
  obtain ⟨error, herror⟩ := Json.error_of_stopsMembers h true (bound + 1) rest
    (place.after '\x7b') hlength
  refine ⟨error, ?_⟩
  rw [List.cons_append, List.append_assoc, List.singleton_append]
  simp [Schema.read, Json.readFound, Cursor.skipBlanks, Cursor.skipBlanks.go, Cursor.peek?,
    Cursor.advance, herror, bind, Except.bind, pure, Except.pure]

end Schema

namespace Fields

theorem stops_member_self {slots : rest.Slots} (h : Json.Stops schema.read raw) :
    Json.Stops ((Fields.cons name schema required rest).readMember name (none, slots))
      (':' :: raw) := by
  intro after place bound hafter hbound
  rw [List.length_cons] at hbound
  obtain ⟨error, herror⟩ := h after (place.after ':') bound hafter (by omega)
  refine ⟨error, ?_⟩
  simp [Fields.readMember, Json.readColon_cons, herror, bind, Except.bind]

theorem stops_member_of_ne (hne : name ≠ wanted) {slot : Option schema.Carrier}
    {slots : rest.Slots} (h : Json.Stops (rest.readMember wanted slots) raw) :
    Json.Stops ((Fields.cons name schema required rest).readMember wanted (slot, slots)) raw := by
  intro after place bound hafter hbound
  obtain ⟨error, herror⟩ := h after place bound hafter hbound
  refine ⟨error, ?_⟩
  simp [Fields.readMember, hne, herror, bind, Except.bind]

end Fields

/-- A text is not read if its beginning is not. -/
theorem Schema.exists_parse_error {text : String} (h : Json.Stops schema.read text.toList) :
    ∃ error, schema.parse text = .error error := by
  obtain ⟨error, herror⟩ := h [] {} text.toList.length Json.endsNumber_nil (Nat.le_refl _)
  rw [List.append_nil] at herror
  refine ⟨error, ?_⟩
  change schema.read ⟨text.toList, {}, text.toList.length⟩ >>= _ = _
  rw [herror]
  rfl

end TemplateBundler

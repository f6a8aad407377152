import TemplateBundler.Proofs.Json.RoundTrip
import TemplateBundler.Schema.Exchange

/-! # Printed values under a schema

How the text of a JSON value is read under a schema, one statement for each kind of schema. A
value that fits is read whole, whatever comes after it.
-/

namespace TemplateBundler

open Json (Cursor Place ReadError Reads ReadsMembers)

variable {schema : Schema} {fields rest : Fields} {json : Json} {name title wanted : String}
  {required : Bool} {members : List (String × Json)}

namespace Schema

/-! ## Single values -/

theorem reads_text (s : String) : Reads Schema.text.read (Json.text s).chars s := by
  intro rest place bound _ hbound
  rw [Json.chars_text] at hbound ⊢
  have hliteral := Json.length_le_literal s
  have hlength : s.toList.length ≤ bound := by omega
  obtain ⟨next, hnext⟩ := Json.readText_literal s rest (place.after '"') hlength
  refine ⟨next, ?_⟩
  rw [Json.literal_append]
  simp [Schema.read, Json.readFound, Cursor.skipBlanks, Cursor.skipBlanks.go, Cursor.peek?,
    Cursor.advance, hnext, ofFound, bind, Except.bind, pure, Except.pure]

theorem readFound_of_number {c : Char} (hc : c = '-' ∨ c.isDigit) (cs : List Char) (place : Place)
    (bound : Nat) :
    Json.readFound ⟨c :: cs, place, bound⟩ =
      (fun (number, cursor) => (number.found, cursor)) <$>
        Json.readNumber ⟨c :: cs, place, bound⟩ := by
  have hopens : Json.Opens c := Json.opens_of_number hc
  have hnull : c ≠ 'n' := Json.ne_of_number hc (by decide)
  have htrue : c ≠ 't' := Json.ne_of_number hc (by decide)
  have hfalse : c ≠ 'f' := Json.ne_of_number hc (by decide)
  have htext : c ≠ '"' := Json.ne_of_number hc (by decide)
  have harray : c ≠ '[' := Json.ne_of_number hc (by decide)
  have hobject : c ≠ '\x7b' := Json.ne_of_number hc (by decide)
  simp [Json.readFound, hopens.skipBlanks, Cursor.peek?, hc]

theorem reads_natural {n : Nat} (h : n ≤ maxNatural) :
    Reads Schema.natural.read (Json.integer n).chars n := by
  intro rest place bound hrest hbound
  have hshort : Found.isShort n := by simp [Found.isShort]; omega
  obtain ⟨next, hnext⟩ := Json.reads_integer hshort rest place bound hrest hbound
  obtain ⟨c, cs, hchars, hc⟩ := Json.exists_chars_integer n
  rw [hchars, List.cons_append] at hnext ⊢
  refine ⟨next, ?_⟩
  have hfound := readFound_of_number hc (cs ++ rest) place bound
  have hsign : ¬ (n : Int) < 0 := by omega
  rw [hnext] at hfound
  simp [Schema.read, hfound, Json.found, ofFound, hshort, hsign, bind, Except.bind, pure,
    Except.pure, Functor.map, Except.map]

/-! ## Optional values -/

/-- Nothing is read where nothing stands. -/
theorem reads_null : Reads (Schema.optional schema).read Json.null.chars none := by
  intro rest place bound _ _
  rw [Json.chars_null]
  refine ⟨(((place.after 'n').after 'u').after 'l').after 'l', ?_⟩
  rw [Schema.read]
  rfl

/-- What stands in an optional place is read as it is elsewhere. -/
theorem reads_some {value : schema.Carrier} {c : Char} {cs : List Char}
    (hchars : json.chars = c :: cs) (hopens : Json.Opens c) (hc : c ≠ 'n')
    (h : Reads schema.read json.chars value) :
    Reads (Schema.optional schema).read json.chars (some value) := by
  intro rest place bound hrest hbound
  obtain ⟨next, hnext⟩ := h rest place bound hrest hbound
  refine ⟨next, ?_⟩
  rw [hchars, List.cons_append] at hnext ⊢
  simp [Schema.read, hopens.skipBlanks, Cursor.peek?, hc, hnext, bind, Except.bind, pure,
    Except.pure]

theorem reads_some_text (s : String) :
    Reads (Schema.optional .text).read (Json.text s).chars (some s) :=
  reads_some ((Json.chars_text s).trans (Json.literal_toList s)) (by decide) (by decide)
    (reads_text s)

theorem reads_some_natural {n : Nat} (h : n ≤ maxNatural) :
    Reads (Schema.optional .natural).read (Json.integer n).chars (some n) := by
  obtain ⟨c, cs, hchars, hc⟩ := Json.exists_chars_integer n
  exact reads_some hchars (Json.opens_of_number hc) (Json.ne_of_number hc (by decide))
    (reads_natural h)

/-! ## Records -/

/-- A record is read from an object that has its fields among its members. -/
theorem reads_record {slots : fields.Slots} {values : fields.Carrier}
    (hmembers : ReadsMembers fields.readMember fields.noSlots members slots)
    (hfill : fields.fill slots = .ok values) :
    Reads (Schema.record title fields).read (Json.object members).chars values := by
  intro rest place bound _ hbound
  rw [Json.chars_object] at hbound ⊢
  have hcount := Json.length_le_listed true (members.map Json.memberChars)
  simp only [List.length_map, List.length_cons, List.length_append, List.length_nil] at *
  have hfuel : members.length < bound + 1 := by omega
  have hlength :
      (Json.listed true (members.map Json.memberChars) ++ '\x7d' :: rest).length ≤ bound := by
    rw [List.length_append, List.length_cons]
    omega
  obtain ⟨next, hnext⟩ := Json.readMembers_listed hmembers true hfuel rest
    (place.after '\x7b') hlength
  rw [List.cons_append, List.append_assoc, List.singleton_append]
  refine ⟨next.after '\x7d', ?_⟩
  simp [Schema.read, Json.readFound, Cursor.skipBlanks, Cursor.skipBlanks.go, Cursor.peek?,
    Cursor.advance, hnext, hfill, bind, Except.bind, pure, Except.pure]

end Schema

namespace Fields

/-- A member goes into the slot of its own name, -/
theorem reads_member_self {value : schema.Carrier} {slots : rest.Slots} {cs : List Char}
    (h : Reads schema.read cs value) :
    Reads ((Fields.cons name schema required rest).readMember name (none, slots)) (':' :: cs)
      (some value, slots) := by
  intro after place bound hafter hbound
  rw [List.length_cons] at hbound
  obtain ⟨next, hnext⟩ := h after (place.after ':') bound hafter (by omega)
  refine ⟨next, ?_⟩
  simp [Fields.readMember, Json.readColon_cons, hnext, bind, Except.bind, pure, Except.pure]

/-- and past those of other names. -/
theorem reads_member_of_ne (hne : name ≠ wanted) {slot : Option schema.Carrier}
    {slots slots' : rest.Slots} {cs : List Char}
    (h : Reads (rest.readMember wanted slots) cs slots') :
    Reads ((Fields.cons name schema required rest).readMember wanted (slot, slots)) cs
      (slot, slots') := by
  intro after place bound hafter hbound
  obtain ⟨next, hnext⟩ := h after place bound hafter hbound
  refine ⟨next, ?_⟩
  simp [Fields.readMember, hne, hnext, bind, Except.bind, pure, Except.pure]

end Fields

/-- A printed value that is read to its end is what its text stands for. -/
theorem Schema.parse_render {value : schema.Carrier} (h : Reads schema.read json.chars value) :
    schema.parse json.render = .ok value := by
  obtain ⟨next, hnext⟩ := h [] {} json.chars.length Json.endsNumber_nil (Nat.le_refl _)
  rw [List.append_nil] at hnext
  change schema.read ⟨json.chars, {}, json.chars.length⟩ >>= _ = _
  rw [hnext]
  rfl

end TemplateBundler

import TemplateBundler.Proofs.Schema.JsonText

/-! # Values restored from their text

A value that is written under a schema and read under it again is the same value. This takes a
schema that can tell its values apart: what is optional is not itself written as nothing when it
is there, and no two fields of a record have the same name.
-/

namespace TemplateBundler

open Json (Cursor Reads ReadsMembers)

/-! ## Schemas and values -/

/-- Whether values under the schema may be left out, or written as null. -/
def Schema.isOptional : Schema → Bool
  | .optional _ => true
  | _ => false

mutual

/-- Whether different values under the schema are always written differently. -/
def Schema.isClear : Schema → Bool
  | .flag | .natural | .text => true
  | .optional schema => !schema.isOptional && schema.isClear
  | .list schema => schema.isClear
  | .record _ fields => fields.isClear

def Fields.isClear : Fields → Bool
  | .nil => true
  | .cons name schema required rest =>
    !(required && schema.isOptional) && schema.isClear && !rest.contains name && rest.isClear

end

mutual

/-- All numbers in the value have at most 64 bits. -/
def Schema.Fits : (schema : Schema) → schema.Carrier → Prop
  | .flag, _ => True
  | .natural, n => n ≤ maxNatural
  | .text, _ => True
  | .optional _, none => True
  | .optional schema, some value => schema.Fits value
  | .list schema, values => ∀ value ∈ values, schema.Fits value
  | .record _ fields, values => fields.Fits values

def Fields.Fits : (fields : Fields) → fields.Carrier → Prop
  | .nil, () => True
  | .cons _ schema _ rest, (value, values) => schema.Fits value ∧ rest.Fits values

end

/-- Whether the value is nothing, so that a record leaves it out. -/
def Schema.isAbsent : (schema : Schema) → schema.Carrier → Bool
  | .optional _, none => true
  | _, _ => false

variable {schema : Schema} {fields rest : Fields} {json : Json} {name wanted title : String}
  {required : Bool} {members : List (String × Json)}

theorem Schema.isOptional_of_isAbsent {value : schema.Carrier} (h : schema.isAbsent value) :
    schema.isOptional ∧ value = schema.blank := by
  cases schema with
  | optional schema =>
      cases value with
      | none => exact ⟨rfl, rfl⟩
      | some value => cases h
  | flag | natural | text | list | record => cases h

theorem Fields.toMembers_cons (name : String) (schema : Schema) (required : Bool) (rest : Fields)
    (value : schema.Carrier) (values : rest.Carrier) :
    (Fields.cons name schema required rest).toMembers (value, values) =
      (if schema.isAbsent value then [] else [(name, schema.toJson value)]) ++
        rest.toMembers values := by
  cases schema with
  | optional schema => cases value <;> rfl
  | flag | natural | text | list | record => rfl

theorem Fields.contains_of_mem_toMembers : ∀ {fields : Fields} {values : fields.Carrier},
    ∀ member ∈ fields.toMembers values, fields.contains member.1
  | .nil, (), member, h => by cases h
  | .cons name schema required rest, (value, values), member, h => by
      rw [Fields.toMembers_cons] at h
      rw [Fields.contains, Bool.or_eq_true, beq_iff_eq]
      rcases List.mem_append.mp h with hself | hrest
      · split_ifs at hself with habsent
        · cases hself
        · rw [List.mem_singleton.mp hself]
          exact .inl rfl
      · exact .inr (rest.contains_of_mem_toMembers member hrest)

/-! ## Written values are plain -/

mutual

theorem Schema.isPlain_toJson : ∀ (schema : Schema) (value : schema.Carrier), schema.Fits value →
    (schema.toJson value).IsPlain
  | .flag, value, _ => .flag value
  | .natural, n, h => by
      have hle : n ≤ maxNatural := h
      exact .integer (by simp [Found.isShort]; omega)
  | .text, s, _ => .text s
  | .optional _, none, _ => .null
  | .optional schema, some value, h => schema.isPlain_toJson value h
  | .list schema, values, h => by
      refine .array fun json hjson => ?_
      obtain ⟨value, hvalue, rfl⟩ := List.mem_map.mp hjson
      exact schema.isPlain_toJson value (h value hvalue)
  | .record _ fields, values, h => .object (fields.isPlain_toMembers values h)

theorem Fields.isPlain_toMembers : ∀ (fields : Fields) (values : fields.Carrier),
    fields.Fits values → ∀ member ∈ fields.toMembers values, member.2.IsPlain
  | .nil, (), _, member, hmember => by cases hmember
  | .cons name schema required rest, (value, values), h, member, hmember => by
      rw [Fields.toMembers_cons] at hmember
      rcases List.mem_append.mp hmember with hself | hrest
      · split_ifs at hself with habsent
        · cases hself
        · rw [List.mem_singleton.mp hself]
          exact schema.isPlain_toJson value h.1
      · exact rest.isPlain_toMembers values h.2 member hrest

end

/-- What is there is not written like what is not there. -/
theorem Schema.exists_chars_toJson (hschema : schema.isOptional = false) (value : schema.Carrier) :
    ∃ c cs, (schema.toJson value).chars = c :: cs ∧ Json.Opens c ∧ c ≠ 'n' := by
  cases schema with
  | optional schema => cases hschema
  | flag =>
      cases value with
      | false => exact ⟨_, _, Json.chars_false, by decide, by decide⟩
      | true => exact ⟨_, _, Json.chars_true, by decide, by decide⟩
  | natural =>
      obtain ⟨c, cs, hchars, hc⟩ := Json.exists_chars_integer value
      exact ⟨c, cs, hchars, Json.opens_of_number hc, Json.ne_of_number hc (by decide)⟩
  | text =>
      exact ⟨_, _, (Json.chars_text value).trans (Json.literal_toList value), by decide, by decide⟩
  | list schema => exact ⟨_, _, Json.chars_array _, by decide, by decide⟩
  | record title fields => exact ⟨_, _, Json.chars_object _, by decide, by decide⟩

/-! ## Reading what was written -/

theorem Schema.reads_flag (value : Bool) :
    Reads Schema.flag.read (Json.flag value).chars value := by
  intro rest place bound _ _
  cases value with
  | true =>
      rw [Json.chars_true]
      exact ⟨_, rfl⟩
  | false =>
      rw [Json.chars_false]
      exact ⟨_, rfl⟩

theorem Schema.reads_list {items : List Json} {values : List schema.Carrier}
    (hitems : List.Forall₂ (fun json value => json.IsPlain ∧ Reads schema.read json.chars value)
      items values) :
    Reads (Schema.list schema).read (Json.array items).chars values := by
  intro rest place bound _ hbound
  rw [Json.chars_array] at hbound ⊢
  have hcount := Json.length_le_listed true (items.map Json.chars)
  simp only [List.length_map, List.length_cons, List.length_append, List.length_nil] at *
  have hfuel : items.length < bound + 1 := by omega
  have hlength : (Json.listed true (items.map Json.chars) ++ ']' :: rest).length ≤ bound := by
    rw [List.length_append, List.length_cons]
    omega
  obtain ⟨next, hnext⟩ := Json.readItems_listed hitems [] hfuel rest (place.after '[') hlength
  rw [List.isEmpty_nil] at hnext
  rw [List.cons_append, List.append_assoc, List.singleton_append]
  refine ⟨next.after ']', ?_⟩
  simp [Schema.read, Json.readFound, Cursor.skipBlanks, Cursor.skipBlanks.go, Cursor.peek?,
    Cursor.advance, hnext, bind, Except.bind, pure, Except.pure]

/-- Members of other names go past the slot of a field. -/
theorem Fields.readsMembers_of_ne {slot : Option schema.Carrier} {slots slots' : rest.Slots}
    (hnames : ∀ member ∈ members, member.1 ≠ name)
    (h : ReadsMembers rest.readMember slots members slots') :
    ReadsMembers (Fields.cons name schema required rest).readMember (slot, slots) members
      (slot, slots') := by
  induction h with
  | nil => exact .nil _
  | cons hread _ ih =>
      obtain ⟨hname, hothers⟩ := List.forall_mem_cons.mp hnames
      exact .cons (Fields.reads_member_of_ne hname.symm hread) (ih hothers)

mutual

theorem Schema.reads_toJson : ∀ (schema : Schema) (value : schema.Carrier), schema.isClear →
    schema.Fits value → Reads schema.read (schema.toJson value).chars value
  | .flag, value, _, _ => Schema.reads_flag value
  | .natural, _, _, h => Schema.reads_natural h
  | .text, s, _, _ => Schema.reads_text s
  | .optional _, none, _, _ => Schema.reads_null
  | .optional schema, some value, hclear, h => by
      rw [Schema.isClear, Bool.and_eq_true, Bool.not_eq_true'] at hclear
      obtain ⟨c, cs, hchars, hopens, hc⟩ := Schema.exists_chars_toJson hclear.1 value
      exact Schema.reads_some hchars hopens hc (schema.reads_toJson value hclear.2 h)
  | .list schema, values, hclear, h => by
      refine Schema.reads_list (List.forall₂_map_left_iff.mpr (List.forall₂_same.mpr ?_))
      intro value hvalue
      exact ⟨schema.isPlain_toJson value (h value hvalue),
        schema.reads_toJson value hclear (h value hvalue)⟩
  | .record _ fields, values, hclear, h => by
      obtain ⟨slots, hmembers, hfill⟩ := fields.readsMembers_toMembers values hclear h
      exact Schema.reads_record hmembers hfill

/-- The members of a record fill the slots of those fields that are there. -/
theorem Fields.readsMembers_toMembers : ∀ (fields : Fields) (values : fields.Carrier),
    fields.isClear → fields.Fits values →
      ∃ slots, ReadsMembers fields.readMember fields.noSlots (fields.toMembers values) slots ∧
        fields.fill slots = .ok values
  | .nil, (), _, _ => ⟨(), .nil _, rfl⟩
  | .cons name schema required rest, (value, values), hclear, h => by
      simp only [Fields.isClear, Bool.and_eq_true, Bool.not_eq_true', Bool.and_eq_false_iff]
        at hclear
      obtain ⟨⟨⟨hrequired, hschema⟩, hname⟩, hrest⟩ := hclear
      obtain ⟨slots, hmembers, hfill⟩ := rest.readsMembers_toMembers values hrest h.2
      have hnames : ∀ member ∈ rest.toMembers values, member.1 ≠ name := by
        rintro member hmember rfl
        rw [rest.contains_of_mem_toMembers member hmember] at hname
        cases hname
      rw [Fields.toMembers_cons]
      cases habsent : schema.isAbsent value with
      | true =>
          obtain ⟨hoptional, rfl⟩ := Schema.isOptional_of_isAbsent habsent
          refine ⟨(none, slots), Fields.readsMembers_of_ne hnames hmembers, ?_⟩
          have hfree : required = false := by simpa [hoptional] using hrequired
          simp [Fields.fill, hfree, hfill, bind, Except.bind, pure, Except.pure]
      | false =>
          have hself : Reads ((Fields.cons name schema required rest).readMember name
              (none, rest.noSlots)) (':' :: (schema.toJson value).chars)
                (some value, rest.noSlots) :=
            Fields.reads_member_self (schema.reads_toJson value hschema h.1)
          refine ⟨(some value, slots), ?_, ?_⟩
          · exact .cons hself (Fields.readsMembers_of_ne hnames hmembers)
          · simp [Fields.fill, hfill, bind, Except.bind, pure, Except.pure]

end

/-! ## Exchanges -/

/-- What is written of a value is read as that value. -/
theorem Exchange.parse_write {α : Type} (exchange : Exchange α) {value : α}
    (hclear : exchange.schema.isClear) (hfits : exchange.schema.Fits (exchange.lay value))
    (hlift : exchange.lift (exchange.lay value) = value) :
    exchange.parse (exchange.write value) = .ok value := by
  have hread := exchange.schema.reads_toJson (exchange.lay value) hclear hfits
  have hparse : exchange.schema.parse (exchange.write value) = .ok (exchange.lay value) :=
    Schema.parse_render hread
  rw [Exchange.parse, hparse]
  exact congrArg Except.ok hlift

end TemplateBundler

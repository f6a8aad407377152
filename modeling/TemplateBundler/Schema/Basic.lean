/-! # Schemas

A schema says what a structured value has to look like: which fields a record has,
which of them may be absent, and what stands in each. From the schema alone follow the
type of the values that fit, how they are written, and how they are read from JSON
values, from JSON text and from YAML, with the same complaints about what does not
fit.
-/

namespace TemplateBundler

mutual

/-- What a value has to look like. -/
inductive Schema where
  | flag
  /-- A natural number of at most 64 bits. -/
  | natural
  | text
  | optional (schema : Schema)
  | list (schema : Schema)
  /-- Named fields, also given as a list in their order. The title names the record in
  complaints. -/
  | record (title : String) (fields : Fields)

inductive Fields where
  | nil
  /-- A field and those after it. A field that is not required may be absent and is then blank. -/
  | cons (name : String) (schema : Schema) (required : Bool) (rest : Fields)

end

mutual

/-- The type of the values that fit. -/
@[reducible] def Schema.Carrier : Schema → Type
  | .flag => Bool
  | .natural => Nat
  | .text => String
  | .optional schema => Option schema.Carrier
  | .list schema => List schema.Carrier
  | .record _ fields => fields.Carrier

/-- The type of the values of the fields, as nested pairs. -/
@[reducible] def Fields.Carrier : Fields → Type
  | .nil => Unit
  | .cons _ schema _ rest => schema.Carrier × rest.Carrier

end

mutual

/-- The value that stands for nothing: no text, no items, fields all blank. -/
def Schema.blank : (schema : Schema) → schema.Carrier
  | .flag => false
  | .natural => (0 : Nat)
  | .text => ""
  | .optional _ => none
  | .list _ => []
  | .record _ fields => fields.blank

/-- Blank values for all fields. -/
def Fields.blank : (fields : Fields) → fields.Carrier
  | .nil => ()
  | .cons _ schema _ rest => (schema.blank, rest.blank)

end

/-- What has been read of the fields so far. -/
@[reducible] def Fields.Slots : Fields → Type
  | .nil => Unit
  | .cons _ schema _ rest => Option schema.Carrier × rest.Slots

/-- No field has been read. -/
def Fields.noSlots : (fields : Fields) → fields.Slots
  | .nil => ()
  | .cons _ _ _ rest => (none, rest.noSlots)

def Fields.count : Fields → Nat
  | .nil => 0
  | .cons _ _ _ rest => rest.count + 1

def Fields.contains : Fields → String → Bool
  | .nil, _ => false
  | .cons name _ _ rest, wanted => name == wanted || rest.contains wanted

/-- The greatest natural number that fits 64 bits. -/
def maxNatural : Nat := 18446744073709551615

end TemplateBundler

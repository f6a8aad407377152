import TemplateBundler.Json.Printer
import TemplateBundler.Schema.Error

/-! # Schemas and JSON values

Writing leaves out optional fields that are unset. Reading accepts a record as an object,
whose unknown members are ignored, and as an array of its fields.
-/

namespace TemplateBundler

def Json.words : FormatWords where
  nothing := "null"
  float := Json.floatLayout.write

def Json.found : Json → Found
  | null => .nothing
  | flag value => .flag value
  | integer value => .integer value
  | float value => .float value
  | text value => .text value
  | array _ => .sequence
  | object _ => .mapping

mutual

/-- The JSON value of a value that fits. -/
def Schema.toJson : (schema : Schema) → schema.Carrier → Json
  | .flag, value => .flag value
  | .natural, value => .natural value
  | .text, value => .text value
  | .optional _, none => .null
  | .optional schema, some value => schema.toJson value
  | .list schema, values => .array (values.map schema.toJson)
  | .record _ fields, values => .object (fields.toMembers values)

def Fields.toMembers : (fields : Fields) → fields.Carrier → List (String × Json)
  | .nil, () => []
  | .cons _ (.optional _) _ rest, (none, values) => rest.toMembers values
  | .cons name schema _ rest, (value, values) =>
    (name, schema.toJson value) :: rest.toMembers values

end

mutual

def Schema.ofJson : (schema : Schema) → Json → Except SchemaError schema.Carrier
  | .optional _, .null => .ok none
  | .optional schema, json => some <$> schema.ofJson json
  | .list schema, .array items => items.mapM schema.ofJson
  | .record title fields, .array items =>
    fields.ofItems title fields.count 0 items.length items
  | .record _ fields, .object members => do
    fields.fill (← members.foldlM (fun slots (name, json) => fields.store name json slots)
      fields.noSlots)
  | schema, json => schema.ofFound json.found

/-- Reads the fields from the items of an array, of which `before` were read already. -/
def Fields.ofItems (title : String) (count before length : Nat) :
    (fields : Fields) → List Json → Except SchemaError fields.Carrier
  | .nil, [] => .ok ()
  | .nil, _ :: _ => .error (.wrongLength length "fewer elements in array")
  | .cons _ schema required rest, [] => do
    if required then .error (.wrongLength before (expectedItems title count))
    return (schema.blank, ← rest.ofItems title count (before + 1) length [])
  | .cons _ schema _ rest, item :: items => do
    let value ← schema.ofJson item
    return (value, ← rest.ofItems title count (before + 1) length items)

/-- Reads a member into the slot of its name. Unknown members are ignored. -/
def Fields.store (wanted : String) (json : Json) :
    (fields : Fields) → fields.Slots → Except SchemaError fields.Slots
  | .nil, () => .ok ()
  | .cons name schema _ rest, (slot, slots) => do
    if name = wanted then
      if slot.isSome then .error (.duplicateField name)
      return (some (← schema.ofJson json), slots)
    else return (slot, ← rest.store wanted json slots)

end

end TemplateBundler

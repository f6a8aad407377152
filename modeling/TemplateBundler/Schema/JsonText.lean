import TemplateBundler.Json.Reader

/-! # Schemas and JSON text

Values are read from JSON text as they come, so of several faults the first one in the
text is reported, with its place. What has no place of its own in the text, such as an
absent member, is reported at the end of its object or array.
-/

namespace TemplateBundler

open Json (Cursor ReadError)

namespace Json

/-- Fails because something does not fit. -/
def misfit {α : Type} (error : SchemaError) (cursor : Cursor) : Except ReadError α :=
  .error ⟨.misfit error, cursor.place⟩

/-- Finds out what value comes next. Arrays and objects are not entered. -/
def readFound (cursor : Cursor) : Except ReadError (Found × Cursor) := do
  let cursor := cursor.skipBlanks
  match cursor.peek? with
  | none => fail .endInValue cursor.place
  | some 'n' => return (.nothing, ← readWord ['u', 'l', 'l'] cursor.advance)
  | some 't' => return (.flag true, ← readWord ['r', 'u', 'e'] cursor.advance)
  | some 'f' => return (.flag false, ← readWord ['a', 'l', 's', 'e'] cursor.advance)
  | some '"' =>
    let (value, cursor) ← readText cursor.advance
    return (.text value, cursor)
  | some '[' => return (.sequence, cursor)
  | some '\x7b' => return (.mapping, cursor)
  | some c =>
    if c = '-' || c.isDigit then
      let (number, cursor) ← readNumber cursor
      return (number.found, cursor)
    else fail .noValue cursor.placeOfNext

/-- The cursor at which a fault inside an object is reported: its end, if that comes next. -/
def passEnd (cursor : Cursor) : Cursor :=
  let cursor := cursor.skipBlanks
  if cursor.peek? = some '\x7d' then cursor.advance else cursor

end Json

mutual

def Schema.read : (schema : Schema) → Cursor → Except ReadError (schema.Carrier × Cursor)
  | .optional schema, cursor => do
    let cursor := cursor.skipBlanks
    if cursor.peek? = some 'n' then
      return (none, ← Json.readWord ['u', 'l', 'l'] cursor.advance)
    let (value, cursor) ← schema.read cursor
    return (some value, cursor)
  | .list schema, cursor => do
    match ← Json.readFound cursor with
    | (.sequence, cursor) =>
      let (values, cursor) ←
        Json.readItems schema.read (cursor.bound + 1) [] cursor.advance
      return (values, cursor.advance)
    | (found, cursor) => Json.misfit ((Schema.list schema).mismatch found) cursor
  | .record title fields, cursor => do
    match ← Json.readFound cursor with
    | (.sequence, cursor) =>
      let (values, cursor) ← fields.readItems title fields.count 0 cursor.advance
      return (values, ← Json.readArrayEnd cursor)
    | (.mapping, cursor) =>
      let (slots, cursor) ←
        Json.readMembers fields.readMember (cursor.bound + 1) true fields.noSlots
          cursor.advance
      match fields.fill slots with
      | .ok values => return (values, cursor.advance)
      | .error error => Json.misfit error cursor.advance
    | (found, cursor) => Json.misfit ((Schema.record title fields).mismatch found) cursor
  | schema, cursor => do
    let (found, cursor) ← Json.readFound cursor
    match schema.ofFound found with
    | .ok value => return (value, cursor)
    | .error error => Json.misfit error cursor

/-- Reads the fields from an array after its opening bracket, of which `before` items were read
already. -/
def Fields.readItems (title : String) (count before : Nat) :
    (fields : Fields) → Cursor → Except ReadError (fields.Carrier × Cursor)
  | .nil, cursor => .ok ((), cursor)
  | .cons _ schema required rest, cursor => do
    let (more, cursor) ← Json.nextItem (before == 0) cursor
    let (value, cursor) ←
      if more then schema.read cursor
      else if required then
        Json.misfit (.wrongLength before (expectedItems title count)) cursor.advance
      else .ok (schema.blank, cursor)
    let (values, cursor) ← rest.readItems title count (before + 1) cursor
    return ((value, values), cursor)

/-- Reads the value of a member, from the colon on, into the slot of its name. Unknown members are
skipped. -/
def Fields.readMember : (fields : Fields) → String → fields.Slots → Cursor →
    Except ReadError (fields.Slots × Cursor)
  | .nil, _, (), cursor => do return ((), ← Json.skip (← Json.readColon cursor))
  | .cons name schema _ rest, wanted, (slot, slots), cursor => do
    if name = wanted then
      if slot.isSome then Json.misfit (.duplicateField name) (Json.passEnd cursor)
      let (value, cursor) ← schema.read (← Json.readColon cursor)
      return ((some value, slots), cursor)
    let (slots, cursor) ← rest.readMember wanted slots cursor
    return ((slot, slots), cursor)

end

/-- The value that a whole text stands for. -/
def Schema.parse (schema : Schema) (text : String) : Except ReadError schema.Carrier := do
  let (value, cursor) ← schema.read { rest := text.toList }
  Json.readEnd cursor
  return value

end TemplateBundler

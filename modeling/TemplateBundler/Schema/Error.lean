import TemplateBundler.Schema.Basic
import TemplateBundler.Text.Quoted

/-! # Complaints about values that do not fit

A complaint names what was found, what was expected and, for records, the field. The
formats that values are read from differ in two words only: what they call the value
that stands for nothing, and how they write floating-point numbers.
-/

namespace TemplateBundler

/-- What stood where something else was expected. -/
inductive Found where
  | nothing
  | flag (value : Bool)
  | integer (value : Int)
  | float (value : Float)
  | text (value : String)
  | sequence
  | mapping

/-- Why a value does not fit a schema. -/
inductive SchemaError where
  | wrongKind (found : Found) (expected : String)
  /-- A value of the right kind that is out of range. -/
  | wrongValue (found : Found) (expected : String)
  | missingField (name : String)
  | duplicateField (name : String)
  /-- A list has the wrong number of items. -/
  | wrongLength (length : Nat) (expected : String)

/-- The words in which formats differ. -/
structure FormatWords where
  nothing : String
  /-- The text of a floating-point number. -/
  float : Float → String

/-- Whether an integer fits 128 bits, with its sign if it is negative. -/
def Found.isInteger (value : Int) : Bool :=
  -170141183460469231731687303715884105728 ≤ value &&
    value ≤ 340282366920938463463374607431768211455

/-- Whether an integer fits 64 bits, with its sign if it is negative. -/
def Found.isShort (value : Int) : Bool :=
  -9223372036854775808 ≤ value && value ≤ maxNatural

/-- The name of an integer. Those that do not fit 64 bits are named with their own format. -/
def Found.describeInteger (value : Int) : String :=
  if isShort value then s!"integer `{value}`"
  else if value < 0 then s!"integer `{value}` as i128"
  else s!"integer `{value}` as u128"

def Found.describe (words : FormatWords) : Found → String
  | .nothing => words.nothing
  | .flag value => s!"boolean `{value}`"
  | .integer value => describeInteger value
  | .float value => s!"floating point `{words.float value}`"
  | .text value => s!"string {Text.quoted value}"
  | .sequence => "sequence"
  | .mapping => "map"

def SchemaError.message (words : FormatWords) : SchemaError → String
  | .wrongKind found expected =>
    s!"invalid type: {found.describe words}, expected {expected}"
  | .wrongValue found expected =>
    s!"invalid value: {found.describe words}, expected {expected}"
  | .missingField name => s!"missing field `{name}`"
  | .duplicateField name => s!"duplicate field `{name}`"
  | .wrongLength length expected => s!"invalid length {length}, expected {expected}"

/-- What a schema expects, in words. -/
def Schema.expected : Schema → String
  | .flag => "a boolean"
  | .natural => "usize"
  | .text => "a string"
  | .optional schema => schema.expected
  | .list _ => "a sequence"
  | .record title _ => s!"struct {title}"

/-- A record of this many fields, given as a list, in words. -/
def expectedItems (title : String) (count : Nat) : String :=
  let unit := if count = 1 then "element" else "elements"
  s!"struct {title} with {count} {unit}"

/-- The complaint about a value of the wrong kind. -/
def Schema.mismatch (schema : Schema) (found : Found) : SchemaError :=
  .wrongKind found schema.expected

/-- Takes what was found as the value of a schema that is neither optional nor made of parts. -/
def Schema.ofFound : (schema : Schema) → Found → Except SchemaError schema.Carrier
  | .flag, .flag value => .ok value
  | .natural, .integer value =>
    if !Found.isShort value then .error (Schema.natural.mismatch (.integer value))
    else if value < 0 then .error (.wrongValue (.integer value) Schema.natural.expected)
    else .ok value.toNat
  | .text, .text value => .ok value
  | schema, found => .error (schema.mismatch found)

/-- The fields from their slots; an absent field is an error if it is required. -/
def Fields.fill : (fields : Fields) → fields.Slots → Except SchemaError fields.Carrier
  | .nil, () => .ok ()
  | .cons name schema required rest, (slot, slots) => do
    let value ← match slot with
      | some value => .ok value
      | none => if required then .error (.missingField name) else .ok schema.blank
    return (value, ← rest.fill slots)

end TemplateBundler

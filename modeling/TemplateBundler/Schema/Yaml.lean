import TemplateBundler.Decimal.Notation
import TemplateBundler.Schema.Exchange
import TemplateBundler.Yaml.Document
import TemplateBundler.Yaml.Word

/-! # Schemas and YAML

Values are read from the first document of a YAML text. A text takes any scalar as it is
written; other values take plain scalars only. Empty plain scalars count as lists and
records without items and as values that are missing.

Complaints name the path to the value and its place, unless it is the very first. A
complaint about a record as a whole has the path and the place of the record, and so
does one about a value that its tag calls nothing.
-/

namespace TemplateBundler

namespace Yaml

def words : FormatWords where
  nothing := "unit value"
  float := Decimal.Notation.write
    { plainFrom := -400
      plainTo := 400
      pointZero := true
      tie := .up
      signedZero := true
      infinity := "inf" }

/-- Where in a value something stands: names and numbers of items, from the outside in. -/
structure ValuePath where
  /-- The path as it is written, where `.` is the whole value. -/
  text : String := "."
  deriving DecidableEq, Repr

/-- The path to the member with this name; the name may be unknown. -/
def ValuePath.member (path : ValuePath) (name : Option String) : ValuePath :=
  let name := name.getD "?"
  if path.text = "." then ⟨name⟩ else ⟨path.text ++ "." ++ name⟩

def ValuePath.item (path : ValuePath) (index : Nat) : ValuePath := ⟨s!"{path.text}[{index}]"⟩

/-- Why a text could not be read. -/
inductive ReadError where
  | broken (fault : Fault)
  | several
  /-- A value does not fit. -/
  | misfit (error : SchemaError) (path : ValuePath) (mark : Mark)
  /-- A value does not fit, and the place to name is that of the list or record around it. -/
  | unplaced (error : SchemaError)

/-- The error inside a list or record at this place. -/
def ReadError.within (path : ValuePath) (mark : Mark) : ReadError → ReadError
  | unplaced error => misfit error path mark
  | error => error

def ReadError.message : ReadError → String
  | broken fault => fault.message
  | several => "deserializing from YAML containing more than one document is not supported"
  | unplaced error => error.message words
  | misfit error path mark =>
    let path := if path.text = "." then "" else path.text ++ ": "
    path ++ error.message words ++ mark.shown

def flagTag : String := "tag:yaml.org,2002:bool"

def integerTag : String := "tag:yaml.org,2002:int"

/-- The tag of floating-point numbers. -/
def floatTag : String := "tag:yaml.org,2002:float"

def nothingTag : String := "tag:yaml.org,2002:null"

/-- What a scalar is found to be: what its tag says, which it then has to be, or if it is plain
and has no tag or one of its own, what the word stands for. -/
def foundScalar (tag : Option String) (text : String) (style : Style) : Except SchemaError Found :=
  let orElse (found? : Option Found) (expected : String) : Except SchemaError Found :=
    match found? with
    | some found => .ok found
    | none => .error (.wrongValue (.text text) expected)
  let untagged := if style = .plain then Word.found text else .text text
  match tag with
  | none => .ok untagged
  | some tag =>
    if tag = flagTag then orElse ((Word.flag? text).map .flag) "a boolean"
    else if tag = integerTag then
      orElse (((Word.integer? text.toList).filter Found.isInteger).map .integer) "an integer"
    else if tag = floatTag then orElse ((Word.float? text.toList).map .float) "a float"
    else if tag = nothingTag then
      orElse (if Word.isNothing text then some .nothing else none) "null"
    else .ok (if tag.startsWith "!" then untagged else .text text)

/-- Whether the part is an empty plain scalar, or nothing at all. -/
def isBlankNode : Node → Bool
  | .void => true
  | .scalar _ text style => text = "" && style = .plain
  | _ => false

/-- A document at one of its parts, and the path to it. -/
structure Place where
  document : Document
  /-- The number of the part. -/
  position : Nat := 0
  path : ValuePath := {}

namespace Place

def node (place : Place) : Except ReadError (Node × Mark) :=
  match place.document.nodes[place.position]? with
  | some node => .ok node
  | none => .error (.broken place.document.fault)

/-- The place that a reference at this place leads to. -/
def follow (place : Place) : Place :=
  { place with position := place.document.follow place.position }

def next (place : Place) : Place := { place with position := place.position + 1 }

/-- Takes up where `after` ends, or after the reference if there is one at this place. -/
def resume (place after : Place) : Place :=
  let followed := place.follow
  if followed.position = place.position then { place with position := after.position }
  else place.next

/-- The complaint that the node at this place does not fit. -/
def mismatch {α : Type} (place : Place) (expected : String) : Except ReadError α := do
  let (node, mark) ← place.node
  let fail (error : SchemaError) : Except ReadError α := .error (.misfit error place.path mark)
  let found ← match node with
    | .scalar tag text style =>
      match foundScalar tag text style with
      | .ok found => pure found
      | .error error => return ← fail error
    | .sequenceStart => pure Found.sequence
    | .mappingStart => pure Found.mapping
    | _ => throw (.broken place.document.fault)
  fail (.wrongKind found expected)

def skip (place : Place) : Except ReadError Place :=
  match place.document.nodeLength place.position with
  | some length => .ok { place with position := place.position + length }
  | none => .error (.broken place.document.fault)

/-- Reads the name of a member. The path to its value names it only if it was written out. -/
def readName (place : Place) : Except ReadError (String × Option String × Place) := do
  let followed := place.follow
  match ← followed.node with
  | (.scalar _ text _, _) =>
    return (text, if followed.position = place.position then some text else none, place.next)
  | _ => followed.mismatch "field identifier"

/-- Reads items up to the end of the sequence. The fuel is the number of parts left; `before`
holds the items read so far, in reverse, and `index` is their number. -/
def readItems {α : Type} (item : Place → Except ReadError (α × Place)) :
    Nat → Nat → List α → Place → Except ReadError (List α × Place)
  | 0, _, _, place => .error (.broken place.document.fault)
  | fuel + 1, index, before, place => do
    match ← place.node with
    | (.sequenceEnd, _) => return (before.reverse, place.next)
    | _ =>
      let (value, after) ← item { place with path := place.path.item index }
      readItems item fuel (index + 1) (value :: before) { place with position := after.position }

/-- Reads members up to the end of the mapping, with fuel as for items. A member's name has been
read when its reader takes over at the value. -/
def readMembers {α : Type} (member : String → α → Place → Except ReadError (α × Place)) :
    Nat → α → Place → Except ReadError (α × Place)
  | 0, _, place => .error (.broken place.document.fault)
  | fuel + 1, value, place => do
    match ← place.node with
    | (.mappingEnd, _) => return (value, place.next)
    | _ =>
      let (name, shown, after) ← place.readName
      let (value, after) ← member name value { after with path := place.path.member shown }
      readMembers member fuel value { place with position := after.position }

def fuel (place : Place) : Nat := place.document.nodes.size - place.position + 1

end Place

end Yaml

mutual

/-- Reads the node at a place, which has to fit the schema. -/
def Schema.readYaml : (schema : Schema) → Yaml.Place →
    Except Yaml.ReadError (schema.Carrier × Yaml.Place)
  | .flag, place => do
    let followed := place.follow
    match ← followed.node with
    | (.scalar tag text style, _) =>
      match Yaml.Word.flag? text with
      | some value =>
        if style = .plain || (style = .literal && tag = some Yaml.flagTag) then
          return (value, place.next)
        else followed.mismatch Schema.flag.expected
      | none => followed.mismatch Schema.flag.expected
    | _ => followed.mismatch Schema.flag.expected
  | .natural, place => do
    let followed := place.follow
    match ← followed.node with
    | (.scalar tag text style, mark) =>
      match (Yaml.Word.integer? text.toList).filter Found.isShort with
      | some value =>
        if style = .plain || (style = .literal && tag = some Yaml.integerTag) then
          match Schema.natural.ofFound (.integer value) with
          | .ok value => return (value, place.next)
          | .error error => throw (.misfit error place.path mark)
        else followed.mismatch Schema.natural.expected
      | none => followed.mismatch Schema.natural.expected
    | _ => followed.mismatch Schema.natural.expected
  | .text, place => do
    let followed := place.follow
    match ← followed.node with
    | (.scalar _ text _, _) => return (text, place.next)
    | _ => followed.mismatch Schema.text.expected
  | .optional schema, place => do
    let followed := place.follow
    let present ← match ← followed.node with
      | (.void, _) => pure false
      | (.scalar tag text style, _) =>
        if style ≠ .plain then pure true
        else if tag = some Yaml.nothingTag then
          if Yaml.Word.isNothing text then pure false
          else throw (.unplaced (.wrongValue (.text text) "null"))
        else pure (tag.isSome || !(text = "" || Yaml.Word.isNothing text))
      | _ => pure true
    if !present then return (none, place.next)
    let (value, after) ← schema.readYaml followed
    return (some value, place.resume after)
  | .list schema, place => do
    let followed := place.follow
    match ← followed.node with
    | (.sequenceStart, mark) =>
      let (values, after) ←
        (followed.next.readItems schema.readYaml followed.fuel 0 []).mapError
          (.within place.path mark)
      return (values, place.resume after)
    | (node, _) =>
      if Yaml.isBlankNode node then return ([], place.next)
      else followed.mismatch (Schema.list schema).expected
  | .record title fields, place => do
    let followed := place.follow
    let (node, mark) ← followed.node
    let fill (slots : fields.Slots) : Except Yaml.ReadError fields.Carrier :=
      (fields.fill slots).mapError fun error => .misfit error place.path mark
    match node with
    | .mappingStart =>
      let (slots, after) ←
        (followed.next.readMembers fields.readYaml followed.fuel fields.noSlots).mapError
          (.within place.path mark)
      return (← fill slots, place.resume after)
    | node =>
      if Yaml.isBlankNode node then return (← fill fields.noSlots, place.next)
      else followed.mismatch (Schema.record title fields).expected

/-- Reads the value of a member into the slot of its name. Unknown members are skipped. A field
that is given twice is a fault of the record. -/
def Fields.readYaml : (fields : Fields) → String → fields.Slots → Yaml.Place →
    Except Yaml.ReadError (fields.Slots × Yaml.Place)
  | .nil, _, (), place => do return ((), ← place.skip)
  | .cons name schema _ rest, wanted, (slot, slots), place => do
    if name = wanted then
      if slot.isSome then throw (.unplaced (.duplicateField name))
      let (value, after) ← schema.readYaml place
      return ((some value, slots), after)
    let (slots, after) ← rest.readYaml wanted slots place
    return ((slot, slots), after)

end

/-- Reads a value from a YAML text, which has to hold one document. -/
def Schema.parseYaml (schema : Schema) (text : String) : Except Yaml.ReadError schema.Carrier := do
  let document := Yaml.Document.ofText text
  let (value, _) ← schema.readYaml { document }
  if let some fault := document.fault? then throw (.broken fault)
  if !document.single then throw .several
  return value

def Exchange.parseYaml {α : Type} (exchange : Exchange α) (text : String) :
    Except Yaml.ReadError α :=
  exchange.lift <$> exchange.schema.parseYaml text

end TemplateBundler

import TemplateBundler.Json.Cursor
import TemplateBundler.Schema.Json
import TemplateBundler.Text.Digits
import TemplateBundler.Text.Slice

/-! # Reading JSON text

The words, numbers and strings of JSON, read from a cursor. A reader that fails says why
and at which place; a complaint about the next character is made at the place just past
its first byte.

A value that nobody asked for is skipped, which is laxer than reading it: numbers may be
out of range and escapes may leave surrogates alone.
-/

namespace TemplateBundler.Json

/-- What is wrong with a text that is no JSON. -/
inductive Flaw where
  | endInValue
  | endInArray
  | endInObject
  | endInText
  | noValue
  /-- A word other than the three that are values. -/
  | badWord
  | noColon
  /-- A comma or the end of the array is due. -/
  | noCommaInArray
  /-- A comma or the end of the object is due. -/
  | noCommaInObject
  | trailingComma
  | trailingCharacters
  /-- A member does not begin with its name. -/
  | nameNotText
  | badNumber
  /-- A number too large for any format. -/
  | hugeNumber
  | badEscape
  /-- A surrogate that is not the first of a pair, or has no second. -/
  | loneSurrogate
  /-- The first surrogate of a pair without an escape after it. -/
  | unfinishedPair
  /-- A control character inside a string. -/
  | controlCharacter
  deriving DecidableEq, Repr

def Flaw.message : Flaw → String
  | endInValue => "EOF while parsing a value"
  | endInArray => "EOF while parsing a list"
  | endInObject => "EOF while parsing an object"
  | endInText => "EOF while parsing a string"
  | noValue => "expected value"
  | badWord => "expected ident"
  | noColon => "expected `:`"
  | noCommaInArray => "expected `,` or `]`"
  | noCommaInObject => "expected `,` or `\x7d`"
  | trailingComma => "trailing comma"
  | trailingCharacters => "trailing characters"
  | nameNotText => "key must be a string"
  | badNumber => "invalid number"
  | hugeNumber => "number out of range"
  | badEscape => "invalid escape"
  | loneSurrogate => "lone leading surrogate in hex escape"
  | unfinishedPair => "unexpected end of hex escape"
  | controlCharacter => "control character (\\u0000-\\u001F) found while parsing a string"

/-- Why a text could not be read. -/
inductive ReadCause where
  | flaw (flaw : Flaw)
  | misfit (error : SchemaError)

structure ReadError where
  cause : ReadCause
  place : Place

def ReadError.message (error : ReadError) : String :=
  let cause := match error.cause with
    | .flaw flaw => flaw.message
    | .misfit misfit => misfit.message words
  s!"{cause} at line {error.place.line} column {error.place.column}"

def fail {α : Type} (flaw : Flaw) (place : Place) : Except ReadError α :=
  .error ⟨.flaw flaw, place⟩

/-! ### Words -/

/-- Reads the characters of a word, of which the first was seen. -/
def readWord (word : List Char) (cursor : Cursor) : Except ReadError Cursor :=
  match word with
  | [] => .ok cursor
  | w :: word =>
    match cursor.peek? with
    | none => fail .endInValue cursor.place
    | some c => if c = w then readWord word cursor.advance else fail .badWord cursor.placeOfNext

/-! ### Numbers -/

/-- Takes digits into a significand of 64 bits as long as it holds them, and counts the digits
that it does not hold. -/
def takeSignificand (start : Nat) (digits : List Char) : Nat × Nat :=
  digits.foldl (fun (value, dropped) digit =>
    let next := value * 10 + (digit.toNat - '0'.toNat)
    if 0 < dropped || maxNatural < next then (value, dropped + 1) else (next, dropped)) (start, 0)

def powerOfTen (n : Nat) : Float := Float.ofScientific 1 false n

/-- Divides by powers of ten that may together be out of range. -/
def scaleDown : Nat → Float → Nat → Float
  | 0, _, _ => 0.0
  | steps + 1, x, n =>
    if n ≤ 308 then x / powerOfTen n else scaleDown steps (x / powerOfTen 308) (n - 308)

/-- The number `significand * 10 ^ exponent`, or none if it is too large. The significand is
rounded before it is scaled. -/
def floatOfParts? (significand : Nat) (exponent : Int) : Option Float :=
  let x := Float.ofNat significand
  if significand = 0 then some 0.0
  else if exponent < 0 then some (scaleDown 4 x exponent.natAbs)
  else if exponent ≤ 308 then
    let scaled := x * powerOfTen exponent.toNat
    if scaled.isInf then none else some scaled
  else none

def makeFloat (negative : Bool) (significand : Nat) (exponent : Int) (cursor : Cursor) :
    Except ReadError (Json × Cursor) :=
  match floatOfParts? significand exponent with
  | some x => .ok (.float (if negative then -x else x), cursor)
  | none => fail .hugeNumber cursor.place

/-- The greatest exponent that is computed with. -/
def maxExponent : Nat := 2147483647

/-- The exponent of these digits, or the number of digits up to the one that makes it too large. -/
def takeExponent (value taken : Nat) : List Char → Except Nat Nat
  | [] => .ok value
  | digit :: digits =>
    let next := value * 10 + (digit.toNat - '0'.toNat)
    if maxExponent < next then .error (taken + 1) else takeExponent next (taken + 1) digits

/-- Reads the exponent after its mark. One that is too large makes the number zero if it is
negative or the significand is zero. -/
def readExponent (negative : Bool) (significand : Nat) (exponent : Int) (cursor : Cursor) :
    Except ReadError (Json × Cursor) :=
  let (down, cursor) := match cursor.peek? with
    | some '+' => (false, cursor.advance)
    | some '-' => (true, cursor.advance)
    | _ => (false, cursor)
  match cursor.peek? with
  | none => fail .endInValue cursor.place
  | some c =>
    if !c.isDigit then fail .badNumber cursor.placeOfNext
    else
      let (digits, after) := cursor.takeDigits
      match takeExponent 0 0 digits with
      | .ok value =>
        makeFloat negative significand (if down then exponent - value else exponent + value) after
      | .error taken =>
        if significand ≠ 0 && !down then fail .hugeNumber (cursor.placeAfterBytes taken)
        else .ok (.float (if negative then -0.0 else 0.0), after)

/-- Reads what may follow the digits of a number after a point. -/
def readFraction (negative : Bool) (significand : Nat) (exponent : Int) (cursor : Cursor) :
    Except ReadError (Json × Cursor) :=
  let (digits, after) := cursor.takeDigits
  if digits.isEmpty then
    match cursor.peek? with
    | some _ => fail .badNumber cursor.placeOfNext
    | none => fail .endInValue cursor.place
  else
    let (value, dropped) := takeSignificand significand digits
    let exponent := exponent - (digits.length - dropped : Nat)
    match after.peek? with
    | some 'e' | some 'E' => readExponent negative value exponent after.advance
    | _ => makeFloat negative value exponent after

/-- Reads what may follow the digits of a number. Only digits that all fit the significand make
an integer, and a negative zero is none. -/
def readAfterDigits (negative : Bool) (significand dropped : Nat) (cursor : Cursor) :
    Except ReadError (Json × Cursor) :=
  match cursor.peek? with
  | some '.' => readFraction negative significand dropped cursor.advance
  | some 'e' | some 'E' => readExponent negative significand dropped cursor.advance
  | _ =>
    if 0 < dropped then makeFloat negative significand dropped cursor
    else if !negative then .ok (.integer significand, cursor)
    else if 0 < significand && significand ≤ 9223372036854775808 then
      .ok (.integer (-significand), cursor)
    else makeFloat true significand 0 cursor

/-- Reads a number, which begins with a sign or a digit. -/
def readNumber (cursor : Cursor) : Except ReadError (Json × Cursor) :=
  let (negative, cursor) := match cursor.peek? with
    | some '-' => (true, cursor.advance)
    | _ => (false, cursor)
  match cursor.peek? with
  | none => fail .endInValue cursor.place
  | some '0' =>
    match cursor.advance.peek? with
    | some c =>
      if c.isDigit then fail .badNumber cursor.advance.placeOfNext
      else readAfterDigits negative 0 0 cursor.advance
    | none => readAfterDigits negative 0 0 cursor.advance
  | some c =>
    if c.isDigit then
      let (digits, after) := cursor.takeDigits
      let (significand, dropped) := takeSignificand 0 digits
      readAfterDigits negative significand dropped after
    else fail .badNumber cursor.placeOfNext

/-! ### Strings -/

/-- Reads four digits of base 16. -/
def readHex (cursor : Cursor) : Except ReadError (Nat × Cursor) :=
  match cursor.rest with
  | a :: b :: c :: d :: _ =>
    match Text.natural? 16 [a, b, c, d] with
    | some unit => .ok (unit, cursor.advance.advance.advance.advance)
    | none => fail .badEscape (cursor.placeAfterBytes 4)
  | rest =>
    if Text.byteLength rest < 4 then fail .endInText (cursor.placeAfterBytes 4)
    else fail .badEscape (cursor.placeAfterBytes 4)

/-- Expects the next character of an escape that completes a pair of surrogates. -/
def readPairMark (mark : Char) (cursor : Cursor) : Except ReadError Cursor :=
  match cursor.peek? with
  | none => fail .endInText cursor.place
  | some c => if c = mark then .ok cursor.advance else fail .unfinishedPair cursor.placeOfNext

/-- Reads the digits of an escaped code unit, and those of the second one if it is the first of a
pair of surrogates. -/
def readUnits (cursor : Cursor) : Except ReadError (Char × Cursor) := do
  let (first, cursor) ← readHex cursor
  if 0xDC00 ≤ first && first ≤ 0xDFFF then fail .loneSurrogate cursor.place
  if first < 0xD800 || 0xDBFF < first then return (Char.ofNat first, cursor)
  let cursor ← readPairMark '\\' cursor
  let cursor ← readPairMark 'u' cursor
  let (second, cursor) ← readHex cursor
  if second < 0xDC00 || 0xDFFF < second then fail .loneSurrogate cursor.place
  return (Char.ofNat (0x10000 + (first - 0xD800) * 0x400 + (second - 0xDC00)), cursor)

/-- The character that an escape with this letter stands for. -/
def unescapeLetter? : Char → Option Char
  | '"' => some '"'
  | '\\' => some '\\'
  | '/' => some '/'
  | 'b' => some '\x08'
  | 'f' => some '\x0c'
  | 'n' => some '\n'
  | 'r' => some '\r'
  | 't' => some '\t'
  | _ => none

def readEscape (cursor : Cursor) : Except ReadError (Char × Cursor) :=
  match cursor.peek? with
  | none => fail .endInText cursor.place
  | some 'u' => readUnits cursor.advance
  | some letter =>
    match unescapeLetter? letter with
    | some c => .ok (c, cursor.advance)
    | none => fail .badEscape cursor.placeOfNext

/-- Reads a string after its opening quote. The fuel is more than the number of characters left, of
which each step takes at least one; `before` is what was read so far, in reverse. -/
def readCharacters : Nat → List Char → Cursor → Except ReadError (String × Cursor)
  | 0, _, cursor => fail .endInText cursor.place
  | fuel + 1, before, cursor =>
    match cursor.peek? with
    | none => fail .endInText cursor.place
    | some '"' => .ok (String.ofList before.reverse, cursor.advance)
    | some '\\' => do
      let (c, cursor) ← readEscape cursor.advance
      readCharacters fuel (c :: before) cursor
    | some c =>
      if c.toNat < 0x20 then fail .controlCharacter cursor.placeOfNext
      else readCharacters fuel (c :: before) cursor.advance

def readText (cursor : Cursor) : Except ReadError (String × Cursor) :=
  readCharacters (cursor.bound + 1) [] cursor

/-! ### Items and members -/

/-- Whether another item of an array follows. If so the cursor is left at the item, otherwise at
the end of the array. -/
def nextItem (first : Bool) (cursor : Cursor) : Except ReadError (Bool × Cursor) :=
  let cursor := cursor.skipBlanks
  match cursor.peek? with
  | none => fail .endInArray cursor.place
  | some ']' => .ok (false, cursor)
  | some c =>
    if first then .ok (true, cursor)
    else if c = ',' then
      let cursor := cursor.advance.skipBlanks
      match cursor.peek? with
      | none => fail .endInValue cursor.place
      | some ']' => fail .trailingComma cursor.placeOfNext
      | some _ => .ok (true, cursor)
    else fail .noCommaInArray cursor.placeOfNext

/-- Whether another member of an object follows. If so the cursor is left at the quote that opens
its name, otherwise at the end of the object. -/
def nextMember (first : Bool) (cursor : Cursor) : Except ReadError (Bool × Cursor) :=
  let cursor := cursor.skipBlanks
  match cursor.peek? with
  | none => fail .endInObject cursor.place
  | some '\x7d' => .ok (false, cursor)
  | some c =>
    if first then
      if c = '"' then .ok (true, cursor) else fail .nameNotText cursor.placeOfNext
    else if c = ',' then
      let cursor := cursor.advance.skipBlanks
      match cursor.peek? with
      | none => fail .endInValue cursor.place
      | some '"' => .ok (true, cursor)
      | some '\x7d' => fail .trailingComma cursor.placeOfNext
      | some _ => fail .nameNotText cursor.placeOfNext
    else fail .noCommaInObject cursor.placeOfNext

def readColon (cursor : Cursor) : Except ReadError Cursor :=
  let cursor := cursor.skipBlanks
  match cursor.peek? with
  | none => fail .endInObject cursor.place
  | some ':' => .ok cursor.advance
  | some _ => fail .noColon cursor.placeOfNext

/-- Reads the items of an array after its opening bracket, up to its end. The fuel is more than the
number of characters left; `before` holds the items read so far, in reverse. -/
def readItems {α : Type} (item : Cursor → Except ReadError (α × Cursor)) :
    Nat → List α → Cursor → Except ReadError (List α × Cursor)
  | 0, _, cursor => fail .endInArray cursor.place
  | fuel + 1, before, cursor => do
    let (more, cursor) ← nextItem before.isEmpty cursor
    if !more then return (before.reverse, cursor)
    let (value, cursor) ← item cursor
    readItems item fuel (value :: before) cursor

/-- Reads the members of an object after its opening brace, up to its end, with fuel as for items.
A member's name has been read when its reader takes over at the colon. -/
def readMembers {α : Type} (member : String → α → Cursor → Except ReadError (α × Cursor)) :
    Nat → Bool → α → Cursor → Except ReadError (α × Cursor)
  | 0, _, _, cursor => fail .endInObject cursor.place
  | fuel + 1, first, value, cursor => do
    let (more, cursor) ← nextMember first cursor
    if !more then return (value, cursor)
    let (name, cursor) ← readText cursor.advance
    let (value, cursor) ← member name value cursor
    readMembers member fuel false value cursor

/-- Reads the end of an array all of whose items were read. -/
def readArrayEnd (cursor : Cursor) : Except ReadError Cursor :=
  let cursor := cursor.skipBlanks
  match cursor.peek? with
  | none => fail .endInArray cursor.place
  | some ']' => .ok cursor.advance
  | some ',' =>
    let cursor := cursor.advance.skipBlanks
    if cursor.peek? = some ']' then fail .trailingComma cursor.placeOfNext
    else fail .trailingCharacters cursor.placeOfNext
  | some _ => fail .trailingCharacters cursor.placeOfNext

def readEnd (cursor : Cursor) : Except ReadError Unit :=
  let cursor := cursor.skipBlanks
  match cursor.peek? with
  | none => .ok ()
  | some _ => fail .trailingCharacters cursor.placeOfNext

/-! ### Skipping -/

def skipEscape (cursor : Cursor) : Except ReadError Cursor :=
  match cursor.peek? with
  | none => fail .endInText cursor.place
  | some 'u' => return (← readHex cursor.advance).2
  | some letter =>
    if (unescapeLetter? letter).isSome then .ok cursor.advance
    else fail .badEscape cursor.placeOfNext

/-- Skips a string after its opening quote, with fuel as for reading one. -/
def skipCharacters : Nat → Cursor → Except ReadError Cursor
  | 0, cursor => fail .endInText cursor.place
  | fuel + 1, cursor =>
    match cursor.peek? with
    | none => fail .endInText cursor.place
    | some '"' => .ok cursor.advance
    | some '\\' => do skipCharacters fuel (← skipEscape cursor.advance)
    | some c =>
      if c.toNat < 0x20 then fail .controlCharacter cursor.place
      else skipCharacters fuel cursor.advance

def skipText (cursor : Cursor) : Except ReadError Cursor :=
  skipCharacters (cursor.bound + 1) cursor

def skipExponent (cursor : Cursor) : Except ReadError Cursor :=
  let cursor := match cursor.peek? with
    | some '+' | some '-' => cursor.advance
    | _ => cursor
  match cursor.peek? with
  | some c => if c.isDigit then .ok cursor.takeDigits.2 else fail .badNumber cursor.placeOfNext
  | none => fail .badNumber cursor.place

/-- Skips the digits after a point and an exponent. -/
def skipFraction (cursor : Cursor) : Except ReadError Cursor :=
  let (digits, after) := cursor.takeDigits
  if digits.isEmpty then fail .badNumber cursor.placeOfNext
  else match after.peek? with
    | some 'e' | some 'E' => skipExponent after.advance
    | _ => .ok after

/-- Skips a number, which begins with a sign or a digit. -/
def skipNumber (cursor : Cursor) : Except ReadError Cursor :=
  let cursor := if cursor.peek? = some '-' then cursor.advance else cursor
  match cursor.peek? with
  | none => fail .badNumber cursor.place
  | some c =>
    if !c.isDigit then fail .badNumber cursor.placeOfNext
    else
      let after := if c = '0' then cursor.advance else cursor.takeDigits.2
      match after.peek? with
      | some '.' => skipFraction after.advance
      | some 'e' | some 'E' => skipExponent after.advance
      | some d => if d.isDigit then fail .badNumber after.placeOfNext else .ok after
      | none => .ok after

mutual

/-- Skips a value. The fuel is more than the number of characters left. -/
def skipValue : Nat → Cursor → Except ReadError Cursor
  | 0, cursor => fail .endInValue cursor.place
  | fuel + 1, cursor =>
    let cursor := cursor.skipBlanks
    match cursor.peek? with
    | none => fail .endInValue cursor.place
    | some 'n' => readWord ['u', 'l', 'l'] cursor.advance
    | some 't' => readWord ['r', 'u', 'e'] cursor.advance
    | some 'f' => readWord ['a', 'l', 's', 'e'] cursor.advance
    | some '"' => skipText cursor.advance
    | some '[' =>
      let inner := cursor.advance.skipBlanks
      match inner.peek? with
      | none => fail .endInArray inner.place
      | some ']' => .ok inner.advance
      | some _ => skipItems fuel inner
    | some '\x7b' =>
      let inner := cursor.advance.skipBlanks
      match inner.peek? with
      | none => fail .endInObject inner.place
      | some '\x7d' => .ok inner.advance
      | some _ => skipMembers fuel inner
    | some c =>
      if c = '-' || c.isDigit then skipNumber cursor else fail .noValue cursor.placeOfNext

/-- Skips the items of an array, of which there is at least one, and the end of the array. -/
def skipItems : Nat → Cursor → Except ReadError Cursor
  | 0, cursor => fail .endInArray cursor.place
  | fuel + 1, cursor => do
    let after := (← skipValue fuel cursor).skipBlanks
    match after.peek? with
    | some ',' => skipItems fuel after.advance
    | some ']' => .ok after.advance
    | some _ => fail .noCommaInArray after.placeOfNext
    | none => fail .endInArray after.place

/-- Skips the members of an object, of which there is at least one, and the end of the
object. -/
def skipMembers : Nat → Cursor → Except ReadError Cursor
  | 0, cursor => fail .endInObject cursor.place
  | fuel + 1, cursor => do
    let name := cursor.skipBlanks
    match name.peek? with
    | none => fail .endInObject name.place
    | some '"' =>
      let colon := (← skipText name.advance).skipBlanks
      match colon.peek? with
      | none => fail .endInObject colon.place
      | some ':' =>
        let after := (← skipValue fuel colon.advance).skipBlanks
        match after.peek? with
        | some ',' => skipMembers fuel after.advance
        | some '\x7d' => .ok after.advance
        | some _ => fail .noCommaInObject after.placeOfNext
        | none => fail .endInObject after.place
      | some _ => fail .noColon colon.placeOfNext
    | some _ => fail .nameNotText name.placeOfNext

end

/-- Skips a value, whatever it is. -/
def skip (cursor : Cursor) : Except ReadError Cursor :=
  skipValue (2 * cursor.bound + 2) cursor

end TemplateBundler.Json

import TemplateBundler.Text.Slice

/-! # Places in a YAML text

A cursor is what is left of a text together with the mark reached in it. Lines and
columns are counted in characters from 0. A carriage return with a line feed after it
is one break, and three characters beyond ASCII end lines too.

A text is read in blocks of bytes. A block with a character that may not occur cannot
be read, but what stands in the blocks before it can, up to where the block is needed.
-/

namespace TemplateBundler.Yaml

structure Mark where
  /-- The bytes before the place. -/
  index : Nat := 0
  /-- The line breaks before the place. -/
  line : Nat := 0
  /-- The characters between the last break and the place. -/
  column : Nat := 0
  deriving DecidableEq, Repr

/-- How complaints name the place: not at all if it is the very first. -/
def Mark.shown (mark : Mark) : String :=
  if mark.line = 0 && mark.column = 0 then ""
  else s!" at line {mark.line + 1} column {mark.column + 1}"

def isBreak (c : Char) : Bool :=
  c = '\n' || c = '\r' || c = '\u0085' || c = '\u2028' || c = '\u2029'

/-- Whether the character separates words on a line. -/
def isSpacing (c : Char) : Bool := c = ' ' || c = '\t'

/-- Whether a word ends before this character; `none` is the end of the text. -/
def endsWord : Option Char → Bool
  | none => true
  | some c => isSpacing c || isBreak c

/-- Whether the character can be part of a name. -/
def isNameChar (c : Char) : Bool := c.isAlphanum || c = '_' || c = '-'

/-- Whether the character may occur in a text at all. -/
def isAllowed (c : Char) : Bool :=
  let n := c.toNat
  c = '\t' || c = '\n' || c = '\r' || (0x20 ≤ n && n ≤ 0x7E) || n = 0x85 ||
    (0xA0 ≤ n && n ≤ 0xD7FF) || (0xE000 ≤ n && n ≤ 0xFFFD) || 0x10000 ≤ n

def byteOrderMark : Char := '\uFEFF'

/-- What is left of a text, and where it begins. -/
structure Cursor where
  rest : List Char
  mark : Mark := {}
  /-- Whether more follows, which cannot be read. -/
  cut : Bool := false
  /-- A number that the characters do not exceed: that of the whole text. -/
  bound : Nat := rest.length
  deriving DecidableEq, Repr

namespace Cursor

/-! ### Reading in blocks -/

/-- The most bytes that are read at once. -/
def blockSize : Nat := 16384

/-- The characters before the first block that cannot be read, and whether there is one. A block
holds whole characters only. The fuel is the number of blocks. -/
def takeReadable : Nat → List Char → List Char × Bool
  | 0, chars => (chars, false)
  | fuel + 1, chars =>
    let block := Text.takeBytes blockSize chars
    if block = [] then ([], false)
    else if block.all isAllowed then
      let (more, cut) := takeReadable fuel (chars.drop block.length)
      (block ++ more, cut)
    else ([], true)

/-- The cursor at the beginning of a text. -/
def ofText (text : String) : Cursor :=
  let chars := text.toList
  let (rest, cut) := takeReadable (chars.length + 1) chars
  { rest, cut }

/-- Whether this many characters can be seen, of which any beyond the end of the text are
missing. -/
def canSee (cursor : Cursor) (n : Nat) : Bool := !cursor.cut || cursor.rest.drop (n - 1) ≠ []

/-! ### Going on -/

def peek? (cursor : Cursor) : Option Char := cursor.rest.head?

/-- The character `n` places on, if there is one. -/
def peekAt? (cursor : Cursor) (n : Nat) : Option Char := cursor.rest[n]?

/-- The cursor after one character, which is no break. -/
def advance (cursor : Cursor) : Cursor :=
  match cursor.rest with
  | [] => cursor
  | c :: rest =>
    let mark := cursor.mark
    { cursor with
      rest
      mark := { mark with index := mark.index + c.utf8Size, column := mark.column + 1 } }

/-- Goes past a break, if one comes next, and tells what it means in a scalar: two of the breaks
stand for themselves, the others for a line feed. -/
def takeBreak (cursor : Cursor) : List Char × Cursor :=
  let after (size : Nat) (rest : List Char) : Cursor :=
    let mark := cursor.mark
    { cursor with rest, mark := { index := mark.index + size, line := mark.line + 1, column := 0 } }
  match cursor.rest with
  | '\r' :: '\n' :: rest => (['\n'], after 2 rest)
  | c :: rest =>
    if c = '\u2028' || c = '\u2029' then ([c], after c.utf8Size rest)
    else if isBreak c then (['\n'], after c.utf8Size rest)
    else ([], cursor)
  | [] => ([], cursor)

/-- Takes the characters from the front of which the test holds; it may hold of no break. -/
def takeWhile (test : Char → Bool) (cursor : Cursor) : List Char × Cursor :=
  let taken := cursor.rest.takeWhile test
  let mark := cursor.mark
  (taken, { cursor with
    rest := cursor.rest.drop taken.length
    mark := { mark with
      index := taken.foldl (fun index c => index + c.utf8Size) mark.index
      column := mark.column + taken.length } })

/-- Goes past the characters of which the test holds. -/
def skipWhile (test : Char → Bool) (cursor : Cursor) : Cursor := (cursor.takeWhile test).2

/-- Goes past a comment, if one comes next, up to the end of its line. -/
def skipComment (cursor : Cursor) : Cursor :=
  if cursor.peek? = some '#' then cursor.skipWhile (!isBreak ·) else cursor

/-- Whether three of this character stand alone at the start of the line. -/
def atMarker (cursor : Cursor) (c : Char) : Bool :=
  cursor.mark.column = 0 && endsWord (cursor.peekAt? 3) &&
    cursor.rest.take 3 == [c, c, c]

/-- Whether a marker between documents comes next. -/
def atDocumentMarker (cursor : Cursor) : Bool := cursor.atMarker '-' || cursor.atMarker '.'

end Cursor

end TemplateBundler.Yaml

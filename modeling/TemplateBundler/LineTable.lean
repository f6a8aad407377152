import TemplateBundler.Text.Slice

/-! # Line tables

A line table holds the byte offsets at which a text breaks into lines, so that a line
can be found without scanning the text again. Lines are counted from 1. A line feed
ends a line; a trailing line feed opens no further line; a carriage return right
before the line feed, or at the end of the text, belongs to the terminator.

A table may also come from outside and fit no text at all. Every operation then still
answers, by the numbers in the table: a range that is no slice of the text has no
text.
-/

namespace TemplateBundler

structure LineTable where
  /-- The byte offsets of the line feeds. -/
  breaks : List Nat
  length : Nat
  deriving DecidableEq, Repr

/-- A range of bytes: `stop` is the offset just past the last one. -/
structure ByteRange where
  start : Nat
  stop : Nat
  deriving DecidableEq, Repr

namespace LineTable

/-- The offsets of the line feeds in characters of which the first stands at `offset`. -/
def lineFeedsFrom (offset : Nat) : List Char → List Nat
  | [] => []
  | c :: cs =>
    if c = '\n' then offset :: lineFeedsFrom (offset + 1) cs
    else lineFeedsFrom (offset + c.utf8Size) cs

def ofText (text : String) : LineTable where
  breaks := lineFeedsFrom 0 text.toList
  length := Text.byteLength text.toList

/-- Whether the last line feed is the last byte. A table without line feeds is terminated
when the text is empty. -/
def isTerminated (table : LineTable) : Bool :=
  match table.breaks.getLast? with
  | some last => last + 1 == table.length
  | none => table.length == 0

def lineCount (table : LineTable) : Nat :=
  if table.isTerminated then table.breaks.length else table.breaks.length + 1

/-- The offset at which a line begins, by the break before it. -/
def lineStart (table : LineTable) (line : Nat) : Nat :=
  if line ≤ 1 then 0 else (table.breaks[line - 2]?.map (· + 1)).getD 0

/-- The offset of the break that ends a line, or the end of the text. -/
def lineBreak (table : LineTable) (line : Nat) : Nat :=
  table.breaks[line - 1]?.getD table.length

/-- Whether a carriage return stands at the offset. -/
def returnsAt (text : String) (offset : Nat) : Bool :=
  match Text.splitAt? offset text.toList with
  | some (_, '\r' :: _) => true
  | _ => false

/-- The bytes of a line without its terminator, or `none` if there is no such line. -/
def lineRange? (table : LineTable) (line : Nat) (text : String) : Option ByteRange :=
  if line = 0 || table.lineCount < line then none
  else
    let start := table.lineStart line
    let stop := table.lineBreak line
    if start < stop && returnsAt text (stop - 1) then some ⟨start, stop - 1⟩
    else some ⟨start, stop⟩

/-- The text of a line without its terminator, or `none` if there is no such line or its
range is no slice of the text. -/
def lineText? (table : LineTable) (line : Nat) (text : String) : Option String := do
  let range ← table.lineRange? line text
  let found ← Text.slice? range.start range.stop text.toList
  return String.ofList found

end LineTable

end TemplateBundler

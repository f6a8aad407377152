import TemplateBundler.Text.Bytes
import TemplateBundler.Yaml.Scalar

/-! # YAML tokens

Tokens are the marks and words of a text, with the structure of blocks made explicit:
deeper indentation opens a block, shallower indentation closes it. That a scalar is the
key of a mapping is only seen at the colon after it; the tokens that open the key, and
perhaps a block, are then put in front of the scalar. So a token is settled only when
no key can start at it any more, and in a malformed text only the settled tokens count.
-/

namespace TemplateBundler.Yaml

/-- A mark or word of a text. -/
inductive Token where
  | textEnd
  /-- The version that a document is written for. -/
  | version (major minor : Nat)
  | tagShorthand (handle meaning : String)
  | documentStart
  | documentEnd
  | blockSequenceStart
  | blockMappingStart
  | blockEnd
  | flowSequenceStart
  | flowSequenceEnd
  | flowMappingStart
  | flowMappingEnd
  | blockEntry
  | flowEntry
  | key
  | value
  | alias (name : String)
  | anchor (name : String)
  /-- The tag of the node that follows, as a shorthand and the rest. -/
  | tag (handle rest : String)
  | scalar (text : String) (style : Style)
  deriving DecidableEq, Repr

structure Lexeme where
  token : Token
  start : Mark
  stop : Mark
  deriving DecidableEq, Repr

/-! ### Names, tags and directives -/

namespace Token

/-- Whether a name may be followed by the character. -/
def endsName (c? : Option Char) : Bool :=
  endsWord c? || c?.any fun c =>
    c = '?' || c = ':' || c = ',' || c = ']' || c = '\x7d' || c = '%' || c = '@' || c = '`'

def takeName (cursor : Cursor) : Option (String × Cursor) :=
  let (name, after) := cursor.takeWhile isNameChar
  if name = [] || !endsName after.peek? then none else some (String.ofList name, after)

/-- Whether the character may occur in a tag; some only inside angle brackets. -/
def isTagChar (verbatim : Bool) (c : Char) : Bool :=
  isNameChar c || ";/?:@&=+$.%!~*'()".toList.contains c ||
    (verbatim && (c = ',' || c = '[' || c = ']'))

/-- The number of bytes of a character of which this is the first. -/
def encodedLength? (first : Nat) : Option Nat :=
  if first < 0x80 then some 1
  else if first < 0xC0 then none
  else if first < 0xE0 then some 2
  else if first < 0xF0 then some 3
  else if first < 0xF8 then some 4
  else none

/-- Reads a byte written as a percent sign and two digits. -/
def takeEncodedByte (cursor : Cursor) : Option (Nat × Cursor) :=
  match cursor.rest with
  | '%' :: a :: b :: _ => do
    return (← Text.natural? 16 [a, b], Nat.repeat Cursor.advance 3 cursor)
  | _ => none

/-- Reads a character written as its bytes. The bytes of an overlong form, of a surrogate and of
what is past the last code point are let through, but stand for no character. -/
def takeEncodedChar (cursor : Cursor) : Option (List Char × Cursor) := do
  let (first, cursor) ← takeEncodedByte cursor
  let length ← encodedLength? first
  let step (state : Bytes × Cursor) (_ : Nat) : Option (Bytes × Cursor) := do
    let (byte, cursor) ← takeEncodedByte state.2
    if byte / 0x40 ≠ 2 then none
    return (state.1 ++ [byte.toUInt8], cursor)
  let (bytes, cursor) ← (List.range (length - 1)).foldlM step ([first.toUInt8], cursor)
  return (bytes.shown.toList, cursor)

/-- Reads the characters of a tag, in reverse onto `before`. -/
def takeTagChars (verbatim : Bool) : Nat → List Char → Cursor → Option (List Char × Cursor)
  | 0, before, cursor => some (before, cursor)
  | fuel + 1, before, cursor => do
    let some c := cursor.peek? | return (before, cursor)
    if !isTagChar verbatim c then return (before, cursor)
    else if c = '%' then
      let (chars, cursor) ← takeEncodedChar cursor
      takeTagChars verbatim fuel (chars.reverse ++ before) cursor
    else takeTagChars verbatim fuel (c :: before) cursor.advance

/-- Reads the part of a tag that is no shorthand. Without a lead it may not be empty. It counts
up to a null character only. -/
def takeTagRest (verbatim : Bool) (lead : List Char) (cursor : Cursor) :
    Option (List Char × Cursor) := do
  let (text, after) ← takeTagChars verbatim (cursor.bound + 1) [] cursor
  if lead = [] && text = [] then none
  return ((lead.drop 1 ++ text.reverse).takeWhile (· ≠ '\x00'), after)

/-- Reads a shorthand: an exclamation mark, and perhaps a name and another mark. -/
def takeHandle (cursor : Cursor) : Option (List Char × Cursor) := do
  if cursor.peek? ≠ some '!' then none
  let (name, after) := cursor.advance.takeWhile isNameChar
  if after.peek? = some '!' then return ('!' :: name ++ ['!'], after.advance)
  return ('!' :: name, after)

/-- Whether a shorthand is one for sure: it ends in a second mark. -/
def isNamedHandle (handle : List Char) : Bool := 1 < handle.length && handle.getLast? = some '!'

def takeTag (inFlow : Bool) (cursor : Cursor) : Option (Token × Cursor) := do
  let (handle, rest, after) ←
    if cursor.peekAt? 1 = some '<' then do
      let (rest, after) ← takeTagRest true [] cursor.advance.advance
      if after.peek? ≠ some '>' then none
      pure ([], rest, after.advance)
    else do
      let (handle, after) ← takeHandle cursor
      if isNamedHandle handle then
        let (rest, after) ← takeTagRest false [] after
        pure (handle, rest, after)
      else
        let (rest, after) ← takeTagRest false handle after
        pure (if rest = [] then ([], ['!'], after) else (['!'], rest, after))
  if !endsWord after.peek? && !(inFlow && after.peek? = some ',') then none
  return (.tag (String.ofList handle) (String.ofList rest), after)

def takeNumber (cursor : Cursor) : Option (Nat × Cursor) :=
  let (digits, after) := cursor.takeWhile Char.isDigit
  if digits = [] || 9 < digits.length then none
  else some (digits.foldl (fun n c => n * 10 + (c.toNat - '0'.toNat)) 0, after)

/-- Reads what a version directive says. -/
def takeVersion (cursor : Cursor) : Option (Token × Cursor) := do
  let (major, after) ← takeNumber (cursor.skipWhile isSpacing)
  if after.peek? ≠ some '.' then none
  let (minor, after) ← takeNumber after.advance
  return (.version major minor, after)

/-- Reads what a tag directive says. -/
def takeShorthand (cursor : Cursor) : Option (Token × Cursor) := do
  let (handle, after) ← takeHandle (cursor.skipWhile isSpacing)
  if handle ≠ ['!'] && !isNamedHandle handle then none
  if !after.peek?.any isSpacing then none
  let (meaning, after) ← takeTagRest true [] (after.skipWhile isSpacing)
  if !endsWord after.peek? then none
  return (.tagShorthand (String.ofList handle) (String.ofList meaning), after)

/-- Reads a directive after its percent sign, and the rest of its line. -/
def takeDirective (cursor : Cursor) : Option (Token × Cursor) := do
  let (name, after) := cursor.takeWhile isNameChar
  if !endsWord after.peek? then none
  let (token, after) ←
    if name = ['Y', 'A', 'M', 'L'] then takeVersion after
    else if name = ['T', 'A', 'G'] then takeShorthand after
    else none
  let after := (after.skipWhile isSpacing).skipComment
  if !after.peek?.all isBreak then none
  return (token, after.takeBreak.2)

end Token

/-! ### Tokens in context -/

/-- A place at which a key may turn out to start. -/
structure PendingKey where
  /-- Whether nothing but a key can stand there. -/
  required : Bool
  number : Nat
  mark : Mark
  depth : Nat
  deriving DecidableEq, Repr

/-- How far a text has been read into tokens. -/
structure Tokens where
  cursor : Cursor
  /-- The tokens so far, the last first. -/
  lexemes : List Lexeme := []
  /-- The number of the tokens so far, which is the number that the next one gets. -/
  count : Nat := 0
  keyAllowed : Bool := true
  depth : Nat := 0
  /-- The keys that may have started, the last first, at most one at each depth. -/
  pending : List PendingKey := []
  /-- The indentation of the block around; outside of all blocks it is less than any column. -/
  indent : Int := -1
  /-- The indentations of the blocks around that block. -/
  outer : List Int := []

namespace Tokens

def inFlow (tokens : Tokens) : Bool := 0 < tokens.depth

def pendingKey? (tokens : Tokens) : Option PendingKey :=
  tokens.pending.head?.filter (·.depth = tokens.depth)

/-- The tokens without that key. -/
def clearPending (tokens : Tokens) : Tokens :=
  { tokens with pending := tokens.pending.dropWhile (·.depth = tokens.depth) }

/-- Adds a token that ends where reading goes on. -/
def push (tokens : Tokens) (token : Token) (start : Mark) (after : Cursor) : Tokens :=
  { tokens with
    cursor := after
    lexemes := { token, start, stop := after.mark } :: tokens.lexemes
    count := tokens.count + 1 }

/-- Adds a token whose end shows only at the character after it. -/
def pushSeen (tokens : Tokens) (token : Token) (start : Mark) (after : Cursor) : Option Tokens :=
  if after.canSee 1 then some (tokens.push token start after) else none

/-- Adds a token of this many characters that comes next. -/
def pushMark (tokens : Tokens) (token : Token) (length : Nat) : Tokens :=
  tokens.push token tokens.cursor.mark (length.repeat Cursor.advance tokens.cursor)

/-- Adds an empty token before the one with this number. -/
def insertMark (tokens : Tokens) (token : Token) (number : Nat) (mark : Mark) : Tokens :=
  let lexeme : Lexeme := { token, start := mark, stop := mark }
  { tokens with
    lexemes := tokens.lexemes.insertIdx (tokens.count - number) lexeme
    count := tokens.count + 1 }

/-- Goes past blanks, comments and breaks. Tabs count as blanks where no key may start, and in
brackets. Any line may begin with a byte order mark. The fuel is the number of characters left. -/
def skipToToken : Nat → Tokens → Tokens
  | 0, tokens => tokens
  | fuel + 1, tokens =>
    let cursor := tokens.cursor
    let cursor :=
      if cursor.mark.column = 0 && cursor.peek? = some byteOrderMark then cursor.advance else cursor
    let tabs := tokens.inFlow || !tokens.keyAllowed
    let cursor := (cursor.skipWhile fun c => c = ' ' || (tabs && c = '\t')).skipComment
    if cursor.peek?.any isBreak then
      skipToToken fuel
        { tokens with
          cursor := cursor.takeBreak.2
          keyAllowed := tokens.keyAllowed || !tokens.inFlow }
    else { tokens with cursor }

/-- The most bytes that a key may take. -/
def maxKeyLength : Nat := 1024

/-- Gives up pending keys that are on an earlier line or too long. A required key cannot be given
up. -/
def dropStale (tokens : Tokens) : Option Tokens := do
  let mark := tokens.cursor.mark
  let (stale, live) := tokens.pending.partition fun key =>
    key.mark.line < mark.line || key.mark.index + maxKeyLength < mark.index
  if stale.any (·.required) then none
  return { tokens with pending := live }

/-- Gives up the pending key inside the innermost brackets, unless it is required. -/
def dropPending (tokens : Tokens) : Option Tokens :=
  if tokens.pendingKey?.any (·.required) then none else some tokens.clearPending

/-- Notes that a key may start here. -/
def markPending (tokens : Tokens) : Option Tokens := do
  if !tokens.keyAllowed then return tokens
  let mark := tokens.cursor.mark
  let key : PendingKey :=
    { required := !tokens.inFlow && tokens.indent = mark.column
      number := tokens.count
      mark
      depth := tokens.depth }
  let tokens ← tokens.dropPending
  return { tokens with pending := key :: tokens.pending }

/-- Opens a block at the column, unless one is open there. The token goes before the one with
this number, or to the end. -/
def openBlock (tokens : Tokens) (column : Nat) (number : Nat) (token : Token) (mark : Mark) :
    Tokens :=
  if tokens.inFlow || (column : Int) ≤ tokens.indent then tokens
  else
    let tokens := tokens.insertMark token number mark
    { tokens with indent := column, outer := tokens.indent :: tokens.outer }

/-- Closes the blocks that are indented more than the column. -/
def closeBlocks (column : Int) (tokens : Tokens) : Tokens :=
  if tokens.inFlow then tokens else go tokens.outer tokens
where
  go : List Int → Tokens → Tokens
    | [], tokens => tokens
    | indent :: outer, tokens =>
      if tokens.indent ≤ column then tokens
      else go outer { tokens.pushMark .blockEnd 0 with indent, outer }

/-! ### One token -/

/-- Reads the end of the text, which begins a new line. -/
def takeEnd (tokens : Tokens) : Option Tokens := do
  let mark := tokens.cursor.mark
  let mark := if mark.column = 0 then mark else { mark with line := mark.line + 1, column := 0 }
  let tokens ← (closeBlocks (-1) { tokens with cursor := { tokens.cursor with mark } }).dropPending
  return { tokens with keyAllowed := false }.pushMark .textEnd 0

def takeDirective (tokens : Tokens) : Option Tokens := do
  let tokens ← (closeBlocks (-1) tokens).dropPending
  let (token, after) ← Token.takeDirective tokens.cursor.advance
  { tokens with keyAllowed := false }.pushSeen token tokens.cursor.mark after

def takeDocumentMark (token : Token) (tokens : Tokens) : Option Tokens := do
  let tokens ← (closeBlocks (-1) tokens).dropPending
  return { tokens with keyAllowed := false }.pushMark token 3

def takeFlowStart (token : Token) (tokens : Tokens) : Option Tokens := do
  let tokens ← tokens.markPending
  return { tokens with depth := tokens.depth + 1, keyAllowed := true }.pushMark token 1

def takeFlowEnd (token : Token) (tokens : Tokens) : Option Tokens := do
  let tokens ← tokens.dropPending
  return { tokens with depth := tokens.depth - 1, keyAllowed := false }.pushMark token 1

def takeFlowEntry (tokens : Tokens) : Option Tokens := do
  return { ← tokens.dropPending with keyAllowed := true }.pushMark .flowEntry 1

def takeBlockEntry (tokens : Tokens) : Option Tokens := do
  if !tokens.inFlow && !tokens.keyAllowed then none
  let mark := tokens.cursor.mark
  let tokens := tokens.openBlock mark.column tokens.count .blockSequenceStart mark
  return { ← tokens.dropPending with keyAllowed := true }.pushMark .blockEntry 1

def takeKey (tokens : Tokens) : Option Tokens := do
  if !tokens.inFlow && !tokens.keyAllowed then none
  let mark := tokens.cursor.mark
  let tokens := tokens.openBlock mark.column tokens.count .blockMappingStart mark
  return { ← tokens.dropPending with keyAllowed := !tokens.inFlow }.pushMark .key 1

/-- Reads the colon before a value. A pending key turns out to be one. -/
def takeValue (tokens : Tokens) : Option Tokens := do
  match tokens.pendingKey? with
  | some key =>
    let tokens := tokens.insertMark .key key.number key.mark
    let tokens := tokens.openBlock key.mark.column key.number .blockMappingStart key.mark
    return { tokens.clearPending with keyAllowed := false }.pushMark .value 1
  | none =>
    if !tokens.inFlow && !tokens.keyAllowed then none
    let mark := tokens.cursor.mark
    let tokens := tokens.openBlock mark.column tokens.count .blockMappingStart mark
    return { tokens with keyAllowed := !tokens.inFlow }.pushMark .value 1

def takeName (token : String → Token) (tokens : Tokens) : Option Tokens := do
  let tokens ← tokens.markPending
  let (name, after) ← Token.takeName tokens.cursor.advance
  { tokens with keyAllowed := false }.pushSeen (token name) tokens.cursor.mark after

def takeTag (tokens : Tokens) : Option Tokens := do
  let tokens ← tokens.markPending
  let (token, after) ← Token.takeTag tokens.inFlow tokens.cursor
  { tokens with keyAllowed := false }.pushSeen token tokens.cursor.mark after

def takeBlock (style : Style) (tokens : Tokens) : Option Tokens := do
  let tokens ← tokens.dropPending
  let (text, after) ← Scalar.takeBlock (style == .folded) tokens.indent tokens.cursor.advance
  { tokens with keyAllowed := true }.pushSeen (.scalar text style) tokens.cursor.mark after

def takeQuoted (quote : Char) (tokens : Tokens) : Option Tokens := do
  let tokens ← tokens.markPending
  let (text, after) ← Scalar.takeQuoted quote tokens.cursor.advance
  return { tokens with keyAllowed := false }.push (.scalar text .quoted) tokens.cursor.mark after

def takePlain (tokens : Tokens) : Option Tokens := do
  let tokens ← tokens.markPending
  let (text, broken, after) ← Scalar.takePlain tokens.inFlow tokens.indent tokens.cursor
  { tokens with keyAllowed := broken }.pushSeen (.scalar text .plain) tokens.cursor.mark after

/-- Whether the character can only start something other than a plain scalar. -/
def isIndicator (c : Char) : Bool := "-?:,[]\x7b\x7d#&*!|>'\"%@`".toList.contains c

/-- Whether a plain scalar starts with this character before that one. -/
def startsPlain (inFlow : Bool) (c : Char) (next : Option Char) : Bool :=
  (!endsWord (some c) && !isIndicator c) ||
    (c = '-' && !next.any isSpacing) ||
    (!inFlow && (c = '?' || c = ':') && !endsWord next)

def takeToken (tokens : Tokens) : Option Tokens :=
  let cursor := tokens.cursor
  match cursor.peek? with
  | none => tokens.takeEnd
  | some c =>
    let next := cursor.peekAt? 1
    let marked := endsWord next
    if c = '%' && cursor.mark.column = 0 then tokens.takeDirective
    else if cursor.atMarker '-' then tokens.takeDocumentMark .documentStart
    else if cursor.atMarker '.' then tokens.takeDocumentMark .documentEnd
    else if c = '[' then tokens.takeFlowStart .flowSequenceStart
    else if c = '\x7b' then tokens.takeFlowStart .flowMappingStart
    else if c = ']' then tokens.takeFlowEnd .flowSequenceEnd
    else if c = '\x7d' then tokens.takeFlowEnd .flowMappingEnd
    else if c = ',' then tokens.takeFlowEntry
    else if c = '-' && marked then tokens.takeBlockEntry
    else if c = '?' && (tokens.inFlow || marked) then tokens.takeKey
    else if c = ':' && (tokens.inFlow || marked) then tokens.takeValue
    else if c = '*' then tokens.takeName .alias
    else if c = '&' then tokens.takeName .anchor
    else if c = '!' then tokens.takeTag
    else if c = '|' && !tokens.inFlow then tokens.takeBlock .literal
    else if c = '>' && !tokens.inFlow then tokens.takeBlock .folded
    else if c = '\'' || c = '"' then tokens.takeQuoted c
    else if startsPlain tokens.inFlow c next then tokens.takePlain
    else none

/-- Reads the next token, with the ends of blocks that come before it. The longest mark shows only
at the fourth character. -/
def next (tokens : Tokens) : Option Tokens := do
  let tokens ← (skipToToken (tokens.cursor.bound + 1) tokens).dropStale
  if !tokens.cursor.canSee 4 then none
  takeToken (closeBlocks tokens.cursor.mark.column tokens)

/-- The tokens at which no key can start any more. -/
def settled (tokens : Tokens) : List Lexeme :=
  let first := (tokens.pending.map (·.number)).foldl min tokens.count
  (tokens.lexemes.drop (tokens.count - first)).reverse

def isComplete (tokens : Tokens) : Bool := tokens.lexemes.head?.any (·.token == .textEnd)

/-- Reads tokens up to the end of the text, or up to where it is malformed. A token settles none of
those before it if a required key is given up because of it. -/
def readAll : Nat → Tokens → List Lexeme
  | 0, tokens => tokens.settled
  | fuel + 1, tokens =>
    match tokens.next.bind dropStale with
    | none => tokens.settled
    | some tokens =>
      if tokens.isComplete then tokens.lexemes.reverse else readAll fuel tokens

/-- The tokens of a text. They end in the end of the text unless it is malformed. -/
def ofText (text : String) : List Lexeme :=
  let cursor := Cursor.ofText text
  readAll (cursor.bound + 2) { cursor }

end Tokens

end TemplateBundler.Yaml

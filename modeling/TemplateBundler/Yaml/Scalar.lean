import TemplateBundler.Text.Digits
import TemplateBundler.Yaml.Cursor

/-! # YAML scalars

A scalar is a piece of text, written plain, between quotes, or as a block of lines. In
the first two a single line break between words reads as a space, and further ones as
themselves.

Readers answer `none` for text that is malformed, and where they would have to look at
what cannot be read.
-/

namespace TemplateBundler.Yaml

/-- How a scalar was written. -/
inductive Style where
  | plain
  | quoted
  /-- As a block that keeps its lines. -/
  | literal
  /-- As a block whose lines are joined. -/
  | folded
  deriving DecidableEq, Repr

namespace Scalar

/-! ### Gaps between words -/

/-- White space between two words of a scalar. -/
structure Gap where
  /-- The spacing before the first break, in reverse. -/
  spacing : List Char := []
  first : List Char := []
  /-- The breaks after it, in reverse. -/
  more : List Char := []
  /-- Whether there is a break. -/
  broken : Bool := false

/-- What a gap stands for, in reverse. -/
def Gap.fold (gap : Gap) : List Char :=
  if !gap.broken then gap.spacing
  else if gap.first = ['\n'] then (if gap.more = [] then [' '] else gap.more)
  else gap.more ++ gap.first

/-- Reads white space. After a break a tab may not stand before `column`. The fuel is more than
the number of characters left. -/
def takeGap (column : Nat) : Nat → Gap → Cursor → Option (Gap × Cursor)
  | 0, gap, cursor => some (gap, cursor)
  | fuel + 1, gap, cursor =>
    match cursor.peek? with
    | none => some (gap, cursor)
    | some c =>
      if isSpacing c then
        if gap.broken then
          if c = '\t' && cursor.mark.column < column then none
          else takeGap column fuel gap cursor.advance
        else takeGap column fuel { gap with spacing := c :: gap.spacing } cursor.advance
      else if isBreak c then
        let (text, after) := cursor.takeBreak
        if gap.broken then takeGap column fuel { gap with more := text ++ gap.more } after
        else takeGap column fuel { gap with spacing := [], first := text, broken := true } after
      else some (gap, cursor)

/-! ### Plain scalars -/

/-- Whether the character separates items inside brackets. -/
def isFlowIndicator (c : Char) : Bool :=
  c = ',' || c = '[' || c = ']' || c = '\x7b' || c = '\x7d'

/-- Reads one word of a plain scalar, in reverse onto `before`. Inside brackets a colon may not
stand right before an indicator. -/
def takePlainWord (inFlow : Bool) : Nat → List Char → Cursor → Option (List Char × Cursor)
  | 0, before, cursor => some (before, cursor)
  | fuel + 1, before, cursor =>
    match cursor.peek? with
    | none => some (before, cursor)
    | some c =>
      let next := cursor.peekAt? 1
      if endsWord (some c) then some (before, cursor)
      else if inFlow && c = ':' && next.any (fun d => isFlowIndicator d || d = '?') then none
      else if c = ':' && endsWord next then some (before, cursor)
      else if inFlow && isFlowIndicator c then some (before, cursor)
      else takePlainWord inFlow fuel (c :: before) cursor.advance

/-- Reads a plain scalar, whose further lines stand at `column` or after it, in reverse onto
`before`. It is also told whether the scalar was left on a new line. -/
def takePlainWords (inFlow : Bool) (column : Nat) :
    Nat → List Char → Gap → Cursor → Option (List Char × Bool × Cursor)
  | 0, before, gap, cursor => some (before, gap.broken, cursor)
  | fuel + 1, before, gap, cursor => do
    if !cursor.canSee 4 then none
    if cursor.atDocumentMarker || cursor.peek? = some '#' then
      return (before, gap.broken, cursor)
    let (word, after) ← takePlainWord inFlow (cursor.bound + 1) [] cursor
    if !after.canSee 2 then none
    let (before, gap) :=
      if word = [] then (before, gap) else (word ++ gap.fold ++ before, {})
    if !endsWord after.peek? || after.peek? = none then return (before, gap.broken, after)
    let (gap, after) ← takeGap column (after.bound + 1) gap after
    if !inFlow && after.mark.column < column then return (before, gap.broken, after)
    takePlainWords inFlow column fuel before gap after

/-- Reads a plain scalar inside a block at this indentation. It is also told whether the scalar
was left on a new line. -/
def takePlain (inFlow : Bool) (indent : Int) (cursor : Cursor) :
    Option (String × Bool × Cursor) := do
  let (text, broken, after) ←
    takePlainWords inFlow (indent + 1).toNat (cursor.bound + 1) [] {} cursor
  return (String.ofList text.reverse, broken, after)

/-! ### Quoted scalars -/

/-- The character that an escape with this letter stands for. -/
def unescapeLetter? : Char → Option Char
  | '0' => some '\x00'
  | 'a' => some '\x07'
  | 'b' => some '\x08'
  | 't' | '\t' => some '\t'
  | 'n' => some '\n'
  | 'v' => some '\x0b'
  | 'f' => some '\x0c'
  | 'r' => some '\r'
  | 'e' => some '\x1b'
  | ' ' => some ' '
  | '"' => some '"'
  | '/' => some '/'
  | '\\' => some '\\'
  | 'N' => some '\u0085'
  | '_' => some '\u00a0'
  | 'L' => some '\u2028'
  | 'P' => some '\u2029'
  | _ => none

/-- The number of digits that follow the letter of an escape for a code point. -/
def escapeLength? : Char → Option Nat
  | 'x' => some 2
  | 'u' => some 4
  | 'U' => some 8
  | _ => none

def takeEscape (cursor : Cursor) : Option (Char × Cursor) := do
  let letter ← cursor.peek?
  let cursor := cursor.advance
  match escapeLength? letter with
  | some length =>
    let digits := cursor.rest.take length
    if digits.length < length then none
    let n ← Text.natural? 16 digits
    if (0xD800 ≤ n && n ≤ 0xDFFF) || 0x10FFFF < n then none
    return (Char.ofNat n, length.repeat Cursor.advance cursor)
  | none => return (← unescapeLetter? letter, cursor)

/-- Reads one word of a quoted scalar, in reverse onto `before`. It is also told whether the word
was ended by a break after a backslash. -/
def takeQuotedWord (quote : Char) : Nat → List Char → Cursor → Option (List Char × Bool × Cursor)
  | 0, before, cursor => some (before, false, cursor)
  | fuel + 1, before, cursor => do
    let some c := cursor.peek? | return (before, false, cursor)
    if endsWord (some c) then return (before, false, cursor)
    else if c = quote then
      if quote = '\'' && cursor.peekAt? 1 = some quote then
        takeQuotedWord quote fuel (c :: before) cursor.advance.advance
      else return (before, false, cursor)
    else if c = '\\' && quote = '"' then
      if (cursor.peekAt? 1).any isBreak then return (before, true, cursor.advance.takeBreak.2)
      let (c, cursor) ← takeEscape cursor.advance
      takeQuotedWord quote fuel (c :: before) cursor
    else takeQuotedWord quote fuel (c :: before) cursor.advance

/-- Reads a quoted scalar up to its closing quote, in reverse onto `before`. -/
def takeQuotedWords (quote : Char) : Nat → List Char → Cursor → Option (List Char × Cursor)
  | 0, _, _ => none
  | fuel + 1, before, cursor => do
    if !cursor.canSee 4 || cursor.atDocumentMarker || cursor.peek? = none then none
    let (before, broken, after) ← takeQuotedWord quote (cursor.bound + 1) before cursor
    if !broken && !after.canSee 2 then none
    if after.peek? = some quote then return (before, after)
    let (gap, after) ← takeGap 0 (after.bound + 1) { broken } after
    takeQuotedWords quote fuel (gap.fold ++ before) after

def takeQuoted (quote : Char) (cursor : Cursor) : Option (String × Cursor) := do
  let (text, after) ← takeQuotedWords quote (cursor.bound + 2) [] cursor
  return (String.ofList text.reverse, after.advance)

/-! ### Block scalars -/

/-- What becomes of the breaks at the end of a block. -/
inductive Chomping where
  | strip
  | clip
  | keep
  deriving DecidableEq, Repr

/-- The header of a block: what becomes of its end, and how far it is indented if that is said. -/
structure BlockHeader where
  /-- What becomes of the end. -/
  chomping : Chomping := .clip
  /-- The indentation beyond that of the block around it. -/
  increment : Option Nat := none

def takeChomping (cursor : Cursor) : Option (Chomping × Cursor) :=
  match cursor.peek? with
  | some '+' => some (.keep, cursor.advance)
  | some '-' => some (.strip, cursor.advance)
  | _ => none

/-- Reads a digit of the header, if one comes next. It may not be zero. -/
def takeIncrement (cursor : Cursor) : Option (Option Nat × Cursor) :=
  match cursor.peek? with
  | some c =>
    if c = '0' then none
    else if c.isDigit then some (some (c.toNat - '0'.toNat), cursor.advance)
    else some (none, cursor)
  | none => some (none, cursor)

/-- Reads the header, the sign and the digit in either order. -/
def takeHeader (cursor : Cursor) : Option (BlockHeader × Cursor) := do
  match takeChomping cursor with
  | some (chomping, cursor) =>
    let (increment, cursor) ← takeIncrement cursor
    return ({ chomping, increment }, cursor)
  | none =>
    let (increment, after) ← takeIncrement cursor
    if increment.isNone then return ({}, cursor)
    match takeChomping after with
    | some (chomping, after) => return ({ chomping, increment }, after)
    | none => return ({ increment }, after)

/-- Reads indentation and empty lines. An indentation that is not known yet is found from the
deepest of the lines, and is more than that of the block around. The breaks are collected in
reverse in `breaks`. -/
def takeEmptyLines (outer : Int) (indent : Option Nat) :
    Nat → Nat → List Char → Cursor → Option (List Char × Nat × Cursor)
  | 0, _, _, _ => none
  | fuel + 1, deepest, breaks, cursor =>
    let inside (column : Nat) : Bool := indent.all (column < ·)
    let spaces := cursor.rest.takeWhile (· = ' ')
    let count := match indent with
      | some indent => min spaces.length (indent - cursor.mark.column)
      | none => spaces.length
    let after := count.repeat Cursor.advance cursor
    let deepest := max deepest after.mark.column
    if inside after.mark.column && after.peek? = some '\t' then none
    else if after.peek?.any isBreak then
      let (text, after) := after.takeBreak
      takeEmptyLines outer indent fuel deepest (text ++ breaks) after
    else
      let found := indent.getD (max 1 (max deepest (outer + 1).toNat))
      some (breaks.reverse, found, after)

/-- Reads the lines of a block. `end_` holds the break that ended the line before, `empty` those
of the empty lines after it, and `spaced` tells whether that line began with spacing. What was
read is kept in reverse. -/
def takeBlockLines (fold : Bool) (outer : Int) (indent : Nat) :
    Nat → List Char → List Char → List Char → Bool → Cursor →
    Option (List Char × List Char × List Char × Cursor)
  | 0, _, _, _, _, _ => none
  | fuel + 1, before, end_, empty, spaced, cursor => do
    if cursor.mark.column ≠ indent || cursor.peek? = none then return (before, end_, empty, cursor)
    let spacedNow := cursor.peek?.any isSpacing
    let joined :=
      if fold && end_ = ['\n'] && !spaced && !spacedNow then
        (if empty = [] then [' '] else empty)
      else end_ ++ empty
    let (line, after) := cursor.takeWhile (!isBreak ·)
    let (end_, after) := after.takeBreak
    let (empty, _, after) ←
      takeEmptyLines outer (some indent) (after.bound + 1) 0 [] after
    takeBlockLines fold outer indent fuel (line.reverse ++ joined.reverse ++ before) end_ empty
      spacedNow after

/-- Reads a block scalar after its indicator, inside a block at the indentation `outer`. -/
def takeBlock (fold : Bool) (outer : Int) (cursor : Cursor) : Option (String × Cursor) := do
  let (header, cursor) ← takeHeader cursor
  let cursor := (cursor.skipWhile isSpacing).skipComment
  if !cursor.peek?.all isBreak then none
  let cursor := cursor.takeBreak.2
  let indent := header.increment.map fun n => (max outer 0).toNat + n
  let (empty, indent, cursor) ←
    takeEmptyLines outer indent (cursor.bound + 1) 0 [] cursor
  let (text, end_, empty, cursor) ←
    takeBlockLines fold outer indent (cursor.bound + 1) [] [] empty false cursor
  let tail := match header.chomping with
    | .strip => []
    | .clip => end_
    | .keep => end_ ++ empty
  return (String.ofList (text.reverse ++ tail), cursor)

end Scalar

end TemplateBundler.Yaml

/-! # Places in a JSON text

A cursor is what is left of a text together with the place reached in it. Lines are
counted from 1; the column is the number of bytes read on the line, so it is 0 at the
start of a line.
-/

namespace TemplateBundler.Json

/-- A place in a text: the line, and the number of bytes before the place on that line. -/
structure Place where
  /-- The line, counted from 1. -/
  line : Nat := 1
  /-- The bytes before the place on its line. -/
  column : Nat := 0
  deriving DecidableEq, Repr

/-- The place after a character. -/
def Place.after (place : Place) (c : Char) : Place :=
  if c = '\n' then ⟨place.line + 1, 0⟩ else ⟨place.line, place.column + c.utf8Size⟩

/-- What is left of a text, and where it begins. -/
structure Cursor where
  rest : List Char
  place : Place := {}
  /-- A number that they do not exceed: that of the whole text. -/
  bound : Nat := rest.length
  deriving DecidableEq, Repr

namespace Cursor

def peek? (cursor : Cursor) : Option Char := cursor.rest.head?

/-- The cursor after the next character. -/
def advance (cursor : Cursor) : Cursor :=
  match cursor.rest with
  | [] => cursor
  | c :: rest => { cursor with rest, place := cursor.place.after c }

/-- The place `n` bytes on, which may lie inside a character, or the end of the text. -/
def placeAfterBytes (n : Nat) (cursor : Cursor) : Place :=
  go n cursor.rest cursor.place
where
  /-- Walks over whole characters and stops inside the one that holds the last byte. -/
  go : Nat → List Char → Place → Place
    | 0, _, place => place
    | _ + 1, [], place => place
    | n + 1, c :: cs, place =>
      if c.utf8Size ≤ n + 1 then go (n + 1 - c.utf8Size) cs (place.after c)
      else ⟨place.line, place.column + (n + 1)⟩

/-- The place of the next byte: just past it, where complaints about it are made. -/
def placeOfNext (cursor : Cursor) : Place := cursor.placeAfterBytes 1

/-- The cursor after the blanks of JSON: space, tab, line feed and carriage return. -/
def skipBlanks (cursor : Cursor) : Cursor :=
  go cursor.rest cursor.place
where
  go : List Char → Place → Cursor
    | c :: cs, place =>
      if c = ' ' || c = '\n' || c = '\t' || c = '\r' then go cs (place.after c)
      else { cursor with rest := c :: cs, place }
    | [], place => { cursor with rest := [], place }

/-- Drops decimal digits from the front and returns them. -/
def takeDigits (cursor : Cursor) : List Char × Cursor :=
  let digits := cursor.rest.takeWhile Char.isDigit
  (digits, { cursor with
    rest := cursor.rest.drop digits.length
    place := { cursor.place with column := cursor.place.column + digits.length } })

end Cursor

end TemplateBundler.Json

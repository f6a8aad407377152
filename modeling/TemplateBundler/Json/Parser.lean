import TemplateBundler.Json.Reader

/-! # Reading JSON values

Any JSON text as a value. Members keep their order, and a name that is given twice is
kept twice.
-/

namespace TemplateBundler.Json

/-- Reads a value. The fuel is more than the number of characters left. -/
def readValue : Nat → Cursor → Except ReadError (Json × Cursor)
  | 0, cursor => fail .endInValue cursor.place
  | fuel + 1, cursor => do
    let cursor := cursor.skipBlanks
    match cursor.peek? with
    | none => fail .endInValue cursor.place
    | some 'n' => return (.null, ← readWord ['u', 'l', 'l'] cursor.advance)
    | some 't' => return (.flag true, ← readWord ['r', 'u', 'e'] cursor.advance)
    | some 'f' => return (.flag false, ← readWord ['a', 'l', 's', 'e'] cursor.advance)
    | some '"' =>
      let (value, cursor) ← readText cursor.advance
      return (.text value, cursor)
    | some '[' =>
      let (items, cursor) ← readItems (readValue fuel) (fuel + 1) [] cursor.advance
      return (.array items, cursor.advance)
    | some '\x7b' =>
      let member (name : String) (members : List (String × Json)) (cursor : Cursor) := do
        let (value, cursor) ← readValue fuel (← readColon cursor)
        return ((name, value) :: members, cursor)
      let (members, cursor) ← readMembers member (fuel + 1) true [] cursor.advance
      return (.object members.reverse, cursor.advance)
    | some c => if c = '-' || c.isDigit then readNumber cursor else fail .noValue cursor.placeOfNext

/-- The value that a text stands for. -/
def parse (text : String) : Except ReadError Json := do
  let cursor : Cursor := { rest := text.toList }
  let (value, cursor) ← readValue (cursor.bound + 1) cursor
  readEnd cursor
  return value

end TemplateBundler.Json

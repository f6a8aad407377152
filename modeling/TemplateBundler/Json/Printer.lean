import TemplateBundler.Decimal.Notation
import TemplateBundler.Json.Basic
import TemplateBundler.Json.Literal

/-! # Printing JSON

Values are printed without blanks, members in order.
-/

namespace TemplateBundler.Json

/-- How floating-point numbers are written: in full from 10⁻⁵ up to below 10¹⁶, otherwise with
an exponent. -/
def floatLayout : Decimal.Notation where
  plainFrom := -5
  plainTo := 15
  pointZero := true
  tie := .toEven
  signedZero := true
  infinity := "inf"

/-- The pieces of text that make up a value, which come before those already there. -/
def pieces : Json → List String → List String
  | null, rest => "null" :: rest
  | flag true, rest => "true" :: rest
  | flag false, rest => "false" :: rest
  | integer value, rest => toString value :: rest
  | float value, rest => floatLayout.write value :: rest
  | text value, rest => literal value :: rest
  | array items, rest => "[" :: itemPieces items ("]" :: rest)
  | object members, rest => "\x7b" :: memberPieces members ("\x7d" :: rest)
where
  /-- The pieces of a list of values, with commas between them. -/
  itemPieces : List Json → List String → List String
    | [], rest => rest
    | [item], rest => pieces item rest
    | item :: items, rest => pieces item ("," :: itemPieces items rest)
  /-- The pieces of a list of members, with commas between them. -/
  memberPieces : List (String × Json) → List String → List String
    | [], rest => rest
    | [(name, value)], rest => literal name :: ":" :: pieces value rest
    | (name, value) :: members, rest =>
      literal name :: ":" :: pieces value ("," :: memberPieces members rest)

def render (json : Json) : String := String.join (pieces json [])

end TemplateBundler.Json

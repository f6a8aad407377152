import TemplateBundler.Json.Printer
import TemplateBundler.Proofs.Json.Literal

/-! # The text of a value

The characters of a printed value, from those of its parts: arrays and objects hold the texts
of their items and members with commas between them.
-/

namespace TemplateBundler.Json

/-- The characters of a printed value. -/
def chars (json : Json) : List Char := json.render.toList

/-- The characters of a printed member. -/
def memberChars (member : String × Json) : List Char :=
  (literal member.1).toList ++ ':' :: member.2.chars

/-- The characters of a member whose value has this text. -/
def entryChars (entry : String × List Char) : List Char :=
  (literal entry.1).toList ++ ':' :: entry.2

/-- Texts behind each other, each with a comma before it; only the very first has none. -/
def listed (first : Bool) : List (List Char) → List Char
  | [] => []
  | front :: others => (if first then [] else [',']) ++ (front ++ listed false others)

mutual

theorem toList_join_pieces : ∀ (json : Json) (rest : List String),
    (String.join (pieces json rest)).toList = json.chars ++ (String.join rest).toList
  | .null, rest => by simp [chars, render, pieces]
  | .flag true, rest => by simp [chars, render, pieces]
  | .flag false, rest => by simp [chars, render, pieces]
  | .integer _, rest => by simp [chars, render, pieces]
  | .float _, rest => by simp [chars, render, pieces]
  | .text _, rest => by simp [chars, render, pieces]
  | .array items, rest => by simp [chars, render, pieces, toList_join_itemPieces items]
  | .object members, rest => by simp [chars, render, pieces, toList_join_memberPieces members]

theorem toList_join_itemPieces : ∀ (items : List Json) (rest : List String),
    (String.join (pieces.itemPieces items rest)).toList =
      listed true (items.map chars) ++ (String.join rest).toList
  | [], rest => rfl
  | [item], rest => by simp [pieces.itemPieces, toList_join_pieces item, listed]
  | item :: next :: items, rest => by
      simp [pieces.itemPieces, toList_join_pieces item, toList_join_itemPieces (next :: items),
        listed]

theorem toList_join_memberPieces : ∀ (members : List (String × Json)) (rest : List String),
    (String.join (pieces.memberPieces members rest)).toList =
      listed true (members.map memberChars) ++ (String.join rest).toList
  | [], rest => rfl
  | [(name, value)], rest => by
      simp [pieces.memberPieces, toList_join_pieces value, memberChars, listed]
  | (name, value) :: next :: members, rest => by
      simp [pieces.memberPieces, toList_join_pieces value,
        toList_join_memberPieces (next :: members), memberChars, listed]

end

theorem chars_null : null.chars = ['n', 'u', 'l', 'l'] := rfl

theorem chars_true : (flag true).chars = ['t', 'r', 'u', 'e'] := rfl

theorem chars_false : (flag false).chars = ['f', 'a', 'l', 's', 'e'] := rfl

theorem chars_integer (n : Int) : (integer n).chars = (toString n).toList := by
  simp [chars, render, pieces]

theorem chars_text (s : String) : (text s).chars = (literal s).toList := by
  simp [chars, render, pieces]

theorem chars_array (items : List Json) :
    (array items).chars = '[' :: (listed true (items.map chars) ++ [']']) := by
  rw [chars, render, pieces, String.join_cons, String.toList_append, toList_join_itemPieces]
  rfl

theorem chars_object (members : List (String × Json)) :
    (object members).chars = '\x7b' :: (listed true (members.map memberChars) ++ ['\x7d']) := by
  rw [chars, render, pieces, String.join_cons, String.toList_append, toList_join_memberPieces]
  rfl

end TemplateBundler.Json

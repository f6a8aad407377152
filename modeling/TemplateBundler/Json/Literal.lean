/-! # JSON string literals

A string literal is the text between double quotes, with the quote, the backslash and
the control characters below U+0020 escaped. Everything else stands for itself,
including the slash and characters that other notations escape.
-/

namespace TemplateBundler.Json

/-- The character that follows a backslash for those with an escape of their own. -/
def escapeLetter? : Char → Option Char
  | '"' => some '"'
  | '\\' => some '\\'
  | '\x08' => some 'b'
  | '\x0c' => some 'f'
  | '\n' => some 'n'
  | '\r' => some 'r'
  | '\t' => some 't'
  | _ => none

/-- A digit of base 16, in lower case. -/
def hexDigit (n : Nat) : Char := Nat.digitChar n

/-- How a character is written inside a literal. -/
def escape (c : Char) : List Char :=
  match escapeLetter? c with
  | some letter => ['\\', letter]
  | none =>
    if c.toNat < 0x20 then ['\\', 'u', '0', '0', hexDigit (c.toNat / 16), hexDigit (c.toNat % 16)]
    else [c]

/-- The literal of a text. -/
def literal (s : String) : String := String.ofList ('"' :: s.toList.flatMap escape ++ ['"'])

end TemplateBundler.Json

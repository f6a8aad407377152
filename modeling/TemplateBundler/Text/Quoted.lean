import TemplateBundler.Text.Printable

/-! # Quoted text for people

Text in double quotes, such that every character can be seen: the quote, the
backslash and the common control characters have a letter, and what does not show
on its own is written as its code point in hexadecimal between braces.
-/

namespace TemplateBundler.Text

/-- The code point in lower-case hexadecimal, without padding. -/
def hexadecimal (n : Nat) : List Char := Nat.toDigits 16 n

/-- How one character is written between the quotes. -/
def quoteChar (c : Char) : List Char :=
  match c with
  | '\x00' => ['\\', '0']
  | '\t' => ['\\', 't']
  | '\r' => ['\\', 'r']
  | '\n' => ['\\', 'n']
  | '"' => ['\\', '"']
  | '\\' => ['\\', '\\']
  | c =>
    if extendsGrapheme c || !isPrintable c then
      ['\\', 'u', '\x7b'] ++ hexadecimal c.toNat ++ ['\x7d']
    else [c]

/-- The text in double quotes. A single quote stands for itself. -/
def quoted (s : String) : String :=
  String.ofList ('"' :: s.toList.flatMap quoteChar ++ ['"'])

end TemplateBundler.Text

import TemplateBundler.Decimal.Scientific
import TemplateBundler.Schema.Error
import TemplateBundler.Yaml.Scalar

/-! # What plain scalars stand for

A plain scalar may be nothing, a truth value or a number; otherwise it is text. Only a
few spellings count: a number that begins with needless zeros is text, and so is a
number too large for a floating-point one.
-/

namespace TemplateBundler.Yaml.Word

/-- Whether the word stands for nothing. -/
def isNothing (text : String) : Bool := ["null", "Null", "NULL", "~"].contains text

/-- The truth value that the word stands for. -/
def flag? (text : String) : Option Bool :=
  if ["true", "True", "TRUE"].contains text then some true
  else if ["false", "False", "FALSE"].contains text then some false
  else none

/-- The word without its sign. -/
def unsigned : List Char → List Char
  | '+' :: rest => rest
  | '-' :: rest => rest
  | cs => cs

/-- Whether the word is digits of which the first is a needless zero. -/
def isPadded (cs : List Char) : Bool :=
  match unsigned cs with
  | '0' :: c :: rest => (c :: rest).all Char.isDigit
  | _ => false

/-- The number that a word without a sign stands for, in base 16, 8, 2 or 10. -/
def magnitude? (cs : List Char) : Option Nat :=
  match cs with
  | '0' :: 'x' :: digits => Text.natural? 16 digits
  | '0' :: 'o' :: digits => Text.natural? 8 digits
  | '0' :: 'b' :: digits => Text.natural? 2 digits
  | digits => Text.natural? 10 digits

/-- The integer that the word stands for. -/
def integer? (cs : List Char) : Option Int :=
  if isPadded cs then none
  else match cs with
    | '-' :: rest => (magnitude? rest).map fun n => -(n : Int)
    | '+' :: rest => (magnitude? rest).map Int.ofNat
    | rest => (magnitude? rest).map Int.ofNat

/-- The floating-point number that the word stands for. -/
def float? (cs : List Char) : Option Float :=
  let (negative, rest) := match cs with
    | '-' :: rest => (true, rest)
    | '+' :: rest => (false, rest)
    | rest => (false, rest)
  let signed (x : Float) := if negative then -x else x
  if [".inf", ".Inf", ".INF"].contains (String.ofList rest) then some (signed (1.0 / 0.0))
  else if [".nan", ".NaN", ".NAN"].contains (String.ofList cs) then some (0.0 / 0.0)
  else (((Decimal.Scientific.read? rest).map (·.toFloat)).filter (!·.isInf)).map signed

/-- What a plain scalar without a tag is found to be. -/
def found (text : String) : Found :=
  let cs := text.toList
  if cs = [] || isNothing text then .nothing
  else match flag? text with
    | some value => .flag value
    | none =>
      match (integer? cs).filter Found.isInteger with
      | some value => .integer value
      | none =>
        match if isPadded cs then none else float? cs with
        | some value => .float value
        | none => .text text

end TemplateBundler.Yaml.Word

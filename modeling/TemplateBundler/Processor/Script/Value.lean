import TemplateBundler.Decimal.Notation
import TemplateBundler.Decimal.Scientific
import TemplateBundler.Json.Printer
import TemplateBundler.Text.Blank

/-! # Values of the script's language

The language takes a JSON value that is written out in a program for a value of its own,
writes it as JSON again, and makes text of it.

An object that is written out with a member named `__proto__` does not get that member:
if its value is a list or an object, the new object inherits from it, and if it is
`null`, the new object inherits nothing at all. What inherits from a list is joined like
one, with whatever length and items are seen on it.
-/

namespace TemplateBundler.Processor.Script

/-! ### Writing -/

/-- How the language writes numbers: in full from 10⁻⁶ up to below 10²¹. -/
def numberLayout : Decimal.Notation where
  plainFrom := -6
  plainTo := 20
  pointZero := false
  tie := .toEven
  signedZero := false
  infinity := "Infinity"

/-- The text of a number that was given as an integer; the language has floating-point numbers
only. -/
def integerText (n : Int) : String := numberLayout.write (Float.ofInt n)

/-- Whether a name is a number that counts as the place in a list. -/
def placeName? (name : String) : Option Nat := do
  let n ← name.toNat?
  if toString n = name && n < 4294967295 then some n else none

/-- Members in the order in which the language keeps them: places first, by number. -/
def orderMembers {α : Type} (members : List (String × α)) : List (String × α) :=
  let places := members.filterMap fun (name, value) =>
    (placeName? name).map fun n => (n, name, value)
  let sorted := places.mergeSort fun a b => a.1 ≤ b.1
  sorted.map (·.2) ++ members.filter fun m => (placeName? m.1).isNone

/-- The name under which an object that is written out says what it inherits from. -/
def protoName : String := "__proto__"

mutual

/-- The value as the language keeps it: every number is written as its numbers are. -/
def pieces : Json → List String
  | .null => ["null"]
  | .flag value => [if value then "true" else "false"]
  | .integer n => [integerText n]
  | .float x => [if x.isFinite then numberLayout.write x else "null"]
  | .text s => [Json.literal s]
  | .array items => ["[", ",".intercalate (itemTexts items), "]"]
  | .object members =>
    ["\x7b", ",".intercalate ((orderMembers (memberTexts members)).map (·.2)), "\x7d"]

def itemTexts : List Json → List String
  | [] => []
  | item :: items => String.join (pieces item) :: itemTexts items

/-- The texts of members, by name. -/
def memberTexts : List (String × Json) → List (String × String)
  | [] => []
  | (name, value) :: members =>
    if name = protoName then memberTexts members
    else (name, Json.literal name ++ ":" ++ String.join (pieces value)) :: memberTexts members

end

def stringify (json : Json) : String := String.join (pieces json)

/-- Whether the language takes the value for true. -/
def isTruthy : Json → Bool
  | .null => false
  | .flag value => value
  | .integer n => n != 0
  | .float x => !(x == 0.0) && !x.isNaN
  | .text s => s != ""
  | .array _ | .object _ => true

/-! ### Numbers from text -/

/-- Whether the language takes the character for white space. -/
def isSpace (c : Char) : Bool := c = '\uFEFF' || (Text.isBlank c && c ≠ '\u0085')

/-- The number of these characters, which may have a sign. -/
def signedNumber? : List Char → Option Float
  | '-' :: cs => (magnitude? cs).map fun x => -x
  | '+' :: cs => magnitude? cs
  | cs => magnitude? cs
where
  /-- The number of these characters, which have no sign. -/
  magnitude? (cs : List Char) : Option Float :=
    if cs = "Infinity".toList then some (1.0 / 0.0)
    else (Decimal.Scientific.read? cs).map (·.toFloat)

/-- The number that a text stands for. No text is zero, and what is no number is none in the
floating-point sense. -/
def readNumber (text : String) : Float :=
  let cs := ((text.toList.dropWhile isSpace).reverse.dropWhile isSpace).reverse
  let number? := match cs with
    | [] => some 0.0
    | '0' :: base :: digits =>
      let natural (base : Nat) : Option Float := (Text.natural? base digits).map Float.ofNat
      if base = 'x' || base = 'X' then natural 16
      else if base = 'o' || base = 'O' then natural 8
      else if base = 'b' || base = 'B' then natural 2
      else signedNumber? cs
    | cs => signedNumber? cs
  number?.getD (0.0 / 0.0)

/-! ### What is seen on an object -/

/-- A value together with the text that the language makes of it, if it can make one. -/
structure Member where
  value : Json
  text? : Option String

/-- The text that the value has among joined ones: nothing has no text there. -/
def Member.joined? (member : Member) : Option String :=
  match member.value with
  | .null => some ""
  | _ => member.text?

/-- The number that the language makes of the value. -/
def Member.number? (member : Member) : Option Float :=
  match member.value with
  | .null => some 0.0
  | .flag value => some (if value then 1.0 else 0.0)
  | .integer n => some (Float.ofInt n)
  | .float x => some x
  | _ => member.text?.map readNumber

/-- What an object inherits from in the end. -/
inductive Ancestor where
  /-- What all objects inherit from. -/
  | object
  | list
  | nothing
  deriving DecidableEq, Repr

/-- What is seen on an object: its own members, then the inherited ones. -/
structure View where
  members : List (String × Member) := []
  /-- What the object inherits from in the end. -/
  ancestor : Ancestor := .object

namespace View

/-- The member that is seen under a name. -/
def member? (view : View) (name : String) : Option Member := view.members.lookup name

/-- The longest text that the language can make. -/
def maxText : Nat := 536870888

/-- The number of items that a list of this length has. -/
def itemCount (length : Float) : Nat := length.toUInt64.toNat

/-- The text of an object as a list: its items joined by commas. -/
def listText? (view : View) : Option String := do
  let count := itemCount (← (← view.member? "length").number?)
  if maxText + 1 < count then none
  let texts ← (List.range count).mapM fun n =>
    (view.member? (toString n)).elim (some "") Member.joined?
  return ",".intercalate texts

/-- The text of an object, if one can be made. No member that is written out can be called, so one
that stands in for a function of the language is in the way of it. -/
def text? (view : View) : Option String :=
  if (view.member? "toString").isSome then none
  else match view.ancestor with
    | .nothing => none
    | .object => some "[object Object]"
    | .list =>
      if (view.member? "join").isSome then some "[object Object]" else view.listText?

end View

mutual

/-- The text that the language makes of a value, if it can make one. -/
def toText? : Json → Option String
  | .null => some "null"
  | .flag value => some (if value then "true" else "false")
  | .integer n => some (integerText n)
  | .float x => some (numberLayout.write x)
  | .text s => some s
  | .array items => (joinedTexts? items).map (",".intercalate ·)
  | .object members => (viewOf members).text?

def joinedTexts? : List Json → Option (List String)
  | [] => some []
  | .null :: items => (joinedTexts? items).map ("" :: ·)
  | item :: items => do return (← toText? item) :: (← joinedTexts? items)

/-- The members that a list has: its items from the place `n` on, and its length. -/
def listMembers (n : Nat) : List Json → List (String × Member)
  | [] => [("length", ⟨.natural n, none⟩)]
  | item :: items => (toString n, ⟨item, toText? item⟩) :: listMembers (n + 1) items

/-- What is seen on an object that is written out with these members. -/
def viewOf : List (String × Json) → View
  | [] => {}
  | (name, value) :: members =>
    let view := viewOf members
    if name = protoName then
      match value with
      | .array items =>
        { members := view.members ++ listMembers 0 items, ancestor := .list }
      | .object inherited =>
        let above := viewOf inherited
        { members := view.members ++ above.members, ancestor := above.ancestor }
      | .null => { view with ancestor := .nothing }
      | _ => view
    else { view with members := (name, ⟨value, toText? value⟩) :: view.members }

end

/-- The member that is seen on a value under a name that is no place in a list. -/
def member? (name : String) : Json → Option Json
  | .object members => ((viewOf members).member? name).map (·.value)
  | _ => none

end TemplateBundler.Processor.Script

/-! # Control sequences of terminals

A text may hold sequences that a terminal takes for commands instead of showing them:
they begin with the escape character and end as their kind says. What is printed where
no terminal reads it has them taken out, together with single control characters; tabs,
line feeds, form feeds and carriage returns stay.

Sequences are made of bytes. A byte that has no meaning where it stands changes nothing,
so a sequence left open takes in whatever follows it.
-/

namespace TemplateBundler.Text

/-- Where in a control sequence a text stands. -/
inductive ControlState where
  /-- In none: characters are shown. -/
  | ground
  | escape
  /-- Before the last byte of an escape sequence. -/
  | escapeIntermediate
  /-- In a sequence with parameters. -/
  | parameters
  /-- At the beginning of a string for a device. -/
  | device
  /-- In the parameters of a string for a device. -/
  | deviceParameters
  /-- Before the byte that ends the head of a string for a device. -/
  | deviceIntermediate
  /-- In a string that its terminator ends. -/
  | controlString
  /-- In a string for the system, which a bell ends. -/
  | systemString
  deriving DecidableEq, Repr

namespace ControlState

/-- The byte of the escape character. -/
def escapeByte : UInt8 := 0x1B

/-- The bytes that give up any sequence. -/
def cancelBytes : List UInt8 := [0x18, 0x1A]

/-- What follows the escape character. -/
def introduced (b : UInt8) : ControlState :=
  if b = 0x5B then parameters
  else if b = 0x50 then device
  else if b = 0x5D then systemString
  else if b = 0x58 || b = 0x5E || b = 0x5F then controlString
  else ground

/-- Where the text stands after one more byte. -/
def step (state : ControlState) (b : UInt8) : ControlState :=
  let within (least greatest : UInt8) : Bool := least ≤ b && b ≤ greatest
  if b = escapeByte then escape
  else if cancelBytes.contains b then ground
  else match state with
    | ground => ground
    | escape =>
      if within 0x20 0x2F then escapeIntermediate
      else if within 0x30 0x7E then introduced b
      else escape
    | escapeIntermediate => if within 0x30 0x7E then ground else escapeIntermediate
    | parameters => if within 0x40 0x7E then ground else parameters
    | device =>
      if within 0x20 0x2F then deviceIntermediate
      else if within 0x30 0x3F then deviceParameters
      else if within 0x40 0x7E then controlString
      else device
    | deviceParameters =>
      if within 0x20 0x2F then deviceIntermediate
      else if within 0x3C 0x7E then controlString
      else deviceParameters
    | deviceIntermediate => if within 0x30 0x7E then controlString else deviceIntermediate
    | controlString => if b = 0x9C then ground else controlString
    | systemString => if b = 0x07 then ground else systemString

/-- Whether control characters that move the place of printing act in the midst of the sequence. -/
def movesInside : ControlState → Bool
  | ground | escape | escapeIntermediate | parameters => true
  | _ => false

end ControlState

def isMove (c : Char) : Bool := c = '\t' || c = '\n' || c = '\x0c' || c = '\r'

/-- Whether the character is no control character, or moves the place of printing. -/
def isShown (c : Char) : Bool := isMove c || (' ' ≤ c && c ≠ '\x7f')

/-- The characters that are shown. Once one is shown in the midst of a sequence, so are those after
it up to the next control character, with which the sequence goes on, except that one beyond
ASCII ends it. -/
def shownChars : ControlState → Bool → List Char → List Char
  | _, _, [] => []
  | state, showing, c :: rest =>
    if isShown c && (showing || state = .ground || (isMove c && state.movesInside)) then
      c :: shownChars (if c.toNat < 0x80 then state else .ground) true rest
    else shownChars ((String.utf8EncodeChar c).foldl ControlState.step state) false rest

def withoutControls (s : String) : String := String.ofList (shownChars .ground false s.toList)

end TemplateBundler.Text

/-! # Text as bytes

Files, paths and process output are bytes; text is what they hold when they are valid
UTF-8. Bytes that are not can still be shown: each maximal piece that begins a
character without completing one, and each byte that begins none, is shown as the
replacement character.
-/

namespace TemplateBundler

abbrev Bytes := List UInt8

namespace Bytes

def ofText (s : String) : Bytes := s.toList.flatMap String.utf8EncodeChar

/-- What a byte that opens a character of several bytes asks of the bytes after it: how
many they are, the range of the first of them, and the bits it contributes itself. -/
structure Opening where
  /-- The number of bytes that follow. -/
  following : Nat
  /-- The least value of the next byte. -/
  least : UInt8
  /-- The greatest value of the next byte. -/
  greatest : UInt8
  /-- The leading bits of the code point. -/
  bits : Nat

/-- The demand of an opening byte. Overlong forms, surrogates and code points past the
last one are excluded by the range of the second byte. -/
def opening? (b : UInt8) : Option Opening :=
  if b < 0xC2 then none
  else if b ≤ 0xDF then some ⟨1, 0x80, 0xBF, b.toNat - 0xC0⟩
  else if b ≤ 0xEF then
    some ⟨2, if b == 0xE0 then 0xA0 else 0x80, if b == 0xED then 0x9F else 0xBF, b.toNat - 0xE0⟩
  else if b ≤ 0xF4 then
    some ⟨3, if b == 0xF0 then 0x90 else 0x80, if b == 0xF4 then 0x8F else 0xBF, b.toNat - 0xF0⟩
  else none

/-- How far reading has come: the character under way, if any, and what was read so far in
reverse, with `none` for each unreadable piece. -/
structure Reading where
  /-- The demand of the character under way. -/
  begun : Option Opening := none
  /-- What was read, the last first. -/
  done : List (Option Char) := []

namespace Reading

def start (done : List (Option Char)) (b : UInt8) : Reading :=
  if b < 0x80 then { done := some (Char.ofNat b.toNat) :: done }
  else match opening? b with
    | some demand => { begun := some demand, done }
    | none => { done := none :: done }

/-- Reads one byte. A byte that breaks a begun character gives that character up and is then
read afresh. -/
def step (reading : Reading) (b : UInt8) : Reading :=
  match reading.begun with
  | none => start reading.done b
  | some demand =>
    if demand.least ≤ b && b ≤ demand.greatest then
      let bits := demand.bits * 64 + (b.toNat - 0x80)
      match demand.following with
      | 0 | 1 => { done := some (Char.ofNat bits) :: reading.done }
      | n + 2 => { reading with begun := some ⟨n + 1, 0x80, 0xBF, bits⟩ }
    else start (none :: reading.done) b

/-- What was read in all; a character still under way is unreadable. -/
def finish (reading : Reading) : List (Option Char) :=
  (if reading.begun.isSome then none :: reading.done else reading.done).reverse

end Reading

/-- The characters that the bytes hold, with `none` for each unreadable piece. -/
def decode (bytes : Bytes) : List (Option Char) := (bytes.foldl Reading.step {}).finish

/-- The text shown for the bytes, with the replacement character for unreadable pieces. -/
def shown (bytes : Bytes) : String :=
  String.ofList ((decode bytes).map fun c => c.getD '\uFFFD')

/-- The text that the bytes are, if they are valid. -/
def text? (bytes : Bytes) : Option String := ((decode bytes).mapM id).map String.ofList

end Bytes

end TemplateBundler

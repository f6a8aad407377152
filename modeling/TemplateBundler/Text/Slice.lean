/-! # Measuring and cutting text by bytes

Offsets into text count the bytes of its UTF-8 form. A cut never splits a
character: an offset inside one is no place to cut.
-/

namespace TemplateBundler.Text

/-- The number of bytes the characters take. -/
def byteLength (cs : List Char) : Nat := cs.foldr (fun c size => c.utf8Size + size) 0

/-- The first `n` bytes and the rest, or `none` if the cut would fall inside a
character or past the end. -/
def splitAt? : Nat → List Char → Option (List Char × List Char)
  | 0, cs => some ([], cs)
  | _ + 1, [] => none
  | n + 1, c :: cs =>
    if c.utf8Size ≤ n + 1 then
      (splitAt? (n + 1 - c.utf8Size) cs).map fun (before, rest) => (c :: before, rest)
    else none

/-- The characters between two offsets, or `none` unless both are places to cut, in
this order. -/
def slice? (start stop : Nat) (cs : List Char) : Option (List Char) := do
  if stop < start then none
  let (_, rest) ← splitAt? start cs
  let (found, _) ← splitAt? (stop - start) rest
  return found

/-- As many whole characters from the front as fit into `limit` bytes. -/
def takeBytes : Nat → List Char → List Char
  | _, [] => []
  | limit, c :: cs => if c.utf8Size ≤ limit then c :: takeBytes (limit - c.utf8Size) cs else []

/-- The longest prefix of whole characters that is at most `limit` bytes long. -/
def truncate (limit : Nat) (s : String) : String := String.ofList (takeBytes limit s.toList)

end TemplateBundler.Text

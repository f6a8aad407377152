import TemplateBundler.Text.Bytes

/-! # Paths

A path is a sequence of bytes read by the rules of POSIX. Its components are the root,
if it starts with a slash, and the pieces between slashes; empty pieces do not count,
and neither does a single dot, unless it opens a relative path.

Everything here is lexical: no file system is consulted, so `..` undoes the name
before it even where that name is a link.
-/

namespace TemplateBundler

/-- A path, byte for byte. -/
structure Path where
  bytes : Bytes
  deriving DecidableEq, Repr

namespace Path

/-- One step of a path. -/
inductive Component where
  | root
  /-- The directory itself, as a single dot at the front of a relative path. -/
  | here
  | up
  | name (bytes : Bytes)
  deriving DecidableEq, Repr

/-- The slash that separates components. -/
def slash : UInt8 := 0x2F

/-- The dot of the special names. -/
def dot : UInt8 := 0x2E

def ofText (s : String) : Path := ⟨Bytes.ofText s⟩

/-- The path as shown to people. -/
def shown (path : Path) : String := path.bytes.shown

def Component.bytes : Component → Bytes
  | .root => [slash]
  | .here => [dot]
  | .up => [dot, dot]
  | .name bytes => bytes

/-- The component that a piece between slashes stands for, unless it counts for nothing. -/
def Component.ofPiece? (piece : Bytes) : Option Component :=
  if piece = [] || piece = [dot] then none
  else if piece = [dot, dot] then some .up
  else some (.name piece)

def pieces (path : Path) : List Bytes := path.bytes.splitOn slash

def isAbsolute (path : Path) : Bool := path.bytes.head? == some slash

def components (path : Path) : List Component :=
  let inner := path.pieces.filterMap Component.ofPiece?
  if path.isAbsolute then .root :: inner
  else if path.pieces.head? = some [dot] then .here :: inner
  else inner

/-- The path `a/b`, or `b` alone if it starts at the root. -/
def join (a b : Path) : Path :=
  if b.isAbsolute then b
  else if a.bytes = [] || a.bytes.getLast? = some slash then ⟨a.bytes ++ b.bytes⟩
  else ⟨a.bytes ++ slash :: b.bytes⟩

/-- The components with slashes between them; the root is a slash already. -/
def written : List Component → Bytes
  | .root :: components => slash :: written components
  | components => [slash].intercalate (components.map Component.bytes)

def ofComponents (components : List Component) : Path := ⟨written components⟩

/-- The path with these components after its own. -/
def extend (path : Path) (components : List Component) : Path :=
  if components = [] then path else path.join (ofComponents components)

/-- The last component, if it is a name. -/
def fileName? (path : Path) : Option Bytes :=
  match path.components.getLast? with
  | some (.name bytes) => some bytes
  | _ => none

/-- Takes one more component onto a normal form, which is given last component first. A name
is undone by the `..` after it; at the root `..` leads nowhere. -/
def reduce (reduced : List Component) : Component → List Component
  | .here => reduced
  | .up =>
    match reduced with
    | .name _ :: rest => rest
    | .root :: _ => reduced
    | _ => .up :: reduced
  | component => component :: reduced

/-- The components of the normal form. -/
def normalComponents (path : Path) : List Component :=
  (path.components.foldl reduce []).reverse

/-- The same path without `.` and with `..` only where nothing is left to undo. -/
def normalize (path : Path) : Path := ofComponents path.normalComponents

/-- Drops the longest common front of two lists. -/
def dropCommon : List Component → List Component → List Component × List Component
  | a :: as, b :: bs => if a = b then dropCommon as bs else (a :: as, b :: bs)
  | as, bs => (as, bs)

/-- The steps that lead from the first normal form to the second: up from what is left of the
one, then down what is left of the other. There are none if the way up is unknown because
it begins with `..`. -/
def steps? (source target : List Component) : Option (List Component) :=
  match dropCommon source target with
  | (source, []) => some (source.map fun _ => .up)
  | (.up :: _, _ :: _) => none
  | (source, target) => some ((source.map fun _ => .up) ++ target)

/-- The target relative to the root. Where no relative form can be found, because only one of
the two starts at the filesystem root or the way up is unknown, it is the target itself. -/
def relativeTo (root target : Path) : Path :=
  if root.isAbsolute != target.isAbsolute then target
  else
    match steps? root.normalComponents target.normalComponents with
    | some steps => ofComponents steps
    | none => target

/-- The target as errors show it: relative to the root and starting with a dot. -/
def display (root target : Path) : String :=
  let shown := (relativeTo root target).shown
  if shown.toList.head? = some '.' then shown else "./" ++ shown

/-- The normal form of the path taken from the directory `cwd`. The empty path stays empty. -/
def resolve (cwd path : Path) : Path :=
  if path.bytes = [] then path else (cwd.join path).normalize

end Path

end TemplateBundler

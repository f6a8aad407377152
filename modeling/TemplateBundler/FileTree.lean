import TemplateBundler.Path

/-! # File trees

A file tree holds directories and files, without links. Paths are walked step by step,
as a kernel does: every step is taken from a directory that exists, so `..` and `.`
after a file fail, and a slash at the end of a path asks for a directory. A path must not
hold a null byte, and names and paths are limited in length.

Files may be programs. What a program does when it is run is part of the file, so that
running one is a function of the tree.
-/

namespace TemplateBundler

/-- Why an operation on files failed. -/
inductive FileError where
  /-- Nothing is there. -/
  | notFound
  /-- The file may not be used in this way. -/
  | permissionDenied
  | notADirectory
  | isADirectory
  | brokenPipe
  | notText
  | nameTooLong
  | nullInPath
  /-- What a program is to be started with holds a null byte. -/
  | nullInCommand
  deriving DecidableEq, Repr

def FileError.message : FileError → String
  | notFound => "No such file or directory (os error 2)"
  | permissionDenied => "Permission denied (os error 13)"
  | notADirectory => "Not a directory (os error 20)"
  | isADirectory => "Is a directory (os error 21)"
  | brokenPipe => "Broken pipe (os error 32)"
  | notText => "stream did not contain valid UTF-8"
  | nameTooLong => "File name too long (os error 36)"
  | nullInPath => "file name contained an unexpected NUL byte"
  | nullInCommand => "nul byte found in provided data"

inductive Ending where
  | exited (code : Nat)
  | killed
  deriving DecidableEq, Repr

/-- The ending of a process that exits with this number, of which only a byte is kept. -/
def Ending.ofExit (n : Nat) : Ending := exited (n % 256)

/-- What a program does when it is run. -/
structure Program where
  /-- Whether it reads its whole input. One that does not leaves its writer with a broken pipe. -/
  reads : Bool := true
  stdout : Bytes := []
  stderr : Bytes := []
  ending : Ending := .exited 0
  deriving DecidableEq, Repr

/-- What makes a file executable. -/
inductive Executable where
  /-- It is a program of its own. -/
  | program (program : Program)
  /-- It runs the program named by its first argument. -/
  | interpreter
  deriving DecidableEq, Repr

/-- What stands at a place of a tree. -/
inductive Entry where
  | directory
  | file (content : Bytes) (executable : Option Executable)
  deriving DecidableEq, Repr

/-- A place in a tree: the names on the way from the root. -/
abbrev Location := List Bytes

/-- A location as an absolute path. -/
def Location.toPath (location : Location) : Path :=
  if location = [] then ⟨[Path.slash]⟩ else ⟨location.flatMap (Path.slash :: ·)⟩

/-- A file tree. Each place is listed once; the root is a directory and not listed. -/
structure FileTree where
  /-- What stands where. -/
  entries : List (Location × Entry) := []
  deriving DecidableEq, Repr

namespace FileTree

def entry? (tree : FileTree) (location : Location) : Option Entry :=
  if location = [] then some .directory else tree.entries.lookup location

/-- The tree with this entry at the place. -/
def insert (location : Location) (entry : Entry) (tree : FileTree) : FileTree :=
  if tree.entries.any (·.1 == location) then
    ⟨tree.entries.map fun e => if e.1 = location then (location, entry) else e⟩
  else ⟨tree.entries ++ [(location, entry)]⟩

/-- Whether one may go on from the place. -/
def checkDirectory (tree : FileTree) (location : Location) : Except FileError Unit :=
  match tree.entry? location with
  | none => .error .notFound
  | some (.file _ _) => .error .notADirectory
  | some .directory => .ok ()

def maxName : Nat := 255

def maxPath : Nat := 4095

/-- The place of the entry with this name. -/
def enter (location : Location) (name : Bytes) : Except FileError Location :=
  if maxName < name.length then .error .nameTooLong else .ok (location ++ [name])

/-- The place one step further. -/
def step (tree : FileTree) (location : Location) (piece : Bytes) : Except FileError Location := do
  tree.checkDirectory location
  if piece = [] || piece = [Path.dot] then return location
  else if piece = [Path.dot, Path.dot] then return location.dropLast
  else enter location piece

/-- Where walking a path starts. -/
def start (cwd : Location) (path : Path) : Location := if path.isAbsolute then [] else cwd

/-- Whether the bytes can be a path at all. -/
def checkPath (path : Path) : Except FileError Unit :=
  if path.bytes.contains 0 then .error .nullInPath
  else if path.bytes = [] then .error .notFound
  else if maxPath < path.bytes.length then .error .nameTooLong
  else .ok ()

/-- The place that a path leads to; nothing need stand there. -/
def locate (tree : FileTree) (cwd : Location) (path : Path) : Except FileError Location := do
  checkPath path
  path.pieces.foldlM tree.step (start cwd path)

/-- What stands where a path leads. -/
def find (tree : FileTree) (cwd : Location) (path : Path) : Except FileError Entry := do
  match tree.entry? (← tree.locate cwd path) with
  | some entry => return entry
  | none => throw .notFound

def read (tree : FileTree) (cwd : Location) (path : Path) : Except FileError Bytes := do
  match ← tree.find cwd path with
  | .file content _ => return content
  | .directory => throw .isADirectory

def readText (tree : FileTree) (cwd : Location) (path : Path) : Except FileError String := do
  match (← tree.read cwd path).text? with
  | some text => return text
  | none => throw .notText

/-- The pieces of a path without the empty ones at its end. -/
def trimPieces (path : Path) : List Bytes := (path.pieces.reverse.dropWhile (· == [])).reverse

/-- The place at which a file is written: the directory before the last name has to be there, and
the path has to end in a name. -/
def locateTarget (tree : FileTree) (cwd : Location) (path : Path) : Except FileError Location := do
  checkPath path
  let pieces := trimPieces path
  let directory ← pieces.dropLast.foldlM tree.step (start cwd path)
  tree.checkDirectory directory
  match pieces.getLast? with
  | none => throw .isADirectory
  | some name =>
    let isDots := name = [Path.dot] || name = [Path.dot, Path.dot]
    if path.bytes.getLast? = some Path.slash || isDots then throw .isADirectory
    enter directory name

/-- The tree after writing a file, which is created if nothing stands there. -/
def write (tree : FileTree) (cwd : Location) (path : Path) (content : Bytes) :
    Except FileError FileTree := do
  let location ← tree.locateTarget cwd path
  match tree.entry? location with
  | some .directory => throw .isADirectory
  | some (.file _ executable) => return tree.insert location (.file content executable)
  | none => return tree.insert location (.file content none)

end FileTree

end TemplateBundler

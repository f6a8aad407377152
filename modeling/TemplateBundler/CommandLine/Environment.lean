import TemplateBundler.Processor.Launch
import TemplateBundler.Text.Styled

/-! # Environments of commands

A command sees files, a current directory and variables. From these it finds the
program that runs processors: the one that a variable points at, or else the first
one on the search path, where a tilde stands for the home directory. The path to the
latter does not depend on the current directory any more, unless the home directory's own
name begins with a tilde.

What is printed goes to files and pipes, so it is plain unless a variable asks for styles.
-/

namespace TemplateBundler.CommandLine

/-- What a command is run in. -/
structure Environment where
  tree : FileTree
  cwd : Location := []
  vars : List (String × Bytes) := []

namespace Environment

def lookup (environment : Environment) (name : String) : Option Bytes :=
  environment.vars.lookup name

/-- Whether a variable has a value that is not empty. -/
def hasValue (environment : Environment) (name : String) : Bool :=
  (environment.lookup name).any (· ≠ [])

/-- Whether what is printed has styles: a variable asks for them, and none forbids them. -/
def wantsStyles (environment : Environment) : Bool :=
  environment.hasValue "CLICOLOR_FORCE" && !environment.hasValue "NO_COLOR"

def shown (environment : Environment) (text : Text.Styled) : String :=
  if environment.wantsStyles then text.coded else text.plain

/-- The colon between directories of the search path. -/
def colon : UInt8 := 0x3A

/-- The directories in which programs are looked for. -/
def searchPath (environment : Environment) : List Path :=
  match environment.lookup "PATH" with
  | some value => (value.splitOn colon).map Path.mk
  | none => []

/-- Where processors are launched. -/
def surroundings (environment : Environment) : Processor.Surroundings where
  tree := environment.tree
  cwd := environment.cwd
  searchPath := environment.searchPath

def isFile (environment : Environment) (path : Path) : Bool :=
  environment.tree.find environment.cwd path matches .ok (.file _ _)

def isExecutable (environment : Environment) (path : Path) : Bool :=
  environment.tree.find environment.cwd path matches .ok (.file _ (some _))

/-- The program that the variable for it points at. It has to be a file with a readable name, but
whether it may be run shows only when it is. -/
def namedNode? (environment : Environment) : Option Path := do
  let value ← environment.lookup "XJST_NODE"
  let path : Path := ⟨value⟩
  guard (value.text?.isSome && environment.isFile path)
  return path

/-- The home directory, if the variable for it is not empty. -/
def home? (environment : Environment) : Option Path :=
  ((environment.lookup "HOME").filter (· ≠ [])).map Path.mk

/-- The tilde that stands for the home directory. -/
def tilde : Bytes := [0x7E]

/-- Whether a tilde is the first component of the path. -/
def beginsWithTilde (path : Path) : Bool := path.components.head? = some (.name tilde)

/-- The path with the home directory for a tilde as its first component. Without a home directory
such a path leads nowhere. -/
def expandHome (environment : Environment) (path : Path) : Option Path :=
  if beginsWithTilde path then environment.home?.map (·.extend (path.components.drop 1))
  else some path

/-- The path from the root: a relative one is taken from the current directory, unless it still
begins with a tilde. -/
def fromRoot (environment : Environment) (path : Path) : Path :=
  if path.isAbsolute || beginsWithTilde path then path
  else (Location.toPath environment.cwd).extend (path.components.dropWhile (· = .here))

/-- Where the search path leads to a program. -/
def candidate? (environment : Environment) (directory : Path) : Option Path :=
  (environment.expandHome directory).map fun directory =>
    environment.fromRoot (directory.join (Path.ofText "node"))

def searchedNode? (environment : Environment) : Option Path :=
  (environment.searchPath.filterMap environment.candidate?).find? environment.isExecutable

def node? (environment : Environment) : Option Path :=
  environment.namedNode? <|> environment.searchedNode?

end Environment

end TemplateBundler.CommandLine

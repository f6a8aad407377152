import TemplateBundler.Processor.Outcome
import TemplateBundler.Processor.Script

/-! # Launching a processor

A processor is run by a program, mostly Node.js, that gets the processor's script as its
argument. It runs in a directory of its own, from which a relative path to the program
is taken too.
-/

namespace TemplateBundler

/-- How a processor is run. -/
structure Processor where
  /-- The program that runs it. -/
  node : Path
  /-- The script; none is the bundled one. -/
  script : Option Path := none
  /-- The directory to run it in; none is the current directory. -/
  workingDir : Option Path := none
  deriving DecidableEq, Repr

namespace Processor

/-- The arguments of the program. -/
def arguments (processor : Processor) : List Bytes :=
  match processor.script with
  | some script => [script.bytes]
  | none => [Bytes.ofText "-e", Bytes.ofText Script.text]

/-- Where a command is run: the files, the current directory, and the directories in which a
program without a slash in its name is looked for. -/
structure Surroundings where
  tree : FileTree
  cwd : Location := []
  /-- Where programs are looked for. -/
  searchPath : List Path := []

/-- A processor that was started. -/
structure Launched where
  /-- The directory that it runs in. -/
  directory : Location
  /-- The program that does the work. -/
  program : Program
  /-- The arguments that it gets. -/
  arguments : List Bytes

/-- What came of trying to run a file. -/
def executable (entry : Entry) : Except FileError Executable :=
  match entry with
  | .file _ (some executable) => .ok executable
  | .file _ none | .directory => .error .permissionDenied

/-- Looks for a program in the given directories. One that may not be run is reported if no other
is found, and a name that is too long at once. -/
def search (tree : FileTree) (cwd : Location) (name : Path) (denied : Bool) :
    List Path → Except FileError Executable
  | [] => .error (if denied then .permissionDenied else .notFound)
  | directory :: rest =>
    match tree.find cwd (directory.join name) >>= executable with
    | .ok found => .ok found
    | .error .nameTooLong => .error .nameTooLong
    | .error error => search tree cwd name (denied || error == .permissionDenied) rest

/-- Finds the program at a path, or by its name if the path has no slash. -/
def findProgram (surroundings : Surroundings) (cwd : Location) (path : Path) :
    Except FileError Executable :=
  if path.bytes.contains Path.slash then surroundings.tree.find cwd path >>= executable
  else if path.bytes = [] then .error .notFound
  else search surroundings.tree cwd path false surroundings.searchPath

/-- How an interpreter names the reason why there is no script. -/
def scriptFault : FileError → String
  | .nameTooLong => "File name too long"
  | _ => "No such file"

/-- What an interpreter does with a script that is not there. -/
def missingScript (script : Bytes) (error : FileError) : Program where
  reads := false
  stderr :=
    Bytes.ofText "/bin/sh: 0: cannot open " ++ script ++ Bytes.ofText s!": {scriptFault error}\n"
  ending := .exited 2

/-- What an interpreter runs: the script that is its first argument, apart from the flag that makes
it stop at errors. -/
def interpret (tree : FileTree) (cwd : Location) : List Bytes → Program × List Bytes
  | [] => ({}, [])
  | word :: arguments =>
    if word = Bytes.ofText "-e" then interpret tree cwd arguments
    else match tree.find cwd ⟨word⟩ with
      | .ok (.file _ (some (.program program))) => (program, arguments)
      | .ok _ => ({}, arguments)
      | .error error => (missingScript word error, arguments)

/-- Goes to the directory to run in. -/
def enter (surroundings : Surroundings) : Option Path → Except FileError Location
  | none => .ok surroundings.cwd
  | some path => do
    let location ← surroundings.tree.locate surroundings.cwd path
    surroundings.tree.checkDirectory location
    return location

/-- Whether a null byte stands in what the processor is to be started with. -/
def holdsNull (processor : Processor) : Bool :=
  let directory := (processor.workingDir.map (·.bytes)).getD []
  (processor.node.bytes :: directory :: processor.arguments).any (·.contains 0)

/-- Starts the processor. -/
def launch (processor : Processor) (surroundings : Surroundings) : Except FileError Launched := do
  if processor.holdsNull then throw .nullInCommand
  let directory ← enter surroundings processor.workingDir
  match ← findProgram surroundings directory processor.node with
  | .program program => return { directory, program, arguments := processor.arguments }
  | .interpreter =>
    let (program, arguments) := interpret surroundings.tree directory processor.arguments
    return { directory, program, arguments }

/-- What becomes of the processor. -/
def run (processor : Processor) (surroundings : Surroundings) : Outcome :=
  match processor.launch surroundings with
  | .error error => .refused error
  | .ok { program, .. } =>
    .ran program.ending program.stdout program.stderr
      (if program.reads then none else some .brokenPipe)

/-- The compiler that runs the processor for each job. -/
def compiler (processor : Processor) (surroundings : Surroundings) : Compiler :=
  fun _ => (processor.run surroundings).result processor.node

end Processor

end TemplateBundler

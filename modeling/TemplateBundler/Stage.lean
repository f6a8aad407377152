import TemplateBundler.Bundle
import TemplateBundler.Compiler
import TemplateBundler.Diagnosis
import TemplateBundler.FileTree
import TemplateBundler.Gathering
import TemplateBundler.Merge

/-! # Building bundles

A stage builds one bundle: it reads the template files, merges them, has the result
compiled, and wraps the code into a module or leads the compiler's failure back to the
files. Each build keeps a record of what the compiler was asked and of what was logged.

Of the files only the target is ever written, and only when all else has succeeded.
-/

namespace TemplateBundler

inductive BuildError where
  | unreadable (path : Path) (error : FileError)
  /-- The compiler failed at a place in a template file. -/
  | inFile (error : SyntaxError)
  /-- The compiler failed at no place in a template file. -/
  | failed (failure : CompileFailure)
  | unbundled (error : BundleError)
  | unwritable (path : Path) (error : FileError)
  deriving DecidableEq, Repr

namespace BuildError

def message : BuildError → String
  | unreadable path error => s!"Failed to read {path.shown}: {error.message}"
  | inFile error => error.message
  | failed failure => failure.message
  | unbundled error => s!"Bundling failed: {error.message}"
  | unwritable path error => s!"Failed to write {path.shown}: {error.message}"

/-- The text of what lies behind a build error, if it is not the error itself. -/
def cause? : BuildError → Option String
  | unreadable _ error | unwritable _ error => some error.message
  | unbundled error => some error.message
  | inFile _ | failed _ => none

/-- The error for a compile failure that was led back. -/
def ofDiagnosis : Diagnosis → BuildError
  | .inFile error => inFile error
  | .passedOn failure => failed failure

end BuildError

inductive LogEvent where
  | merged (files lines : Nat) (exportName : Option String)
  | compiling
  | written (target : Path)
  deriving DecidableEq, Repr

def LogEvent.line : LogEvent → String
  | merged files lines exportName =>
    let name := match exportName with
      | some name => s!"Some({Text.quoted name})"
      | none => "None"
    s!"DEBUG Merged XJST templates files={files} lines={lines} export={name}"
  | compiling => "INFO Calm down, OmetaJS is running..."
  | written target => s!"INFO Wrote XJST bundle target={target.shown}"

/-- What came of a build, and what happened on the way. -/
structure Build (α : Type) where
  result : Except BuildError α
  /-- What the compiler was asked, if it was. -/
  job? : Option CompileJob := none
  log : List LogEvent := []

structure Stage where
  options : Options
  /-- The directory relative to which errors show paths, in normal form. -/
  root : Path
  excerpt : ExcerptOptions := {}
  deriving DecidableEq, Repr

namespace Stage

/-- A stage whose root is taken from the current directory. -/
def ofRoot (cwd : Location) (options : Options) (root : Path) (excerpt : ExcerptOptions := {}) :
    Stage where
  options
  root := Path.resolve (Location.toPath cwd) root
  excerpt

/-- Builds a module for a bundle in the directory from templates that were read. -/
def buildUnits (stage : Stage) (compiler : Compiler) (units : List SourceUnit) (dirname : Path) :
    Build String :=
  let merged := merge units
  let job : CompileJob := { payload := merged.payload, config := stage.options.compileConfig }
  let result := match compiler job with
    | .ok code =>
      (Bundle.compile (stage.options.bundleOptions dirname) code).mapError .unbundled
    | .error failure =>
      .error (.ofDiagnosis (Diagnosis.ofFailure stage.root stage.excerpt merged.index failure))
  { result
    job? := some job
    log := [.merged units.length merged.lineCount stage.options.exportName, .compiling] }

/-- Reads a template file. Its unit is named by its absolute path. -/
def readSource (tree : FileTree) (cwd : Location) (path : Path) : Except BuildError SourceUnit :=
  match tree.readText cwd path with
  | .ok text =>
    .ok { text, identifier := (Path.resolve (Location.toPath cwd) path).shown }
  | .error error => .error (.unreadable path error)

/-- Reads template files side by side; the reads end in this order. -/
def readSources (tree : FileTree) (cwd : Location) (files : List Path)
    (completion : Completion files.length := .inOrder _) : Except BuildError (List SourceUnit) :=
  gather (fun place => readSource tree cwd files[place]) completion

/-- Builds a module from template files. -/
def build (stage : Stage) (compiler : Compiler) (tree : FileTree) (cwd : Location)
    (files : List Path) (dirname : Path) (completion : Completion files.length := .inOrder _) :
    Build String :=
  match readSources tree cwd files completion with
  | .ok units => stage.buildUnits compiler units dirname
  | .error error => { result := .error error }

def targetPath (stage : Stage) (directory : Path) : Path :=
  directory.join (Path.ofText (targetFileName stage.options.targetPattern directory))

/-- Builds a module and writes it to the directory. The result is the path written. -/
def buildToTarget (stage : Stage) (compiler : Compiler) (tree : FileTree) (cwd : Location)
    (files : List Path) (directory : Path) (completion : Completion files.length := .inOrder _) :
    FileTree × Build Path :=
  let built := stage.build compiler tree cwd files directory completion
  match built.result with
  | .error error => (tree, { built with result := .error error })
  | .ok text =>
    let target := stage.targetPath directory
    match tree.write cwd target (Bytes.ofText text) with
    | .ok after =>
      (after, { built with result := .ok target, log := built.log ++ [.written target] })
    | .error error => (tree, { built with result := .error (.unwritable target error) })

end Stage

end TemplateBundler

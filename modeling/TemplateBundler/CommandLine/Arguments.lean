import TemplateBundler.Options
import TemplateBundler.Text.Styled

/-! # Arguments of the command line

What the command line can ask for, and what can be wrong with it.
-/

namespace TemplateBundler.CommandLine

/-- The options of a common flavour of templates. -/
inductive Preset where
  /-- Synchronous templates. -/
  | bemhtml
  /-- Templates that return promises. -/
  | bemtree
  deriving DecidableEq, Repr

def Preset.options : Preset → Options
  | bemhtml => .bemhtml
  | bemtree => .bemtree

def Preset.ofName? (name : String) : Option Preset :=
  if name = "bemhtml" then some bemhtml
  else if name = "bemtree" then some bemtree
  else none

inductive OptionName where
  | root
  | outDir
  | preset
  | config
  | target
  | devMode
  | cache
  | exportName
  | applyFuncName
  | includeVow
  | noIncludeVow
  | require
  | jobs
  | processor
  | stdout
  | help
  deriving DecidableEq, Repr

/-- How an option is given. -/
structure OptionForm where
  name : OptionName
  /-- Its long form, without dashes. -/
  long : String
  /-- Its short form, without the dash. -/
  short : Option Char := none
  /-- What its value is called; none if it has no value. -/
  placeholder : Option String := none
  description : String
  deriving DecidableEq, Repr

/-- What shows that a value follows the option. -/
def OptionForm.shownValue (form : OptionForm) : String :=
  match form.placeholder with
  | some placeholder => s!" <{placeholder}>"
  | none => ""

/-- How the option is named in messages. -/
def OptionForm.shown (form : OptionForm) : String := s!"--{form.long}{form.shownValue}"

/-- How the files are named in messages. -/
def shownFiles : String := "<FILES>..."

def buildOptions : List OptionForm :=
  [{ name := .root, long := "root", placeholder := some "ROOT",
     description := "Directory error paths are reported relative to (default: current directory)" },
   { name := .outDir, long := "out-dir", short := some 'o', placeholder := some "OUT_DIR",
     description := "Directory the bundle is written to (default: current directory)" },
   { name := .preset, long := "preset", placeholder := some "PRESET",
     description := "Start from the options of a common template flavor " ++
       "[possible values: bemhtml, bemtree]" },
   { name := .config, long := "config", short := some 'c', placeholder := some "CONFIG",
     description := "YAML file with target options, applied on top of the preset" },
   { name := .target, long := "target", placeholder := some "TARGET",
     description := "Target file name; `?` is replaced by the output directory's name" },
   { name := .devMode, long := "dev-mode",
     description := "Generate development-mode code" },
   { name := .cache, long := "cache",
     description := "Let the compiler cache internally" },
   { name := .exportName, long := "export-name", placeholder := some "EXPORT_NAME",
     description := "Name the bundle is exported under" },
   { name := .applyFuncName, long := "apply-func-name", placeholder := some "APPLY_FUNC_NAME",
     description := "Name of the entry point function" },
   { name := .includeVow, long := "include-vow",
     description := "Bundle the `vow` promise library" },
   { name := .noIncludeVow, long := "no-include-vow",
     description := "Expect `Vow` from the host instead of bundling `vow`" },
   { name := .require, long := "require", placeholder := some "NAME",
     description := "Library made available through `this.require` (repeatable)" },
   { name := .jobs, long := "jobs", short := some 'j', placeholder := some "JOBS",
     description := "Number of compile workers (default: available parallelism)" },
   { name := .processor, long := "processor", placeholder := some "PROCESSOR",
     description := "Processor script to run under Node.js instead of the bundled one" },
   { name := .stdout, long := "stdout",
     description := "Print the bundle to stdout instead of writing a file" },
   { name := .help, long := "help", short := some 'h', description := "Print help" }]

/-- What the build command was asked for. -/
structure BuildArguments where
  /-- The template files, in order. -/
  files : List Path := []
  root : Option Path := none
  outDir : Option Path := none
  preset : Option Preset := none
  config : Option Path := none
  target : Option String := none
  devMode : Bool := false
  cache : Bool := false
  exportName : Option String := none
  applyFuncName : Option String := none
  includeVow : Bool := false
  noIncludeVow : Bool := false
  requires : List String := []
  jobs : Option Nat := none
  processor : Option Path := none
  stdout : Bool := false
  deriving DecidableEq, Repr

/-- What the command line asks for. -/
inductive Invocation where
  | help
  | buildHelp
  | helpHelp
  | version
  | build (arguments : BuildArguments)
  deriving DecidableEq, Repr

inductive NumberError where
  | empty
  /-- It holds something that is no digit. -/
  | notDigit
  | tooLarge
  deriving DecidableEq, Repr

def NumberError.message : NumberError → String
  | empty => "cannot parse integer from empty string"
  | notDigit => "invalid digit found in string"
  | tooLarge => "number too large to fit in target type"

inductive UsageError where
  | noCommand
  | unknownCommand (name : String)
  /-- There is no such option, or no place for such a word. -/
  | unexpected (argument : String)
  | noFiles
  /-- An option or a file is empty. -/
  | noValue (shown : String)
  /-- A value is not one of those that are possible. -/
  | impossibleValue (value shown : String)
  | badNumber (value shown : String) (error : NumberError)
  /-- An option that has no value is given one. -/
  | needlessValue (value shown : String)
  | repeated (shown : String)
  | conflict (first second : String)
  deriving DecidableEq, Repr

/-- A line about an error. -/
def errorLine (line : Text.Styled) : Text.Styled := .error "error:" :: " " :: line

/-- The first line about what is wrong. -/
def UsageError.line : UsageError → Text.Styled
  | noCommand => ["Merge, compile and bundle XJST templates"]
  | unknownCommand name => errorLine ["unrecognized subcommand '", .wrong name, "'"]
  | unexpected argument => errorLine ["unexpected argument '", .wrong argument, "' found"]
  | noFiles => errorLine ["the following required arguments were not provided:"]
  | noValue shown =>
    errorLine ["a value is required for '", .wrong shown, "' but none was supplied"]
  | impossibleValue value shown =>
    errorLine ["invalid value '", .wrong value, "' for '", .literal shown, "'"]
  | badNumber value shown error =>
    errorLine ["invalid value '", .wrong value, "' for '", .literal shown, "': ", error.message]
  | needlessValue value shown =>
    errorLine
      ["unexpected value '", .wrong value, "' for '", .literal shown,
       "' found; no more were expected"]
  | repeated shown => errorLine ["the argument '", .wrong shown, "' cannot be used multiple times"]
  | conflict first second =>
    errorLine ["the argument '", .wrong first, "' cannot be used with '", .wrong second, "'"]

end TemplateBundler.CommandLine

import TemplateBundler.CommandLine.Environment
import TemplateBundler.CommandLine.Help
import TemplateBundler.CommandLine.Parser
import TemplateBundler.Options.Config
import TemplateBundler.Stage

/-! # Commands

What the command line does, as a function of its arguments and its environment: an exit
code, what is printed, and the files afterwards. The options of a build start from a
preset; a configuration file is laid over it, and the arguments over both.
-/

namespace TemplateBundler.CommandLine

/-- Options changed as the arguments say. -/
def BuildArguments.refine (arguments : BuildArguments) (options : Options) : Options where
  target := arguments.target <|> options.target
  devMode := if arguments.devMode then some true else options.devMode
  cache := if arguments.cache then some true else options.cache
  exportName := arguments.exportName <|> options.exportName
  applyFuncName := arguments.applyFuncName <|> options.applyFuncName
  includeVow :=
    if arguments.noIncludeVow then some false
    else if arguments.includeVow then some true
    else options.includeVow
  requires := options.requires ++ arguments.requires

/-- The options of the preset. -/
def BuildArguments.presetOptions (arguments : BuildArguments) : Options :=
  match arguments.preset with
  | some preset => preset.options
  | none => {}

/-- The options that the arguments lead to. -/
def resolveOptions (tree : FileTree) (cwd : Location) (arguments : BuildArguments) :
    Except ConfigError Options :=
  match arguments.config with
  | none => .ok (arguments.refine arguments.presetOptions)
  | some path => do
    let configured ← Options.ofFile tree cwd path
    return arguments.refine (arguments.presetOptions.overlay configured)

/-- Why a command failed. -/
inductive CommandError where
  /-- The configuration cannot be used. -/
  | config (error : ConfigError)
  /-- There is no program to run the processor. -/
  | noNode
  /-- The bundle cannot be built. -/
  | build (error : BuildError)

namespace CommandError

def message : CommandError → String
  | config error => error.message
  | noNode => "Node.js not found. Set XJST_NODE or add node to PATH"
  | build error => error.message

/-- The text of what lies behind an error. -/
def cause? : CommandError → Option String
  | config error => some error.cause
  | noNode => none
  | build error => error.cause?

/-- A text with all its lines indented. -/
def indented (text : String) : String :=
  String.ofList ("    ".toList ++
    text.toList.flatMap fun c => if c = '\n' then "\n    ".toList else [c])

/-- What is printed about an error. -/
def report (error : CommandError) : String :=
  let causes := match error.cause? with
    | some cause => s!"\nCaused by:\n{indented cause}\n"
    | none => ""
  s!"Error: {error.message}\n" ++ causes

end CommandError

/-- What a command did. -/
structure Report where
  exitCode : Nat := 0
  /-- What was printed. -/
  stdout : String := ""
  /-- What was printed about errors. -/
  stderr : String := ""
  /-- The files afterwards. -/
  tree : FileTree
  /-- The job that a processor was started for, and the processor, if one was. -/
  started : Option (CompileJob × Processor.Launched) := none

/-- A command that failed and changed nothing. -/
def Report.failed (tree : FileTree) (error : CommandError) : Report where
  exitCode := 1
  stderr := error.report
  tree

/-- The processor that the arguments and the environment name. -/
def processor? (environment : Environment) (arguments : BuildArguments) : Option Processor := do
  let node ← environment.node?
  return {
    node
    script := arguments.processor <|> (environment.lookup "XJST_PROCESSOR").map Path.mk
    workingDir := some (arguments.root.getD (Location.toPath environment.cwd)) }

/-- What a build printed and wrote. -/
def buildReport (environment : Environment) (arguments : BuildArguments) (options : Options)
    (processor : Processor) : Report :=
  let { tree, cwd, .. } := environment
  let here := Location.toPath cwd
  let stage := Stage.ofRoot cwd options (arguments.root.getD here)
  let directory := arguments.outDir.getD here
  let compiler := processor.compiler environment.surroundings
  let launched (job : CompileJob) : Option (CompileJob × Processor.Launched) :=
    match processor.launch environment.surroundings with
    | .ok launched => some (job, launched)
    | .error _ => none
  if arguments.stdout then
    let built := stage.build compiler tree cwd arguments.files directory
    let started := built.job?.bind launched
    match built.result with
    | .ok text => { stdout := text, tree, started }
    | .error error => { Report.failed tree (.build error) with started }
  else
    let (after, built) := stage.buildToTarget compiler tree cwd arguments.files directory
    let started := built.job?.bind launched
    match built.result with
    | .ok _ => { tree := after, started }
    | .error error => { Report.failed after (.build error) with started }

/-- Runs the build command. -/
def build (environment : Environment) (arguments : BuildArguments) : Report :=
  match resolveOptions environment.tree environment.cwd arguments with
  | .error error => .failed environment.tree (.config error)
  | .ok options =>
    match processor? environment arguments with
    | none => .failed environment.tree .noNode
    | some processor => buildReport environment arguments options processor

/-- Does what is asked for. -/
def Invocation.perform (environment : Environment) : Invocation → Report
  | .help => { stdout := environment.shown generalHelp, tree := environment.tree }
  | .buildHelp => { stdout := environment.shown CommandLine.buildHelp, tree := environment.tree }
  | .helpHelp => { stdout := environment.shown CommandLine.helpHelp, tree := environment.tree }
  | .version => { stdout := environment.shown versionText, tree := environment.tree }
  | .build arguments => CommandLine.build environment arguments

/-- What is printed about a command line that cannot be read. Without any arguments it is help. -/
def UsageError.report : UsageError → Text.Styled
  | .noCommand => generalHelp
  | error => .ofLines [error.line]

/-- Runs the command line with these arguments. -/
def run (environment : Environment) (arguments : List String) : Report :=
  match parse arguments with
  | .ok invocation => invocation.perform environment
  | .error error =>
    { exitCode := 2, stderr := environment.shown error.report, tree := environment.tree }

end TemplateBundler.CommandLine

import TemplateBundler.CommandLine.Command

/-! # The program

The outermost layer: it takes from the disk what a command may look at, runs the command
on that, prints what it printed, and puts onto the disk what it wrote.

Programs cannot be started from here, so no file counts as one.
-/

namespace TemplateBundler.CommandLine

/-- What stands at a place of the disk. -/
def entryOnDisk (location : Location) : IO (Option Entry) := do
  match ← (IO.FS.readBinFile (Location.toPath location).shown).toBaseIO with
  | .ok content => return some (.file content.toList none)
  | .error (.inappropriateType ..) => return some .directory
  | .error _ => return none

/-- The tree together with what stands on the disk along a path. -/
def loadPath (cwd : Location) (tree : FileTree) (path : Path) : IO FileTree := do
  let mut loaded := tree
  let mut location := FileTree.start cwd path
  for piece in path.pieces do
    match loaded.step location piece with
    | .error _ => return loaded
    | .ok next =>
      location := next
      if let some entry ← entryOnDisk next then
        loaded := loaded.insert next entry
  return loaded

/-- The variables that a command looks at. -/
def loadVariables : IO (List (String × Bytes)) := do
  let mut vars := []
  for name in ["PATH", "HOME", "XJST_NODE", "XJST_PROCESSOR", "CLICOLOR_FORCE", "NO_COLOR"] do
    if let some value ← IO.getEnv name then
      vars := (name, Bytes.ofText value) :: vars
  return vars

/-- The environment of a build: what lies along the paths that it names, and along the path of
the bundle, which its options decide. -/
def loadBuild (environment : Environment) (arguments : BuildArguments) : IO Environment := do
  let { cwd, .. } := environment
  let here := Location.toPath cwd
  let directory := arguments.outDir.getD here
  let named := arguments.config.toList ++ arguments.root.toList ++
    ((environment.lookup "XJST_NODE").map Path.mk).toList ++ arguments.files ++ [directory]
  let mut tree := environment.tree
  for path in named do
    tree ← loadPath cwd tree path
  if let .ok options := resolveOptions tree cwd arguments then
    let stage := Stage.ofRoot cwd options (arguments.root.getD here)
    tree ← loadPath cwd tree (stage.targetPath directory)
  return { environment with tree }

/-- The environment of a command. -/
def loadEnvironment (arguments : List String) : IO Environment := do
  let cwd := (Path.ofText (← IO.currentDir).toString).pieces.filter (· ≠ [])
  let tree ← loadPath [] {} (Location.toPath cwd)
  let environment := { tree, cwd, vars := ← loadVariables }
  match parse arguments with
  | .ok (.build arguments) => loadBuild environment arguments
  | _ => return environment

/-- Puts the files onto the disk that differ from those before. -/
def storeChanges (before after : FileTree) : IO Unit := do
  for (location, entry) in after.entries do
    if let .file content _ := entry then
      if before.entry? location ≠ some entry then
        IO.FS.writeBinFile (Location.toPath location).shown ⟨content.toArray⟩

end TemplateBundler.CommandLine

open TemplateBundler.CommandLine in
/-- Runs the command line. -/
def main (arguments : List String) : IO UInt32 := do
  let environment ← loadEnvironment arguments
  let report := run environment arguments
  storeChanges environment.tree report.tree
  IO.print report.stdout
  IO.eprint report.stderr
  return report.exitCode.toUInt32

import TemplateBundler.Path

/-! # Options of a target

What a user may configure about one bundle. An option that is not set stays unset all the
way to the compiler, which has defaults of its own. Options can be laid over each
other; the common flavours of templates come as presets.
-/

namespace TemplateBundler

structure Options where
  target : Option String := none
  devMode : Option Bool := none
  cache : Option Bool := none
  exportName : Option String := none
  applyFuncName : Option String := none
  /-- Whether the bundle loads the promise library itself. -/
  includeVow : Option Bool := none
  requires : List String := []
  deriving DecidableEq, Repr

/-- The options that only the compiler understands. -/
structure CompileConfig where
  devMode : Option Bool := none
  cache : Option Bool := none
  exportName : Option String := none
  applyFuncName : Option String := none
  deriving DecidableEq, Repr

/-- The options that matter for wrapping compiled code into a module. -/
structure BundleOptions where
  /-- The directory in which the bundle will live; relative libraries are taken from here. -/
  dirname : Path
  /-- The name under which the module is exported. -/
  exportName : Option String := none
  /-- Whether the module loads the promise library itself. -/
  includeVow : Bool := false
  requires : List String := []
  deriving DecidableEq, Repr

namespace Options

def bemhtml : Options where
  target := some "?.bemhtml.js"
  exportName := some "BEMHTML"
  applyFuncName := some "apply"
  includeVow := some false

def bemtree : Options where
  target := some "?.bemtree.xjst.js"
  exportName := some "BEMTREE"
  applyFuncName := some "apply"
  includeVow := some true

/-- Lays options over others: what is set above wins, and libraries add up. -/
def overlay (below above : Options) : Options where
  target := above.target <|> below.target
  devMode := above.devMode <|> below.devMode
  cache := above.cache <|> below.cache
  exportName := above.exportName <|> below.exportName
  applyFuncName := above.applyFuncName <|> below.applyFuncName
  includeVow := above.includeVow <|> below.includeVow
  requires := below.requires ++ above.requires

/-- The file name pattern for targets that set none. -/
def defaultTarget : String := "?.xjst.js"

def targetPattern (options : Options) : String := options.target.getD defaultTarget

def compileConfig (options : Options) : CompileConfig where
  devMode := options.devMode
  cache := options.cache
  exportName := options.exportName
  applyFuncName := options.applyFuncName

/-- The part that wrapping understands, for a bundle in this directory. -/
def bundleOptions (options : Options) (dirname : Path) : BundleOptions where
  dirname
  exportName := options.exportName
  includeVow := options.includeVow.getD false
  requires := options.requires

end Options

/-- The name of a bundle in the directory: the pattern with the directory's own name for each
question mark. A directory whose path ends in no name counts as having the empty one. -/
def targetFileName (pattern : String) (directory : Path) : String :=
  let name := ((directory.fileName?.map Bytes.shown).getD "").toList
  String.ofList (pattern.toList.flatMap fun c => if c = '?' then name else [c])

end TemplateBundler

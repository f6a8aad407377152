import TemplateBundler.Json.Literal
import TemplateBundler.Options
import TemplateBundler.Text.Lines
import TemplateBundler.Text.Quoted

/-! # Bundles

Compiled templates assign their functions to an `exports` object. A bundle wraps that
code into a module which loads the libraries that the templates ask for, runs the code,
and publishes `exports` under the export name: to a module loader if there is one, and
otherwise as a global. Without an export name only `module.exports` is set.

Names and paths enter the module as string literals, so none of them can end early and
be taken for code.
-/

namespace TemplateBundler

inductive BundleError where
  | invalidExportName (name : String)
  deriving DecidableEq, Repr

def BundleError.message : BundleError → String
  | invalidExportName name =>
    s!"Invalid export name {Text.quoted name}: expected a JavaScript identifier"

namespace Bundle

/-- Whether an identifier can start with the character. Only ASCII letters count. -/
def startsIdentifier (c : Char) : Bool := c.isAlpha || c = '_' || c = '$'

def continuesIdentifier (c : Char) : Bool := startsIdentifier c || c.isDigit

def isIdentifier (name : String) : Bool :=
  match name.toList with
  | c :: cs => startsIdentifier c && cs.all continuesIdentifier
  | [] => false

/-- Whether a library's name is a path relative to the bundle. -/
def isRelative (name : String) : Bool :=
  match name.toList with
  | '.' :: '/' :: _ => true
  | '.' :: '.' :: '/' :: _ => true
  | _ => false

/-- What is asked of the module loader for a library: the name itself, or for a relative one its
path, with slashes only. -/
def requirePath (dirname : Path) (name : String) : String :=
  if isRelative name then
    let path := (dirname.join (Path.ofText name)).normalize
    path.shown.map fun c => if c = '\\' then '/' else c
  else name

def prologue : List String :=
  ["(function (g) \x7b",
   "var __xjst_libs__ = \x7b\x7d;",
   "var Vow;",
   "var __xjst_require__ = function (name, globalName) \x7b",
   "    if (typeof require === 'function') \x7b return require(name); \x7d",
   "    return globalName ? g[globalName] : undefined;",
   "\x7d;"]

/-- The line that loads a library. One with a relative path has no global to fall back to. -/
def requireLine (dirname : Path) (name : String) : String :=
  let key := Json.literal name
  let path := Json.literal (requirePath dirname name)
  let globalName := if isRelative name then "null" else key
  "__xjst_libs__[" ++ key ++ "] = __xjst_require__(" ++ path ++ ", " ++ globalName ++ ");"

def vowLine (includeVow : Bool) : String :=
  if includeVow then "Vow = __xjst_require__(\"vow\", \"vow\");" else "Vow = g.Vow;"

/-- The lines that open the function around the compiled code. -/
def opening : List String :=
  ["var exports = \x7b\x7d;",
   "(function (exports, __xjst_libs__, Vow) \x7b"]

/-- The line that closes and calls the function around the compiled code. -/
def closing : String := "\x7d)(exports, __xjst_libs__, Vow);"

/-- The lines that publish the exports under a name. -/
def publish (name : String) : List String :=
  let key := Json.literal name
  ["var defineAsGlobal = true;",
   "if (typeof module === 'object' && typeof module.exports === 'object') \x7b",
   "    module.exports[" ++ key ++ "] = exports;",
   "    defineAsGlobal = false;",
   "\x7d",
   "if (typeof modules === 'object' && typeof modules.define === 'function') \x7b",
   "    modules.define(" ++ key ++ ", [], function (provide) \x7b provide(exports); \x7d);",
   "    defineAsGlobal = false;",
   "\x7d",
   "if (defineAsGlobal) \x7b",
   "    g[" ++ key ++ "] = exports;",
   "\x7d"]

/-- The lines that publish the exports without a name. -/
def publishUnnamed : List String :=
  ["if (typeof module === 'object' && typeof module.exports === 'object') \x7b",
   "    module.exports = exports;",
   "\x7d"]

def epilogue (exportName : Option String) : List String :=
  closing :: (match exportName with
    | some name => publish name
    | none => publishUnnamed)
  ++ ["\x7d)(typeof globalThis !== 'undefined' ? globalThis : this);"]

/-- The module around compiled code. -/
def wrap (options : BundleOptions) (code : String) : String :=
  Text.ofLines (prologue ++ options.requires.map (requireLine options.dirname)
    ++ [vowLine options.includeVow] ++ opening)
  ++ Text.closed code
  ++ Text.ofLines (epilogue options.exportName)

/-- Wraps compiled code into a module, unless its export name is no identifier. -/
def compile (options : BundleOptions) (code : String) : Except BundleError String :=
  match options.exportName with
  | some name =>
    if isIdentifier name then .ok (wrap options code) else .error (.invalidExportName name)
  | none => .ok (wrap options code)

end Bundle

end TemplateBundler

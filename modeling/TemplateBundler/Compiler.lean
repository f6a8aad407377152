import TemplateBundler.Failure
import TemplateBundler.Options

/-! # Compilers

A compiler turns the text of merged templates into code, or reports a failure. It knows
nothing of the files that the text came from.
-/

namespace TemplateBundler

/-- What a compiler is asked for. -/
structure CompileJob where
  /-- The text to compile. -/
  payload : String
  /-- The options to compile it with. -/
  config : CompileConfig := {}
  deriving DecidableEq, Repr

/-- What a compiler answers: the code, or a failure. -/
abbrev CompileResult := Except CompileFailure String

/-- A compiler. -/
abbrev Compiler := CompileJob → CompileResult

end TemplateBundler

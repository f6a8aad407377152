import Mathlib.Computability.Language
import Mathlib.Data.Char
import TemplateBundler.Bundle
import TemplateBundler.Proofs.Json.Literal
import TemplateBundler.Proofs.Text.Lines

/-! # Bundles can be read back

From a module's text one can tell all that went into it: the libraries and their paths, the
compiled code, and the name under which it is published. The front of the text is read from
the left, where no line ends before all of its literals do. What comes after the code is
read from the right, since the code may hold anything.
-/

namespace TemplateBundler.Bundle

variable {name other : String} {dirname dirname' : Path} {requires requires' : List String}
  {includeVow includeVow' : Bool} {exportName exportName' : Option String} {xs ys : List Char}

/-! ## Identifiers -/

/-- What stands behind the last place where a module names its exports. -/
def ending : List Char :=
  " = exports;".toList ++ '\n' :: (Text.ofLines ["\x7d",
    "\x7d)(typeof globalThis !== 'undefined' ? globalThis : this);"]).toList

end TemplateBundler.Bundle

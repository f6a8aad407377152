import TemplateBundler.PositionIndex
import TemplateBundler.Text.Lines

/-! # Merging source units

The merged text is the units' texts in order, each closed by a line feed unless it
already ends in one. What the compiler is given is the merged text followed by a
blank line and the scaffolding, a template that lets the user's templates reach the
bundle's libraries. The scaffolding is not indexed, so no error in it is ever blamed
on a unit.
-/

namespace TemplateBundler

/-- Units merged into one text, with the index of its lines. -/
structure MergedUnit where
  /-- The merged text. -/
  text : String
  /-- Where its lines came from. -/
  index : PositionIndex
  deriving DecidableEq, Repr

/-- Merges units in the given order. -/
def merge (units : List SourceUnit) : MergedUnit where
  text := String.join (units.map fun source => Text.closed source.text)
  index := PositionIndex.ofUnits units

namespace MergedUnit

/-- The number of lines that the units contribute. -/
def lineCount (merged : MergedUnit) : Nat := merged.index.size

/-- The template that gives every template `this.require`. -/
def scaffolding : List String :=
  ["this._mode === \"\", !this.require: applyNext(this.require = function (lib) \x7b",
   "    return __xjst_libs__[lib];",
   "\x7d)"]

/-- The text handed to the compiler. -/
def payload (merged : MergedUnit) : String :=
  merged.text ++ "\n" ++ "\n".intercalate scaffolding

end MergedUnit

end TemplateBundler

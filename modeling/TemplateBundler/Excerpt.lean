import TemplateBundler.LineTable

/-! # Source excerpts

An excerpt shows a line of a text with a caret under a column, and perhaps some lines
around it. The caret line repeats the tabs of the line above, so the caret stands
under its column whatever the width of a tab. A line that does not exist is shown
empty, so that the caret is never lost; line 0 is no line and has no caret.
-/

namespace TemplateBundler

structure ExcerptOptions where
  /-- What every line starts with. -/
  indent : String := "    "
  /-- The number of lines shown before and after the line in question. -/
  linesAround : Nat := 0
  deriving DecidableEq, Repr

namespace Excerpt

/-- How many places past the end of its line the caret may stand. -/
def maxOverhang : Nat := 80

/-- The white space that puts the caret under a column, counted from 1, of the line. A column
far past the end of the line is drawn nearer. -/
def caretPadding (line : List Char) (column : Nat) : List Char :=
  let width := min (column - 1) (line.length + maxOverhang)
  let under := (line.take width).map fun c => if c = '\t' then '\t' else ' '
  under ++ List.replicate (width - line.length) ' '

def caretLine (options : ExcerptOptions) (line : String) (column : Nat) : String :=
  options.indent ++ String.ofList (caretPadding line.toList column) ++ "^"

/-- What is shown for one line of the source, found by its table. The line in question is shown
even if it does not exist, and gets its caret. -/
def shownLine (options : ExcerptOptions) (table : LineTable) (source : String)
    (line column current : Nat) : List String :=
  let text? := table.lineText? current source
  if current = line then
    let text := text?.getD ""
    [options.indent ++ text, caretLine options text column]
  else match text? with
    | some text => [options.indent ++ text]
    | none => []

/-- The lines of the excerpt of a text around a line and column, both counted from 1. -/
def shownLines (options : ExcerptOptions) (source : String) (line column : Nat) : List String :=
  let table := LineTable.ofText source
  let first := max 1 (line - options.linesAround)
  let last := min (line + options.linesAround) (max line table.lineCount)
  (List.range' first (last + 1 - first)).flatMap (shownLine options table source line column)

/-- The excerpt of a text around a line and column, both counted from 1. -/
def render (options : ExcerptOptions) (source : String) (line column : Nat) : String :=
  "\n".intercalate (shownLines options source line column)

end Excerpt

end TemplateBundler

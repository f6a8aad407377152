import TemplateBundler.Excerpt
import TemplateBundler.Failure
import TemplateBundler.Path
import TemplateBundler.PositionIndex
import TemplateBundler.Text.Blank
import TemplateBundler.Text.DecimalDigit

/-! # Diagnosis of compile failures

The compiler reports positions in the merged text. Diagnosis leads them back to the
file that the user wrote: the message is reduced to its first line without the
compiler's own position, the file is named by its path from the root, and the line is
shown. A failure that cannot be led back is passed on as it is; none is dropped.
-/

namespace TemplateBundler

namespace Message

/-- The part before the first line feed, without one carriage return at its end. -/
def firstLine (raw : List Char) : List Char :=
  let line := raw.takeWhile (· != '\n')
  if line.getLast? = some '\r' then line.dropLast else line

/-- Drops a run of decimal digits, which may not be empty. -/
def dropDigits? (cs : List Char) : Option (List Char) :=
  match cs with
  | c :: rest => if Text.isDecimalDigit c then some (rest.dropWhile Text.isDecimalDigit) else none
  | [] => none

def dropBlank? : List Char → Option (List Char)
  | c :: rest => if Text.isBlank c then some rest else none
  | [] => none

/-- Drops the text, if the characters start with it. -/
def dropText? : List Char → List Char → Option (List Char)
  | [], rest => some rest
  | t :: text, c :: rest => if t = c then dropText? text rest else none
  | _ :: _, [] => none

/-- Whether the characters are the compiler's note of its own position, such as ` at: 12:4`, up
to blanks at the end. -/
def isPositionNote (cs : List Char) : Bool :=
  let rest? := do
    let rest ← dropBlank? cs
    let rest ← dropText? ['a', 't', ':'] rest
    let rest ← dropBlank? rest
    let rest ← dropDigits? rest
    let rest ← dropText? [':'] rest
    dropDigits? rest
  match rest? with
  | some rest => rest.all Text.isBlank
  | none => false

/-- Cuts the line where the first position note starts; `before` is what was kept so far, in
reverse. -/
def cutPositionNote (before : List Char) : List Char → List Char
  | [] => before.reverse
  | c :: cs =>
    if isPositionNote (c :: cs) then before.reverse else cutPositionNote (c :: before) cs

/-- The part of a compiler message that is worth showing beside an excerpt. -/
def clean (raw : String) : String :=
  String.ofList (cutPositionNote [] (firstLine raw.toList))

end Message

/-- A compile error in a file of the user. -/
structure SyntaxError where
  /-- The whole message, with the path and the excerpt. -/
  message : String
  path : String
  line : Nat
  column : Nat
  deriving DecidableEq, Repr

/-- A compile failure after diagnosis. -/
inductive Diagnosis where
  /-- The failure was led back to a file. -/
  | inFile (error : SyntaxError)
  /-- The failure could not be led back and is passed on. -/
  | passedOn (failure : CompileFailure)
  deriving DecidableEq, Repr

namespace Diagnosis

def syntaxError (root : Path) (options : ExcerptOptions) (message : String)
    (position : SourcePosition) : SyntaxError :=
  let path := Path.display root (Path.ofText position.source.identifier)
  let excerpt := Excerpt.render options position.source.text position.line position.column
  { message := Message.clean message ++ " at " ++ path ++ "\n" ++ excerpt
    path
    line := position.line
    column := position.column }

/-- Leads a failure back through the index. Paths are shown relative to `root`. -/
def ofFailure (root : Path) (options : ExcerptOptions) (index : PositionIndex)
    (failure : CompileFailure) : Diagnosis :=
  match failure.position? with
  | none => passedOn failure
  | some (line, column) =>
    match index.resolve line column with
    | none => passedOn failure
    | some position => inFile (syntaxError root options failure.message position)

def message : Diagnosis → String
  | inFile error => error.message
  | passedOn failure => failure.message

end Diagnosis

end TemplateBundler

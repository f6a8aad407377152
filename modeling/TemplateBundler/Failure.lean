/-! # Compile failures

What the template compiler reports when it cannot compile. The report is loosely
shaped: a message, and perhaps a line and a column. Whether a failure has a position
is decided once, on arrival: it has one when both numbers are there and neither is
zero.
-/

namespace TemplateBundler

/-- A failure reported by the compiler, in the lines of the text that it was given. -/
inductive CompileFailure where
  /-- A failure at a line and column, both counted from 1. -/
  | positioned (message : String) (line column : Nat)
  /-- A failure without a usable position. -/
  | unpositioned (message : String)
  deriving DecidableEq, Repr

structure FailureReport where
  message : String
  line : Option Nat := none
  column : Option Nat := none
  deriving DecidableEq, Repr

namespace CompileFailure

/-- The compiler's message, as it is. -/
def message : CompileFailure → String
  | positioned message _ _ => message
  | unpositioned message => message

/-- The line and column, if there is a position. -/
def position? : CompileFailure → Option (Nat × Nat)
  | positioned _ line column => some (line, column)
  | unpositioned _ => none

/-- The failure that a report stands for. -/
def ofReport (report : FailureReport) : CompileFailure :=
  match report.line, report.column with
  | some line, some column =>
    if 0 < line && 0 < column then positioned report.message line column
    else unpositioned report.message
  | _, _ => unpositioned report.message

def toReport : CompileFailure → FailureReport
  | positioned message line column => { message, line := some line, column := some column }
  | unpositioned message => { message }

end CompileFailure

end TemplateBundler

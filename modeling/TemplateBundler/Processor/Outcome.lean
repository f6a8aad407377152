import TemplateBundler.FileTree
import TemplateBundler.Processor.Message
import TemplateBundler.Text.Blank

/-! # Outcomes of a processor

What became of a processor decides what it says. A program that failed counts as failed
whatever it wrote; one that did not take the whole request cannot have answered it; only
then does its output count.
-/

namespace TemplateBundler.Processor

/-- What became of a processor. -/
inductive Outcome where
  /-- It could not be started. -/
  | refused (error : FileError)
  | ran (ending : Ending) (stdout stderr : Bytes) (writeError : Option FileError)
  deriving DecidableEq, Repr

/-- The most bytes of a processor's error output that a message quotes. -/
def maxQuotedErrors : Nat := 2000

/-- What a message quotes of the error output. -/
def quotedErrors (stderr : Bytes) : String :=
  Text.truncate maxQuotedErrors (Text.trim stderr.shown)

/-- How a message names an ending. -/
def endingName : Ending → String
  | .exited code => toString code
  | .killed => "signal"

/-- What an outcome says, for the program at this path. -/
def Outcome.result (program : Path) : Outcome → CompileResult
  | .refused error =>
    .error (.unpositioned
      s!"Failed to spawn XJST processor ({program.shown}): {error.message}")
  | .ran ending stdout stderr writeError =>
    if ending ≠ .exited 0 then
      .error (.unpositioned
        s!"XJST processor failed (exit {endingName ending}): {quotedErrors stderr}")
    else match writeError with
      | some error =>
        .error (.unpositioned
          (s!"Failed to write to XJST processor stdin: {error.message}: " ++
            quotedErrors stderr))
      | none => readOutput stdout.shown

end TemplateBundler.Processor

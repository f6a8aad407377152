import TemplateBundler.Failure
import TemplateBundler.Schema.Exchange

/-! # Exchanging compile failures

A failure travels as a report. Numbers that are not set are left out when it is written
and may be absent when it is read.
-/

namespace TemplateBundler

@[reducible] def FailureReport.schema : Schema :=
  .record "RawCompileFailure"
    (.cons "message" .text true
      (.cons "line" (.optional .natural) false (.cons "column" (.optional .natural) false .nil)))

def FailureReport.exchange : Exchange FailureReport where
  schema := FailureReport.schema
  lay report := (report.message, report.line, report.column, ())
  lift := fun (message, line, column, ()) => { message, line, column }

/-- How failures are exchanged: as their reports. -/
def CompileFailure.exchange : Exchange CompileFailure where
  schema := FailureReport.schema
  lay failure := FailureReport.exchange.lay failure.toReport
  lift report := CompileFailure.ofReport (FailureReport.exchange.lift report)

end TemplateBundler

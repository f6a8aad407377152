import TemplateBundler.Compiler
import TemplateBundler.Failure.Exchange
import TemplateBundler.Options.Exchange
import TemplateBundler.Text.Slice

/-! # Messages of a processor

A processor is a program that compiles one job: it reads a request from its input and
writes a response to its output, both as JSON. A response holds code or a failure; if it
holds both, the failure counts.
-/

namespace TemplateBundler.Processor

@[reducible] def requestSchema : Schema :=
  .record "ProcessorRequest"
    (.cons "source" .text true (.cons "options" CompileConfig.schema true .nil))

/-- How jobs are exchanged: as requests. -/
def request : Exchange CompileJob where
  schema := requestSchema
  lay job := (job.payload, CompileConfig.exchange.lay job.config, ())
  lift := fun (payload, config, ()) => { payload, config := CompileConfig.exchange.lift config }

structure Response where
  result : Option String := none
  error : Option FailureReport := none
  deriving DecidableEq, Repr

@[reducible] def responseSchema : Schema :=
  .record "ProcessorResponse"
    (.cons "result" (.optional .text) false
      (.cons "error" (.optional FailureReport.schema) false .nil))

def response : Exchange Response where
  schema := responseSchema
  lay response := (response.result, response.error.map FailureReport.exchange.lay, ())
  lift := fun (result, error, ()) => { result, error := error.map FailureReport.exchange.lift }

def Response.outcome (response : Response) : CompileResult :=
  match response.error, response.result with
  | some report, _ => .error (.ofReport report)
  | none, some code => .ok code
  | none, none =>
    .error (.unpositioned "XJST processor returned neither a result nor an error")

/-- The most bytes of a processor's output that a message quotes. -/
def maxQuotedOutput : Nat := 500

/-- What the output of a processor says. -/
def readOutput (output : String) : CompileResult :=
  match response.parse output with
  | .ok response => response.outcome
  | .error error =>
    .error (.unpositioned
      (s!"Failed to parse XJST processor output: {error.message}\nOutput: " ++
        Text.truncate maxQuotedOutput output))

end TemplateBundler.Processor

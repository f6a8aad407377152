import TemplateBundler.Compiler
import TemplateBundler.Text.Quoted

/-! # Job queues

A queue passes jobs to a fixed number of workers, which share one compiler. Jobs wait in
a channel of limited length, in the order in which they were accepted; a submitter waits
while the channel is full. The workers share the receiving end of the channel, and only one
of them holds it at a time. Each result goes back to the submitter of its job. A compiler
that crashes costs its own job an answer but does not harm the worker.

A queue moves by single steps, of which any enabled one may come next. Every order in which
things can happen is so a list of steps.
-/

namespace TemplateBundler

/-- How a run of the compiler ends. -/
inductive RunEnd where
  | answered (result : CompileResult)
  /-- With a crash, which may have a text. -/
  | crashed (text : Option String)

/-- What a worker reports for a run. -/
def RunEnd.result (worker : Nat) : RunEnd → CompileResult
  | answered result => result
  | crashed text =>
    let detail := match text with
      | some text => s!" with message {Text.quoted text}"
      | none => ""
    .error (.unpositioned s!"Compile worker {worker} failed: task <id> panicked{detail}")

/-- The answer for a job that is submitted to a queue without workers. -/
def shutDownResult : CompileResult := .error (.unpositioned "Compile job queue is shut down")

/-- The answer for a job whose worker went away. -/
def droppedResult : CompileResult :=
  .error (.unpositioned "Compile job was dropped before it completed")

inductive Progress where
  /-- The submitter waits for room in the channel. -/
  | waiting
  | queued
  /-- A worker runs the compiler on it. -/
  | running (worker : Nat)
  /-- The worker has a result that was not sent yet. -/
  | compiled (worker : Nat) (result : CompileResult)
  | settled (result : CompileResult)
  /-- The submitter went away, and nothing is left to do. -/
  | abandoned

/-- A job and what has become of it. -/
structure Submission where
  job : CompileJob
  progress : Progress := .waiting
  /-- Whether the submitter still waits for the answer. -/
  present : Bool := true
  /-- How often the compiler was run on it. -/
  runs : Nat := 0

inductive Worker where
  /-- Waits for its turn at the receiving end of the channel. -/
  | idle
  /-- Holds the receiving end until a job comes. -/
  | listening
  /-- Working on the submission with this number. -/
  | busy (ticket : Nat)
  | gone
  deriving DecidableEq, Repr

/-- A queue with its workers and all that was ever submitted. -/
structure Queue where
  /-- The submissions, in order; their places are their numbers. -/
  submissions : List Submission := []
  /-- The numbers of the submissions in the channel, the oldest first. -/
  channel : List Nat := []
  workers : List Worker
  accepting : Bool := true

inductive QueueStep where
  | submit (job : CompileJob)
  /-- A waiting submission gets into the channel. -/
  | accept (ticket : Nat)
  /-- An idle worker gets hold of the receiving end. -/
  | listen (worker : Nat)
  /-- The listening worker takes the oldest job, lets go of the receiving end and runs the
  compiler. -/
  | take (worker : Nat)
  | finish (worker : Nat) (ending : RunEnd)
  | answer (worker : Nat)
  | leave (ticket : Nat)
  /-- No more jobs are to be submitted. Whoever waits for room still holds the queue open. -/
  | close
  /-- The listening worker finds that no more jobs can come. -/
  | exit (worker : Nat)
  /-- Some workers are taken away, whatever they are at. With the last of them goes the
  channel. -/
  | lose (lost : Nat → Bool)

/-- All workers are taken away at once. -/
def QueueStep.tearDown : QueueStep := .lose fun _ => true

/-- The answer that is left for a submission when some workers are lost, and the channel is closed
with the last of them. There is none as long as somebody can still serve it. -/
def Progress.verdict? (lost : Nat → Bool) (closed : Bool) : Progress → Option CompileResult
  | waiting => if closed then some shutDownResult else none
  | queued => if closed then some droppedResult else none
  | running worker | compiled worker _ => if lost worker then some droppedResult else none
  | settled _ | abandoned => none

namespace Submission

def enqueue (submission : Submission) : Submission :=
  { submission with progress := .queued }

def start (submission : Submission) (worker : Nat) : Submission :=
  { submission with progress := .running worker, runs := submission.runs + 1 }

def finish (submission : Submission) (worker : Nat) (ending : RunEnd) : Submission :=
  { submission with progress := .compiled worker (ending.result worker) }

/-- The submission after its answer arrives, or is thrown away because nobody waits for it. -/
def settle (submission : Submission) (result : CompileResult) : Submission :=
  { submission with progress := if submission.present then .settled result else .abandoned }

/-- Whether the submitter can still go away. -/
def canLeave (submission : Submission) : Bool :=
  submission.present && !(submission.progress matches .settled _)

/-- The submission without its submitter. One that was not accepted is forgotten. -/
def leave (submission : Submission) : Submission :=
  { submission with
    progress := if submission.progress matches .waiting then .abandoned else submission.progress
    present := false }

/-- What becomes of a submission when some workers are lost. -/
def orphan (submission : Submission) (lost : Nat → Bool) (closed : Bool) : Submission :=
  match submission.progress.verdict? lost closed with
  | some result => submission.settle result
  | none => submission

end Submission

namespace Queue

/-- How many jobs the channel holds for each worker. -/
def depthPerWorker : Nat := 16

/-- A queue with this many workers, but at least one. -/
def ofWorkers (count : Nat) : Queue where
  workers := List.replicate (max 1 count) .idle

/-- The most jobs that the channel holds. -/
def capacity (queue : Queue) : Nat := depthPerWorker * queue.workers.length

def isAlive (queue : Queue) : Bool := queue.workers.any (· != .gone)

def progress? (queue : Queue) (ticket : Nat) : Option Progress :=
  queue.submissions[ticket]?.map (·.progress)

/-- Whether any submitter waits for room in the channel. -/
def hasWaiting (queue : Queue) : Bool :=
  queue.submissions.any fun submission => submission.progress matches .waiting

def runs (queue : Queue) : Nat :=
  queue.submissions.foldr (fun submission count => submission.runs + count) 0

/-- A new submission. Without workers it is answered at once. -/
def admission (queue : Queue) (job : CompileJob) : Submission where
  job := job
  progress := if queue.isAlive then .waiting else .settled shutDownResult

def modify (queue : Queue) (ticket : Nat) (change : Submission → Submission) : Queue :=
  { queue with submissions := queue.submissions.modify ticket change }

def setWorker (queue : Queue) (worker : Nat) (status : Worker) : Queue :=
  { queue with workers := queue.workers.set worker status }

def submit (queue : Queue) (job : CompileJob) : Queue :=
  { queue with submissions := queue.submissions ++ [queue.admission job] }

def enqueue (queue : Queue) (ticket : Nat) : Queue :=
  { queue.modify ticket (·.enqueue) with channel := queue.channel ++ [ticket] }

/-- The queue after a worker took this submission, with what it left in the channel. -/
def start (queue : Queue) (worker ticket : Nat) (channel : List Nat) : Queue :=
  { (queue.modify ticket (·.start worker)).setWorker worker (.busy ticket) with channel }

/-- The queue after a worker sent the result for this submission. -/
def answer (queue : Queue) (worker ticket : Nat) (result : CompileResult) : Queue :=
  (queue.modify ticket (·.settle result)).setWorker worker .idle

def close (queue : Queue) : Queue := { queue with accepting := false }

/-- The workers that are left. -/
def remaining (queue : Queue) (lost : Nat → Bool) : List Worker :=
  queue.workers.mapIdx fun worker status => if lost worker then .gone else status

/-- The queue after some workers are lost. -/
def lose (queue : Queue) (lost : Nat → Bool) : Queue :=
  let closed := (queue.remaining lost).all (· == .gone)
  { queue with
    submissions := queue.submissions.map (·.orphan lost closed)
    channel := if closed then [] else queue.channel
    workers := queue.remaining lost }

/-- The queue after a step, if the step is enabled. -/
def step? (queue : Queue) : QueueStep → Option Queue
  | .submit job =>
    if queue.accepting then some (queue.submit job) else none
  | .accept ticket =>
    match queue.progress? ticket with
    | some .waiting =>
      if queue.isAlive && queue.channel.length < queue.capacity then some (queue.enqueue ticket)
      else none
    | _ => none
  | .listen worker =>
    match queue.workers[worker]? with
    | some .idle =>
      if queue.workers.contains .listening then none
      else some (queue.setWorker worker .listening)
    | _ => none
  | .take worker =>
    match queue.workers[worker]?, queue.channel with
    | some .listening, ticket :: channel => some (queue.start worker ticket channel)
    | _, _ => none
  | .finish worker ending =>
    match queue.workers[worker]? with
    | some (.busy ticket) =>
      match queue.progress? ticket with
      | some (.running _) => some (queue.modify ticket (·.finish worker ending))
      | _ => none
    | _ => none
  | .answer worker =>
    match queue.workers[worker]? with
    | some (.busy ticket) =>
      match queue.progress? ticket with
      | some (.compiled _ result) => some (queue.answer worker ticket result)
      | _ => none
    | _ => none
  | .leave ticket =>
    match queue.submissions[ticket]? with
    | some submission =>
      if submission.canLeave then some (queue.modify ticket (·.leave)) else none
    | none => none
  | .close =>
    if queue.accepting && !queue.hasWaiting then some queue.close else none
  | .exit worker =>
    match queue.workers[worker]?, queue.channel with
    | some .listening, [] =>
      if queue.accepting then none else some (queue.setWorker worker .gone)
    | _, _ => none
  | .lose lost => if queue.isAlive then some (queue.lose lost) else none

end Queue

end TemplateBundler

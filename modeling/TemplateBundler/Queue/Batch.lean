import TemplateBundler.Queue.Basic

/-! # Running batches of jobs

A batch is run by taking enabled steps until every job has its answer: sending what is
ready comes before starting what waits.
-/

namespace TemplateBundler.Queue

/-- What a worker does next, if it is working or can take a job. -/
def workerStep? (queue : Queue) (compile : CompileJob → RunEnd) (worker : Nat) (status : Worker) :
    Option QueueStep :=
  match status with
  | .idle =>
    if queue.channel.isEmpty || queue.workers.contains .listening then none
    else some (.listen worker)
  | .listening => if queue.channel.isEmpty then none else some (.take worker)
  | .busy ticket => do
    let submission ← queue.submissions[ticket]?
    match submission.progress with
    | .running _ => return .finish worker (compile submission.job)
    | .compiled _ _ => return .answer worker
    | _ => none
  | .gone => none

/-- The step to take next, if there is any left. -/
def nextStep? (queue : Queue) (compile : CompileJob → RunEnd) : Option QueueStep :=
  let working := queue.workers.zipIdx.findSome? fun (status, worker) =>
    queue.workerStep? compile worker status
  let waiting := queue.submissions.findIdx? fun submission =>
    submission.progress matches .waiting
  match working, waiting with
  | some step, _ => some step
  | none, some ticket => some (.accept ticket)
  | none, none => none

/-- Takes steps until none is left. -/
def settle (compile : CompileJob → RunEnd) : Nat → Queue → Queue
  | 0, queue => queue
  | fuel + 1, queue =>
    match (queue.nextStep? compile).bind queue.step? with
    | some queue => settle compile fuel queue
    | none => queue

/-- Submits jobs. -/
def submitAll (queue : Queue) (jobs : List CompileJob) : Queue :=
  jobs.foldl (fun queue job => (queue.step? (.submit job)).getD queue) queue

/-- Runs a batch of jobs to the end. Each job takes five steps. -/
def runBatch (queue : Queue) (compile : CompileJob → RunEnd) (jobs : List CompileJob) : Queue :=
  let queue := queue.submitAll jobs
  settle compile (5 * queue.submissions.length) queue

/-- The answers from the submission with this number on. -/
def answersFrom (queue : Queue) (ticket : Nat) : List CompileResult :=
  (queue.submissions.drop ticket).filterMap fun submission =>
    match submission.progress with
    | .settled result => some result
    | _ => none

end TemplateBundler.Queue

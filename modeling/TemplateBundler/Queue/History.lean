import TemplateBundler.Queue.Basic

/-! # The history of a queue

What a run of steps makes happen to the jobs, in order: a job is accepted into the channel,
a worker starts the compiler on it, the compiler ends, and the worker sends the answer. The
queue itself forgets which worker served a job and in which order; the history does not.
-/

namespace TemplateBundler

/-- Something that happens to a submission, which is given by its number. -/
inductive QueueEvent where
  | accepted (ticket : Nat)
  | started (ticket worker : Nat)
  | ended (ticket worker : Nat) (ending : RunEnd)
  /-- The worker sent the answer, whether or not anybody waited for it. -/
  | answered (ticket worker : Nat)

namespace QueueEvent

def ticket : QueueEvent → Nat
  | accepted ticket | started ticket _ | ended ticket _ _ | answered ticket _ => ticket

def accepted? : QueueEvent → Option Nat
  | accepted ticket => some ticket
  | _ => none

def started? : QueueEvent → Option Nat
  | started ticket _ => some ticket
  | _ => none

/-- The events of one submission. -/
def own (ticket : Nat) (events : List QueueEvent) : List QueueEvent :=
  events.filter (·.ticket = ticket)

/-- All that happens to a submission that is served to the end, in order. -/
def course (ticket worker : Nat) (ending : RunEnd) : List QueueEvent :=
  [accepted ticket, started ticket worker, ended ticket worker ending, answered ticket worker]

end QueueEvent

namespace QueueStep

/-- Whether the step is one of serving jobs: nothing is shut down and no worker goes away. -/
def serves : QueueStep → Bool
  | close | exit _ | lose _ => false
  | _ => true

/-- Whether the queue takes the step of itself, without anything from outside. -/
def isOwn : QueueStep → Bool
  | submit _ | leave _ | close | lose _ => false
  | _ => true

/-- Whether workers are taken away. -/
def loses : QueueStep → Bool
  | lose _ => true
  | _ => false

def submitted? : QueueStep → Option CompileJob
  | submit job => some job
  | _ => none

end QueueStep

namespace Queue

/-- What a step makes happen. -/
def event? (queue : Queue) : QueueStep → Option QueueEvent
  | .accept ticket => some (.accepted ticket)
  | .take worker => queue.channel.head?.map (.started · worker)
  | .finish worker ending =>
    match queue.workers[worker]? with
    | some (.busy ticket) => some (.ended ticket worker ending)
    | _ => none
  | .answer worker =>
    match queue.workers[worker]? with
    | some (.busy ticket) => some (.answered ticket worker)
    | _ => none
  | _ => none

/-- The queue after the steps, if each of them is enabled in its turn. -/
def run? (queue : Queue) (steps : List QueueStep) : Option Queue := steps.foldlM step? queue

/-- What the steps make happen, in order. -/
def events (queue : Queue) : List QueueStep → List QueueEvent
  | [] => []
  | step :: steps =>
    match queue.step? step with
    | some after => (queue.event? step).toList ++ after.events steps
    | none => []

/-- Whether a run of the compiler may end as the step says. `ends` relates a job to the ways in
which the compiler may end on it; it need not end the same way each time. -/
def Permits (ends : CompileJob → RunEnd → Prop) (queue : Queue) : QueueStep → Prop
  | .finish worker ending =>
    ∀ ticket submission, queue.workers[worker]? = some (.busy ticket) →
      queue.submissions[ticket]? = some submission → ends submission.job ending
  | _ => True

/-- Whether the compiler ends as it may in each of the steps. -/
def PermitsAll (ends : CompileJob → RunEnd → Prop) (queue : Queue) : List QueueStep → Prop
  | [] => True
  | step :: steps =>
    queue.Permits ends step ∧
      ∀ after, queue.step? step = some after → after.PermitsAll ends steps

end Queue

end TemplateBundler

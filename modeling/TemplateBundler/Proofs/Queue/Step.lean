import Mathlib.Data.List.Induction
import TemplateBundler.Queue.History

/-! # Steps of a queue

Each kind of step as a rule of its own: what it needs, and what it changes. All that a
queue keeps is read off these rules, so nothing else looks into `step?`.
-/

namespace TemplateBundler.Queue

/-! ## The rules -/

/-- A step from one queue to the next, with what it needs to be enabled. -/
inductive Move (queue : Queue) : QueueStep → Queue → Prop where
  | submit (job : CompileJob) (haccepting : queue.accepting = true) :
      Move queue (.submit job) (queue.submit job)
  | accept {ticket : Nat} (hwaiting : queue.progress? ticket = some .waiting)
      (halive : queue.isAlive = true) (hroom : queue.channel.length < queue.capacity) :
      Move queue (.accept ticket) (queue.enqueue ticket)
  | listen {worker : Nat} (hidle : queue.workers[worker]? = some .idle)
      (hfree : .listening ∉ queue.workers) :
      Move queue (.listen worker) (queue.setWorker worker .listening)
  | take {worker ticket : Nat} {channel : List Nat}
      (hlistening : queue.workers[worker]? = some .listening)
      (hchannel : queue.channel = ticket :: channel) :
      Move queue (.take worker) (queue.start worker ticket channel)
  | finish {worker ticket other : Nat} (ending : RunEnd)
      (hbusy : queue.workers[worker]? = some (.busy ticket))
      (hrunning : queue.progress? ticket = some (.running other)) :
      Move queue (.finish worker ending) (queue.modify ticket (·.finish worker ending))
  | answer {worker ticket other : Nat} {result : CompileResult}
      (hbusy : queue.workers[worker]? = some (.busy ticket))
      (hcompiled : queue.progress? ticket = some (.compiled other result)) :
      Move queue (.answer worker) (queue.answer worker ticket result)
  | leave {ticket : Nat} {submission : Submission}
      (hsubmission : queue.submissions[ticket]? = some submission)
      (hleave : submission.canLeave = true) :
      Move queue (.leave ticket) (queue.modify ticket (·.leave))
  | close (haccepting : queue.accepting = true) (hwaiting : queue.hasWaiting = false) :
      Move queue .close queue.close
  | exit {worker : Nat} (hlistening : queue.workers[worker]? = some .listening)
      (hempty : queue.channel = []) (hclosed : queue.accepting = false) :
      Move queue (.exit worker) (queue.setWorker worker .gone)
  | lose (lost : Nat → Bool) (halive : queue.isAlive = true) :
      Move queue (.lose lost) (queue.lose lost)

theorem Move.of_step? {queue after : Queue} {step : QueueStep}
    (h : queue.step? step = some after) : Move queue step after := by
  cases step with
  | submit job =>
      simp only [step?, Option.ite_none_right_eq_some, Option.some.injEq] at h
      obtain ⟨haccepting, rfl⟩ := h
      exact .submit job haccepting
  | accept ticket =>
      simp only [step?] at h
      split at h
      next hwaiting =>
        simp only [Bool.and_eq_true, decide_eq_true_eq, Option.ite_none_right_eq_some,
          Option.some.injEq] at h
        obtain ⟨⟨halive, hroom⟩, rfl⟩ := h
        exact .accept hwaiting halive hroom
      next => cases h
  | listen worker =>
      simp only [step?] at h
      split at h
      next hidle =>
        simp only [List.contains_iff_mem, Option.ite_none_left_eq_some, Option.some.injEq] at h
        obtain ⟨hfree, rfl⟩ := h
        exact .listen hidle hfree
      next => cases h
  | take worker =>
      simp only [step?] at h
      split at h
      next hlistening hchannel =>
        obtain rfl := Option.some.inj h
        exact .take hlistening hchannel
      next => cases h
  | finish worker ending =>
      simp only [step?] at h
      split at h
      next hbusy =>
        split at h
        next hrunning =>
          obtain rfl := Option.some.inj h
          exact .finish ending hbusy hrunning
        next => cases h
      next => cases h
  | answer worker =>
      simp only [step?] at h
      split at h
      next hbusy =>
        split at h
        next hcompiled =>
          obtain rfl := Option.some.inj h
          exact .answer hbusy hcompiled
        next => cases h
      next => cases h
  | leave ticket =>
      simp only [step?] at h
      split at h
      next hsubmission =>
        simp only [Option.ite_none_right_eq_some, Option.some.injEq] at h
        obtain ⟨hleave, rfl⟩ := h
        exact .leave hsubmission hleave
      next => cases h
  | close =>
      simp only [step?, Bool.and_eq_true, Bool.not_eq_true', Option.ite_none_right_eq_some,
        Option.some.injEq] at h
      obtain ⟨⟨haccepting, hwaiting⟩, rfl⟩ := h
      exact .close haccepting hwaiting
  | exit worker =>
      simp only [step?] at h
      split at h
      next hlistening hempty =>
        simp only [Option.ite_none_left_eq_some, Bool.not_eq_true, Option.some.injEq] at h
        obtain ⟨hclosed, rfl⟩ := h
        exact .exit hlistening hempty hclosed
      next => cases h
  | lose lost =>
      simp only [step?, Option.ite_none_right_eq_some, Option.some.injEq] at h
      obtain ⟨halive, rfl⟩ := h
      exact .lose lost halive

theorem Move.step?_eq {queue after : Queue} {step : QueueStep} (h : Move queue step after) :
    queue.step? step = some after := by
  cases h <;> simp [step?, *]

/-! ## What the rules change -/

section Changes

variable (queue : Queue) (ticket worker : Nat) (status : Worker)
  (change : Submission → Submission) (job : CompileJob) (channel : List Nat)
  (result : CompileResult)

@[simp] theorem channel_modify : (queue.modify ticket change).channel = queue.channel := rfl
@[simp] theorem workers_modify : (queue.modify ticket change).workers = queue.workers := rfl
@[simp] theorem accepting_modify : (queue.modify ticket change).accepting = queue.accepting := rfl

@[simp] theorem channel_setWorker : (queue.setWorker worker status).channel = queue.channel := rfl
@[simp] theorem workers_setWorker :
    (queue.setWorker worker status).workers = queue.workers.set worker status := rfl
@[simp] theorem accepting_setWorker :
    (queue.setWorker worker status).accepting = queue.accepting := rfl

@[simp] theorem submissions_submit :
    (queue.submit job).submissions = queue.submissions ++ [queue.admission job] := rfl
@[simp] theorem workers_submit : (queue.submit job).workers = queue.workers := rfl
@[simp] theorem accepting_submit : (queue.submit job).accepting = queue.accepting := rfl

@[simp] theorem submissions_enqueue :
    (queue.enqueue ticket).submissions = (queue.modify ticket (·.enqueue)).submissions := rfl
@[simp] theorem channel_enqueue : (queue.enqueue ticket).channel = queue.channel ++ [ticket] := rfl
@[simp] theorem workers_enqueue : (queue.enqueue ticket).workers = queue.workers := rfl
@[simp] theorem accepting_enqueue : (queue.enqueue ticket).accepting = queue.accepting := rfl

@[simp] theorem submissions_start : (queue.start worker ticket channel).submissions =
    (queue.modify ticket (·.start worker)).submissions := rfl
@[simp] theorem channel_start : (queue.start worker ticket channel).channel = channel := rfl
@[simp] theorem workers_start : (queue.start worker ticket channel).workers =
    queue.workers.set worker (.busy ticket) := rfl
@[simp] theorem accepting_start :
    (queue.start worker ticket channel).accepting = queue.accepting := rfl

@[simp] theorem submissions_answer : (queue.answer worker ticket result).submissions =
    (queue.modify ticket (·.settle result)).submissions := rfl
@[simp] theorem channel_answer : (queue.answer worker ticket result).channel = queue.channel := rfl
@[simp] theorem workers_answer :
    (queue.answer worker ticket result).workers = queue.workers.set worker .idle := rfl
@[simp] theorem accepting_answer :
    (queue.answer worker ticket result).accepting = queue.accepting := rfl

@[simp] theorem workers_close : queue.close.workers = queue.workers := rfl

@[simp] theorem workers_lose (lost : Nat → Bool) :
    (queue.lose lost).workers = queue.remaining lost := rfl
@[simp] theorem accepting_lose (lost : Nat → Bool) :
    (queue.lose lost).accepting = queue.accepting := rfl

theorem remaining_getElem? (lost : Nat → Bool) :
    (queue.remaining lost)[worker]? =
      queue.workers[worker]?.map fun status => if lost worker then .gone else status := by
  simp [remaining]

theorem isAlive_eq_true_iff : queue.isAlive = true ↔ ∃ status ∈ queue.workers, status ≠ .gone := by
  simp [isAlive]

theorem isAlive_eq_false_iff :
    queue.isAlive = false ↔ ∀ status ∈ queue.workers, status = .gone := by
  simp [isAlive]

theorem all_gone_remaining (lost : Nat → Bool) :
    (queue.remaining lost).all (· == .gone) = !(queue.lose lost).isAlive := by
  simp [isAlive, bne, List.not_any_eq_all_not]

end Changes

/-! ## What the rules change for one submission -/

section Lookup

variable {queue : Queue} {ticket : Nat} {submission : Submission} {progress : Progress}

theorem progress?_eq_some_iff : queue.progress? ticket = some progress ↔
    ∃ submission, queue.submissions[ticket]? = some submission ∧
      submission.progress = progress := by
  simp [progress?]

theorem progress?_of_getElem? (h : queue.submissions[ticket]? = some submission) :
    queue.progress? ticket = some submission.progress := by
  simp [progress?, h]

theorem modify_getElem? (h : queue.submissions[ticket]? = some submission)
    (change : Submission → Submission) (other : Nat) :
    (queue.modify ticket change).submissions[other]? =
      if other = ticket then some (change submission) else queue.submissions[other]? := by
  rw [modify, List.getElem?_modify]
  by_cases hother : other = ticket
  · simp [hother, h]
  · simp [hother, Ne.symm hother]

theorem submit_getElem? (queue : Queue) (job : CompileJob) (other : Nat) :
    (queue.submit job).submissions[other]? =
      if other = queue.submissions.length then some (queue.admission job)
      else queue.submissions[other]? := by
  rw [submissions_submit, List.getElem?_append]
  split_ifs with hlt hnew hnew
  · omega
  · rfl
  · simp [hnew]
  · rw [List.getElem?_eq_none (by simp; omega), List.getElem?_eq_none (by omega)]

theorem progress?_submit (queue : Queue) (job : CompileJob) (other : Nat) :
    (queue.submit job).progress? other =
      if other = queue.submissions.length then some (queue.admission job).progress
      else queue.progress? other := by
  rw [progress?, submit_getElem?]
  split_ifs <;> rfl

theorem progress?_modify (h : queue.submissions[ticket]? = some submission)
    (change : Submission → Submission) (other : Nat) :
    (queue.modify ticket change).progress? other =
      if other = ticket then some (change submission).progress else queue.progress? other := by
  rw [progress?, modify_getElem? h]
  split_ifs <;> rfl

theorem progress?_enqueue (h : queue.progress? ticket = some progress) (other : Nat) :
    (queue.enqueue ticket).progress? other =
      if other = ticket then some .queued else queue.progress? other := by
  obtain ⟨submission, hsubmission, -⟩ := progress?_eq_some_iff.mp h
  exact progress?_modify hsubmission (·.enqueue) other

theorem progress?_start (h : queue.progress? ticket = some progress) (worker : Nat)
    (channel : List Nat) (other : Nat) :
    (queue.start worker ticket channel).progress? other =
      if other = ticket then some (.running worker) else queue.progress? other := by
  obtain ⟨submission, hsubmission, -⟩ := progress?_eq_some_iff.mp h
  exact progress?_modify hsubmission (·.start worker) other

theorem progress?_finish (h : queue.progress? ticket = some progress) (worker : Nat)
    (ending : RunEnd) (other : Nat) :
    (queue.modify ticket (·.finish worker ending)).progress? other =
      if other = ticket then some (.compiled worker (ending.result worker))
      else queue.progress? other := by
  obtain ⟨submission, hsubmission, -⟩ := progress?_eq_some_iff.mp h
  exact progress?_modify hsubmission (·.finish worker ending) other

theorem lose_getElem? (queue : Queue) (lost : Nat → Bool) (other : Nat) :
    (queue.lose lost).submissions[other]? =
      queue.submissions[other]?.map (·.orphan lost (!(queue.lose lost).isAlive)) := by
  rw [← all_gone_remaining]
  simp [lose]

end Lookup

/-! ## Runs -/

section Runs

variable {queue middle after : Queue} {steps : List QueueStep}

theorem run?_append (queue : Queue) (steps more : List QueueStep) :
    queue.run? (steps ++ more) = (queue.run? steps).bind (·.run? more) :=
  List.foldlM_append

theorem run?_append_of_eq_some (h : queue.run? steps = some middle) (more : List QueueStep) :
    queue.run? (steps ++ more) = middle.run? more := by
  rw [run?_append, h, Option.bind_some]

theorem run?_cons_eq_some_iff {step : QueueStep} :
    queue.run? (step :: steps) = some after ↔
      ∃ between, Move queue step between ∧ between.run? steps = some after := by
  rw [run?, List.foldlM_cons]
  constructor
  · intro h
    obtain ⟨between, hstep, hrest⟩ := Option.bind_eq_some_iff.mp h
    exact ⟨between, .of_step? hstep, hrest⟩
  · rintro ⟨between, hmove, hrest⟩
    exact Option.bind_eq_some_iff.mpr ⟨between, hmove.step?_eq, hrest⟩

theorem run?_append_eq_some_iff {more : List QueueStep} :
    queue.run? (steps ++ more) = some after ↔
      ∃ middle, queue.run? steps = some middle ∧ middle.run? more = some after := by
  rw [run?_append, Option.bind_eq_some_iff]

/-- What holds at the start and is kept by every step holds in every queue that is reached. -/
theorem run_induction {motive : List QueueStep → Queue → Prop} (hstart : motive [] queue)
    (hstep : ∀ steps before step after, queue.run? steps = some before →
      motive steps before → Move before step after → motive (steps ++ [step]) after)
    (h : queue.run? steps = some after) : motive steps after := by
  induction steps using List.reverseRecOn generalizing after with
  | nil =>
      obtain rfl := Option.some.inj h
      exact hstart
  | append_singleton steps step ih =>
      obtain ⟨before, hbefore, hlast⟩ := run?_append_eq_some_iff.mp h
      obtain ⟨between, hmove, hend⟩ := run?_cons_eq_some_iff.mp hlast
      obtain rfl := Option.some.inj hend
      exact hstep steps before step between hbefore (ih hbefore) hmove

theorem events_cons {step : QueueStep} (h : Move queue step after) (steps : List QueueStep) :
    queue.events (step :: steps) = (queue.event? step).toList ++ after.events steps := by
  simp only [events, h.step?_eq]

theorem events_append (h : queue.run? steps = some middle) (more : List QueueStep) :
    queue.events (steps ++ more) = queue.events steps ++ middle.events more := by
  induction steps generalizing queue with
  | nil =>
      obtain rfl := Option.some.inj h
      rfl
  | cons step steps ih =>
      obtain ⟨between, hmove, hrest⟩ := run?_cons_eq_some_iff.mp h
      rw [List.cons_append, events_cons hmove, events_cons hmove, ih hrest, List.append_assoc]

theorem events_append_singleton (h : queue.run? steps = some middle) {step : QueueStep}
    (hmove : Move middle step after) :
    queue.events (steps ++ [step]) = queue.events steps ++ (middle.event? step).toList := by
  rw [events_append h, events_cons hmove, events, List.append_nil]

theorem permitsAll_cons {ends : CompileJob → RunEnd → Prop} {step : QueueStep}
    (h : queue.step? step = some middle) (hfirst : queue.Permits ends step)
    (hlater : middle.PermitsAll ends steps) : queue.PermitsAll ends (step :: steps) := by
  refine ⟨hfirst, fun other hother => ?_⟩
  rw [h] at hother
  exact Option.some.inj hother ▸ hlater

theorem permitsAll_of_forall {ends : CompileJob → RunEnd → Prop} (h : ∀ job ending, ends job ending)
    (queue : Queue) (steps : List QueueStep) : queue.PermitsAll ends steps := by
  induction steps generalizing queue with
  | nil => trivial
  | cons step steps ih =>
      refine ⟨?_, fun after _ => ih after⟩
      cases step with
      | finish => exact fun _ _ _ _ => h _ _
      | _ => trivial

theorem permitsAll_append {ends : CompileJob → RunEnd → Prop} (h : queue.run? steps = some middle)
    {more : List QueueStep} (hpermits : queue.PermitsAll ends (steps ++ more)) :
    queue.PermitsAll ends steps ∧ middle.PermitsAll ends more := by
  induction steps generalizing queue with
  | nil =>
      obtain rfl := Option.some.inj h
      exact ⟨trivial, hpermits⟩
  | cons step steps ih =>
      obtain ⟨between, hmove, hrest⟩ := run?_cons_eq_some_iff.mp h
      obtain ⟨hfirst, hlater⟩ := hpermits
      obtain ⟨hsteps, hmore⟩ := ih hrest (hlater between hmove.step?_eq)
      exact ⟨permitsAll_cons hmove.step?_eq hfirst hsteps, hmore⟩

end Runs

end TemplateBundler.Queue

import Mathlib.Data.List.Perm.Subperm
import TemplateBundler.Proofs.Queue.History

/-! # How a queue comes to an end

Workers go because no more jobs can come, or because they are taken away. A queue without
workers does nothing any more, and owes nobody an answer. Nor does a queue that is left with
nothing to do: as long as it owes an answer, one of its own steps is enabled.
-/

namespace TemplateBundler

open QueueEvent

/-- Whether nothing is left to do for the submission. -/
def Progress.isOver : Progress → Bool
  | settled _ | abandoned => true
  | _ => false

theorem Progress.isOver_iff {progress : Progress} :
    progress.isOver ↔ (∃ result, progress = .settled result) ∨ progress = .abandoned := by
  cases progress <;> simp [isOver]

namespace Queue

variable {ends : CompileJob → RunEnd → Prop} {lossy : Prop} {ticket worker : Nat}
  {queue after : Queue} {step : QueueStep} {steps : List QueueStep}
  {submission : Submission} {progress : Progress} {result : CompileResult}
  {events : List QueueEvent}

/-! ## Something is left to do as long as an answer is owed -/

theorem exists_move_of_busy (h : queue.Coherent)
    (hbusy : queue.workers[worker]? = some (.busy ticket)) :
    ∃ step after, step.isOwn ∧ Move queue step after := by
  obtain ⟨progress, hprogress, hworker⟩ := h.working hbusy
  cases progress with
  | running other => exact ⟨_, _, rfl, .finish (.crashed none) hbusy hprogress⟩
  | compiled other result => exact ⟨_, _, rfl, .answer hbusy hprogress⟩
  | waiting | queued | settled | abandoned => cases hworker

/-- While a job is in the channel, some worker can do something. -/
theorem exists_move_of_channel (h : queue.Coherent) (halive : queue.isAlive = true)
    (hchannel : queue.channel ≠ []) : ∃ step after, step.isOwn ∧ Move queue step after := by
  obtain ⟨ticket, channel, hticket⟩ := List.exists_cons_of_ne_nil hchannel
  -- Whoever holds the receiving end can take the job.
  by_cases hfree : .listening ∈ queue.workers
  · obtain ⟨worker, hlistening⟩ := List.getElem?_of_mem hfree
    exact ⟨_, _, rfl, .take hlistening hticket⟩
  · obtain ⟨status, hstatus, hleft⟩ := queue.isAlive_eq_true_iff.mp halive
    obtain ⟨worker, hworker⟩ := List.getElem?_of_mem hstatus
    cases status with
    | idle => exact ⟨_, _, rfl, .listen hworker hfree⟩
    | listening => exact absurd hstatus hfree
    | busy other => exact exists_move_of_busy h hworker
    | gone => exact absurd rfl hleft

theorem isOver_or_exists_move (h : queue.Coherent)
    (hprogress : queue.progress? ticket = some progress) :
    progress.isOver ∨ ∃ step after, step.isOwn ∧ Move queue step after := by
  have hholds := h.holds hprogress
  cases progress with
  | waiting =>
      right
      by_cases hroom : queue.channel.length < queue.capacity
      · exact ⟨_, _, rfl, .accept hprogress hholds.2 hroom⟩
      -- Without room the channel is not empty, for there is room for some jobs per worker.
      · refine exists_move_of_channel h hholds.2 fun hempty => hroom ?_
        obtain ⟨status, hstatus, -⟩ := queue.isAlive_eq_true_iff.mp hholds.2
        have hworkers := List.length_pos_of_mem hstatus
        simp only [hempty, List.length_nil, capacity, depthPerWorker]
        omega
  | queued => exact .inr (exists_move_of_channel h hholds.2 (List.ne_nil_of_mem hholds.1))
  | running other | compiled other => exact .inr (exists_move_of_busy h hholds)
  | settled | abandoned => exact .inl rfl

/-! ## A queue without workers -/

theorem Move.isAlive_of_isOwn (h : Move queue step after) (hown : step.isOwn) :
    queue.isAlive = true := by
  cases h with
  | accept hwaiting halive => exact halive
  | listen hworker | take hworker | finish ending hworker | answer hworker | exit hworker =>
      exact isAlive_of_getElem? hworker nofun
  | submit | leave | close | lose => cases hown

theorem isOver_of_not_isAlive (h : queue.Coherent) (hdead : queue.isAlive = false)
    (hprogress : queue.progress? ticket = some progress) : progress.isOver := by
  refine (isOver_or_exists_move h hprogress).resolve_right ?_
  rintro ⟨step, after, hown, hmove⟩
  rw [hmove.isAlive_of_isOwn hown] at hdead
  cases hdead

theorem Move.of_not_isAlive (h : Move queue step after) (hdead : queue.isAlive = false) :
    after.isAlive = false ∧ queue.event? step = none := by
  have hforeign : ¬ step.isOwn := fun hown => by
    rw [h.isAlive_of_isOwn hown] at hdead
    cases hdead
  cases h with
  | submit | leave | close => exact ⟨hdead, rfl⟩
  | lose lost halive =>
      rw [halive] at hdead
      cases hdead
  | accept | listen | take | finish | answer | exit => exact absurd rfl hforeign

/-- Nothing happens to the jobs of a queue without workers. -/
theorem run_of_not_isAlive (hdead : queue.isAlive = false) (h : queue.run? steps = some after) :
    after.isAlive = false ∧ queue.events steps = [] := by
  induction steps generalizing queue with
  | nil =>
      obtain rfl := Option.some.inj h
      exact ⟨hdead, rfl⟩
  | cons step steps ih =>
      obtain ⟨between, hmove, hrest⟩ := run?_cons_eq_some_iff.mp h
      obtain ⟨hbetween, hnone⟩ := hmove.of_not_isAlive hdead
      obtain ⟨hafter, hlater⟩ := ih hbetween hrest
      exact ⟨hafter, by rw [events_cons hmove, hnone, hlater]; rfl⟩

theorem isAlive_lose_all (queue : Queue) : (queue.lose fun _ => true).isAlive = false := by
  simp [isAlive, remaining]

/-! ## What the queue has in hand -/

/-- No two submissions are in the hands of one worker. -/
theorem nodup_workers (h : queue.Coherent) :
    (queue.submissions.filterMap (·.progress.worker?)).Nodup := by
  refine List.pairwise_filterMap.mpr (List.pairwise_iff_getElem.mpr ?_)
  rintro ticket other hticket hother hlt worker hworker another hanother rfl
  have hbusy := (h.holds (progress?_of_getElem? (List.getElem?_eq_getElem hticket))).of_worker?
    hworker
  have hbusyOther := (h.holds (progress?_of_getElem? (List.getElem?_eq_getElem hother))).of_worker?
    hanother
  rw [hbusy] at hbusyOther
  cases hbusyOther
  exact Nat.lt_irrefl _ hlt

/-- There are no more jobs in hand than workers. -/
theorem countP_worker?_le (h : queue.Coherent) :
    queue.submissions.countP (·.progress.worker?.isSome) ≤ queue.workers.length := by
  have hrange : queue.submissions.filterMap (·.progress.worker?) ⊆
      List.range queue.workers.length := by
    intro worker hworker
    obtain ⟨submission, hmem, hworker⟩ := List.mem_filterMap.mp hworker
    obtain ⟨ticket, hticket⟩ := List.getElem?_of_mem hmem
    have hbusy := (h.holds (progress?_of_getElem? hticket)).of_worker? hworker
    exact List.mem_range.mpr (List.getElem?_eq_some_iff.mp hbusy).1
  simpa [List.length_filterMap_eq_countP] using
    (List.subperm_of_subset (nodup_workers h) hrange).length_le

/-! ## How every job ends -/

/-- Where no worker was taken away, the last one goes after every accepted job was served. -/
theorem served_of_not_isAlive (h : queue.Coherent) (hrecorded : Recorded ends lossy queue events)
    (hlossy : ¬ lossy) (hdead : queue.isAlive = false) (haccepted : .accepted ticket ∈ events) :
    ∃ submission worker ending, queue.submissions[ticket]? = some submission ∧
      submission.runs = 1 ∧ own ticket events = course ticket worker ending ∧
      (submission.progress = .settled (ending.result worker) ∨
        submission.progress = .abandoned ∧ submission.present = false) := by
  obtain ⟨submission, hsubmission⟩ := hrecorded.exists_submission haccepted
  have hstory := hrecorded.story hsubmission
  have hover := isOver_of_not_isAlive h hdead (progress?_of_getElem? hsubmission)
  rcases hstory.isHeld_or_answered hlossy (mem_own_iff.mpr ⟨haccepted, rfl⟩) with
    hheld | ⟨worker, hanswered⟩
  -- A job in the queue's hands would leave something to do.
  · cases hprogress : submission.progress with
    | queued | running | compiled =>
        rw [hprogress] at hover
        cases hover
    | waiting | settled | abandoned =>
        rw [hprogress] at hheld
        cases hheld
  · obtain ⟨⟨ending, hcourse, hend⟩, hruns⟩ := hstory.of_answered hanswered
    exact ⟨submission, worker, ending, hsubmission, hruns, hcourse, hend⟩

/-- A submitter is told what a worker reports of the very job. Where workers were taken away, it may
be one of two failures instead, by whether the job had been accepted. -/
theorem result_of_settled (hrecorded : Recorded ends lossy queue events)
    (hsubmission : queue.submissions[ticket]? = some submission)
    (hsettled : submission.progress = .settled result) :
    (∃ worker ending, own ticket events = course ticket worker ending ∧
      result = ending.result worker ∧
      (ending = .answered result ∨ ∃ text detail, ending = .crashed text ∧
        result = .error (.unpositioned (s!"Compile worker {worker} failed: " ++ detail)))) ∨
    lossy ∧
      (.accepted ticket ∉ events ∧
          result = .error (.unpositioned "Compile job queue is shut down") ∨
        .accepted ticket ∈ events ∧
          result = .error (.unpositioned "Compile job was dropped before it completed")) := by
  rcases (hrecorded.story hsubmission).of_settled hsettled with
    ⟨worker, ending, -, rfl, hcourse⟩ | ⟨hlossy, hresult⟩
  · exact .inl ⟨worker, ending, hcourse, rfl, ending.answered_or_crashed worker⟩
  · -- Whether a job was accepted is told by its own events.
    have hown : .accepted ticket ∈ own ticket events ↔ .accepted ticket ∈ events :=
      mem_own_iff.trans (and_iff_left rfl)
    rw [hown, shutDownResult_eq, droppedResult_eq] at hresult
    exact .inr ⟨hlossy, hresult⟩

/-- Whoever got no answer while there were workers is told so, or has left. -/
theorem failed_of_not_isAlive (h : queue.Coherent) (hrecorded : Recorded ends lossy queue events)
    (hdead : queue.isAlive = false) (hsubmission : queue.submissions[ticket]? = some submission)
    (hunanswered : ∀ worker, .answered ticket worker ∉ events) :
    submission.progress =
        .settled (.error (.unpositioned "Compile job queue is shut down")) ∨
      submission.progress =
        .settled (.error (.unpositioned "Compile job was dropped before it completed")) ∨
      submission.progress = .abandoned ∧ submission.present = false := by
  have hover := isOver_of_not_isAlive h hdead (progress?_of_getElem? hsubmission)
  rcases Progress.isOver_iff.mp hover with ⟨result, hsettled⟩ | habandoned
  · rcases result_of_settled hrecorded hsubmission hsettled with
      ⟨worker, ending, hcourse, -⟩ | ⟨-, ⟨-, rfl⟩ | ⟨-, rfl⟩⟩
    · have hanswered : .answered ticket worker ∈ own ticket events := by simp [hcourse, course]
      exact absurd (mem_own_iff.mp hanswered).1 (hunanswered worker)
    · exact .inl hsettled
    · exact .inr (.inl hsettled)
  · exact .inr (.inr ⟨habandoned, (hrecorded.story hsubmission).present_of_abandoned habandoned⟩)

/-- A queue that can do nothing of itself has answered everybody who still waits. -/
theorem exists_settled_of_quiet (h : queue.Coherent) (hrecorded : Recorded ends lossy queue events)
    (hquiet : ∀ step, step.isOwn → queue.step? step = none)
    (hmem : submission ∈ queue.submissions) (hpresent : submission.present) :
    ∃ result, submission.progress = .settled result := by
  obtain ⟨ticket, hsubmission⟩ := List.getElem?_of_mem hmem
  have hover : submission.progress.isOver := by
    refine (isOver_or_exists_move h (progress?_of_getElem? hsubmission)).resolve_right ?_
    rintro ⟨step, after, hown, hmove⟩
    have hnone := hquiet step hown
    rw [hmove.step?_eq] at hnone
    cases hnone
  refine (Progress.isOver_iff.mp hover).resolve_right fun habandoned => ?_
  have hleft := (hrecorded.story hsubmission).present_of_abandoned habandoned
  rw [hpresent] at hleft
  cases hleft

/-- In every run of a queue, whether it is shut down or loses its workers on the way, the channel
and the workers hold no more jobs than they may, and jobs are taken in the order in which they
were accepted. A worker goes of itself only after no more jobs can come. If all of them went
so, every accepted job was compiled once and answered, unless its submitter had left. If there
are no workers left for another reason, every submission without an answer, and every later one,
ends with one of two failures. Nobody is told anything else than what a worker reports of the very
job, or which of the two failures it is. And a queue that can do nothing of itself owes no
answer. -/
theorem run_ends_each_submission {count : Nat} {steps : List QueueStep} {queue : Queue}
    (hrun : (ofWorkers count).run? steps = some queue) :
    let events := (ofWorkers count).events steps
    (queue.channel.length ≤ 16 * max 1 count ∧
      queue.submissions.countP (·.progress.worker?.isSome) ≤ max 1 count) ∧
    events.filterMap started? <+: events.filterMap accepted? ∧
    (∀ worker after, queue.step? (.exit worker) = some after →
      queue.accepting = false ∧ queue.channel = []) ∧
    ((∀ step ∈ steps, step.loses = false) → queue.isAlive = false →
      ∀ ticket, .accepted ticket ∈ events → ∃ submission worker ending,
        queue.submissions[ticket]? = some submission ∧ submission.runs = 1 ∧
        own ticket events = course ticket worker ending ∧
        (submission.progress = .settled (ending.result worker) ∨
          submission.progress = .abandoned ∧ submission.present = false)) ∧
    (∀ ticket submission result, queue.submissions[ticket]? = some submission →
      submission.progress = .settled result →
      (∃ worker ending, own ticket events = course ticket worker ending ∧
        result = ending.result worker ∧
        (ending = .answered result ∨ ∃ text detail, ending = .crashed text ∧
          result = .error (.unpositioned (s!"Compile worker {worker} failed: " ++ detail)))) ∨
      (∃ step ∈ steps, step.loses) ∧
        (.accepted ticket ∉ events ∧
            result = .error (.unpositioned "Compile job queue is shut down") ∨
          .accepted ticket ∈ events ∧
            result = .error (.unpositioned "Compile job was dropped before it completed"))) ∧
    (∀ before later middle, steps = before ++ later →
      (ofWorkers count).run? before = some middle → middle.isAlive = false →
      ∀ ticket submission, queue.submissions[ticket]? = some submission →
        (∀ worker, .answered ticket worker ∉ (ofWorkers count).events before) →
        submission.progress =
            .settled (.error (.unpositioned "Compile job queue is shut down")) ∨
          submission.progress =
            .settled (.error (.unpositioned "Compile job was dropped before it completed")) ∨
          submission.progress = .abandoned ∧ submission.present = false) ∧
    (∀ after, queue.step? .tearDown = some after → after.isAlive = false) ∧
    ((∀ step, step.isOwn → queue.step? step = none) →
      ∀ submission ∈ queue.submissions, submission.present →
        ∃ result, submission.progress = .settled result) := by
  intro events
  have hcoherent := coherent_of_run hrun
  have hworkers := length_workers_of_run hrun
  have hrecorded : Recorded (fun _ _ => True) (∃ step ∈ steps, step.loses) queue events :=
    recorded_of_run hrun (permitsAll_of_forall (fun _ _ => trivial) _ _)
  refine ⟨⟨?_, ?_⟩, hrecorded.taken, ?_, ?_, ?_, ?_, ?_, ?_⟩
  · simpa [capacity, depthPerWorker, hworkers] using hcoherent.room
  · simpa [hworkers] using countP_worker?_le hcoherent
  · intro worker after hstep
    cases Move.of_step? hstep with
    | exit hlistening hempty hclosed => exact ⟨hclosed, hempty⟩
  · intro hkept hdead ticket haccepted
    refine served_of_not_isAlive hcoherent hrecorded ?_ hdead haccepted
    rintro ⟨step, hmem, hloses⟩
    rw [hkept step hmem] at hloses
    cases hloses
  · intro ticket submission result
    exact result_of_settled hrecorded
  · rintro before later middle rfl hbefore hdead ticket submission hsubmission hunanswered
    rw [run?_append_of_eq_some hbefore] at hrun
    obtain ⟨hend, hnothing⟩ := run_of_not_isAlive hdead hrun
    refine failed_of_not_isAlive hcoherent hrecorded hend hsubmission fun worker => ?_
    rw [show events = _ from events_append hbefore later, hnothing, List.append_nil]
    exact hunanswered worker
  · intro after hstep
    cases Move.of_step? hstep with
    | lose => exact queue.isAlive_lose_all
  · intro hquiet submission
    exact exists_settled_of_quiet hcoherent hrecorded hquiet

/-- One queue is shut down after its only job; another loses its workers between two jobs. -/
theorem run_ends_two_submissions :
    let shutDown : List QueueStep := [.submit ⟨"a", {}⟩, .accept 0, .listen 0, .take 0, .close,
      .finish 0 (.answered (.ok "a")), .answer 0, .listen 0, .exit 0]
    let tornDown : List QueueStep := [.submit ⟨"a", {}⟩, .accept 0, .listen 0, .take 0, .tearDown,
      .submit ⟨"b", {}⟩]
    (∃ queue submission, (ofWorkers 0).run? shutDown = some queue ∧
      queue.submissions[0]? = some submission ∧ submission.runs = 1) ∧
    ∃ queue, (ofWorkers 1).run? tornDown = some queue ∧ queue.submissions.length = 2 ∧
      ∀ submission ∈ queue.submissions, submission.present →
        ∃ result, submission.progress = .settled result := by
  intro shutDown tornDown
  constructor
  · obtain ⟨queue, hrun, hdead⟩ : ∃ queue, (ofWorkers 0).run? shutDown = some queue ∧
        queue.isAlive = false := ⟨_, rfl, rfl⟩
    obtain ⟨-, -, -, hserved, -⟩ := run_ends_each_submission hrun
    obtain ⟨submission, worker, ending, hsubmission, hruns, -⟩ :=
      hserved (by decide) hdead 0 (List.Mem.head _)
    exact ⟨queue, submission, hrun, hsubmission, hruns⟩
  · obtain ⟨queue, hrun, hdead, hlength⟩ : ∃ queue, (ofWorkers 1).run? tornDown = some queue ∧
        queue.isAlive = false ∧ queue.submissions.length = 2 := ⟨_, rfl, rfl, rfl⟩
    obtain ⟨-, -, -, -, -, -, -, hquiet⟩ := run_ends_each_submission hrun
    refine ⟨queue, hrun, hlength, hquiet fun step hown => ?_⟩
    by_contra hsome
    obtain ⟨after, hafter⟩ := Option.ne_none_iff_exists'.mp hsome
    rw [(Move.of_step? hafter).isAlive_of_isOwn hown] at hdead
    cases hdead

end Queue

end TemplateBundler

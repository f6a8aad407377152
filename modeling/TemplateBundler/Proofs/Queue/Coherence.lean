import TemplateBundler.Proofs.Queue.Step

/-! # Where the jobs of a queue are

The progress of a submission, the channel and the workers tell the same story: a queued
submission is in the channel, one that is worked on is with its worker, and the other way
round. A submission waits only while somebody can still take it.
-/

namespace TemplateBundler

/-- The worker that has the job in hand. -/
def Progress.worker? : Progress → Option Nat
  | running worker | compiled worker _ => some worker
  | _ => none

/-- Whether the queue has accepted the submission and owes it an answer. -/
def Progress.isHeld : Progress → Bool
  | queued | running _ | compiled _ _ => true
  | _ => false

/-- The submission that the worker works on. -/
def Worker.ticket? : Worker → Option Nat
  | busy ticket => some ticket
  | _ => none

theorem Submission.leave_progress_of_eq {submission : Submission}
    (h : submission.progress = .waiting) : submission.leave.progress = .abandoned := by
  simp [leave, h]

theorem Submission.leave_progress_of_ne {submission : Submission}
    (h : submission.progress ≠ .waiting) : submission.leave.progress = submission.progress := by
  cases hprogress : submission.progress with
  | waiting => exact absurd hprogress h
  | queued | running | compiled | settled | abandoned => simp [leave, hprogress]

/-- Losing workers settles a submission or leaves it as it is, which it does only where somebody
is left to serve it. -/
theorem Submission.orphan_cases (submission : Submission) (lost : Nat → Bool) (closed : Bool) :
    submission.progress = .waiting ∧
        submission.orphan lost closed = submission.settle shutDownResult ∨
      submission.progress.isHeld ∧
        submission.orphan lost closed = submission.settle droppedResult ∨
      submission.orphan lost closed = submission ∧
        (submission.progress = .waiting ∨ submission.progress = .queued → closed = false) ∧
        ∀ worker, submission.progress.worker? = some worker → lost worker = false := by
  cases hprogress : submission.progress with
  | waiting =>
      cases closed with
      | true => exact .inl ⟨rfl, by simp [orphan, Progress.verdict?, hprogress]⟩
      | false =>
          exact .inr (.inr ⟨by simp [orphan, Progress.verdict?, hprogress], by simp,
            by simp [Progress.worker?]⟩)
  | queued =>
      cases closed with
      | true => exact .inr (.inl ⟨rfl, by simp [orphan, Progress.verdict?, hprogress]⟩)
      | false =>
          exact .inr (.inr ⟨by simp [orphan, Progress.verdict?, hprogress], by simp,
            by simp [Progress.worker?]⟩)
  | running worker | compiled worker =>
      by_cases hlost : lost worker
      · exact .inr (.inl ⟨rfl, by simp [orphan, Progress.verdict?, hprogress, hlost]⟩)
      · exact .inr (.inr ⟨by simp [orphan, Progress.verdict?, hprogress, hlost], by simp,
          by simpa [Progress.worker?] using hlost⟩)
  | settled | abandoned =>
      exact .inr (.inr ⟨by simp [orphan, Progress.verdict?, hprogress], by simp,
        by simp [Progress.worker?]⟩)

theorem Submission.orphan_of_worker? {submission : Submission} {worker : Nat}
    {lost : Nat → Bool} {closed : Bool} (h : submission.progress.worker? = some worker)
    (hkept : lost worker = false) : submission.orphan lost closed = submission := by
  cases hprogress : submission.progress with
  | running other | compiled other =>
      rw [hprogress] at h
      obtain rfl := Option.some.inj h
      simp [orphan, Progress.verdict?, hprogress, hkept]
  | waiting | queued | settled | abandoned =>
      rw [hprogress] at h
      cases h

namespace Queue

variable {queue after : Queue} {ticket worker : Nat} {progress : Progress}

/-- Where the queue has the submission with this number, as its progress says. -/
def Holds (queue : Queue) (ticket : Nat) : Progress → Prop
  | .waiting => queue.accepting = true ∧ queue.isAlive = true
  | .queued => ticket ∈ queue.channel ∧ queue.isAlive = true
  | .running worker | .compiled worker _ => queue.workers[worker]? = some (.busy ticket)
  | .settled _ | .abandoned => True

/-- What the parts of a queue say about each other. -/
structure Coherent (queue : Queue) : Prop where
  holds {ticket : Nat} {progress : Progress} :
    queue.progress? ticket = some progress → queue.Holds ticket progress
  queued {ticket : Nat} : ticket ∈ queue.channel → queue.progress? ticket = some .queued
  working {worker ticket : Nat} : queue.workers[worker]? = some (.busy ticket) →
    ∃ progress, queue.progress? ticket = some progress ∧ progress.worker? = some worker
  nodup : queue.channel.Nodup
  room : queue.channel.length ≤ queue.capacity

theorem Holds.of_worker? (h : queue.Holds ticket progress)
    (hworker : progress.worker? = some worker) :
    queue.workers[worker]? = some (.busy ticket) := by
  cases progress with
  | running other | compiled other =>
      obtain rfl := Option.some.inj hworker
      exact h
  | waiting | queued | settled | abandoned => cases hworker

/-- What is held stays held where nothing is taken away. -/
theorem Holds.mono (h : queue.Holds ticket progress)
    (haccepting : queue.accepting = true → after.accepting = true)
    (halive : queue.isAlive = true → queue.accepting = true ∨ ticket ∈ queue.channel →
      after.isAlive = true)
    (hchannel : ticket ∈ queue.channel → ticket ∈ after.channel)
    (hworkers : ∀ worker : Nat, queue.workers[worker]? = some (.busy ticket) →
      after.workers[worker]? = some (.busy ticket)) : after.Holds ticket progress := by
  cases progress with
  | waiting => exact ⟨haccepting h.1, halive h.2 (.inl h.1)⟩
  | queued => exact ⟨hchannel h.1, halive h.2 (.inr h.1)⟩
  | running other | compiled other => exact hworkers other h
  | settled | abandoned => trivial

/-- What the submissions are has no part in where one of them is. -/
theorem Holds.of_eq (h : queue.Holds ticket progress) (hchannel : after.channel = queue.channel)
    (hworkers : after.workers = queue.workers) (haccepting : after.accepting = queue.accepting) :
    after.Holds ticket progress := by
  have halive : after.isAlive = queue.isAlive := by
    rw [isAlive, hworkers, ← isAlive]
  refine h.mono haccepting.trans (fun hqueue _ => halive.trans hqueue) ?_ ?_
  · rw [hchannel]
    exact id
  · rw [hworkers]
    exact fun _ => id

theorem holds_settle (queue : Queue) (ticket : Nat) (submission : Submission)
    (result : CompileResult) : queue.Holds ticket (submission.settle result).progress := by
  simp only [Submission.settle]
  split <;> trivial

theorem channel_lose (queue : Queue) (lost : Nat → Bool) :
    (queue.lose lost).channel = if (queue.lose lost).isAlive then queue.channel else [] := by
  change (if (queue.remaining lost).all (· == .gone) then [] else queue.channel) = _
  rw [all_gone_remaining]
  cases (queue.lose lost).isAlive <;> rfl

theorem remaining_getElem?_eq_busy_iff {lost : Nat → Bool} :
    (queue.remaining lost)[worker]? = some (.busy ticket) ↔
      queue.workers[worker]? = some (.busy ticket) ∧ lost worker = false := by
  rw [remaining_getElem?, Option.map_eq_some_iff]
  constructor
  · rintro ⟨status, hstatus, hbusy⟩
    split_ifs at hbusy with hlost
    exact ⟨hbusy ▸ hstatus, by simpa using hlost⟩
  · rintro ⟨hbusy, hkept⟩
    exact ⟨_, hbusy, by simp [hkept]⟩

theorem length_remaining (queue : Queue) (lost : Nat → Bool) :
    (queue.remaining lost).length = queue.workers.length := by
  simp [remaining]

theorem ne_of_progress? {other : Nat} {progress' : Progress}
    (h : queue.progress? ticket = some progress) (hother : queue.progress? other = some progress')
    (hne : progress ≠ progress') : ticket ≠ other := by
  rintro rfl
  exact hne (Option.some.inj (h.symm.trans hother))

theorem progress?_ne_waiting (h : queue.hasWaiting = false) (ticket : Nat) :
    queue.progress? ticket ≠ some .waiting := by
  intro hwaiting
  obtain ⟨submission, hsubmission, hprogress⟩ := progress?_eq_some_iff.mp hwaiting
  have hnone := List.any_eq_false.mp h submission (List.mem_of_getElem? hsubmission)
  simp [hprogress] at hnone

theorem isAlive_of_getElem? {status : Worker} (h : queue.workers[worker]? = some status)
    (hstatus : status ≠ .gone) : queue.isAlive = true :=
  queue.isAlive_eq_true_iff.mpr ⟨status, List.mem_of_getElem? h, hstatus⟩

theorem isAlive_of_set {status : Worker} (hlt : worker < queue.workers.length)
    (hworkers : after.workers = queue.workers.set worker status) (hstatus : status ≠ .gone) :
    after.isAlive = true := by
  have hset : after.workers[worker]? = some status := by
    rw [hworkers, List.getElem?_set_self hlt]
  exact isAlive_of_getElem? hset hstatus

/-- A worker that takes up a job or puts it down changes nothing for the other workers. -/
theorem busy_set_iff {old status : Worker} {other : Nat}
    (hold : queue.workers[worker]? = some old) :
    (queue.workers.set worker status)[other]? = some (.busy ticket) ↔
      if other = worker then status = .busy ticket
      else queue.workers[other]? = some (.busy ticket) := by
  obtain ⟨hlt, -⟩ := List.getElem?_eq_some_iff.mp hold
  split_ifs with hother
  · rw [hother, List.getElem?_set_self hlt, Option.some.injEq]
  · rw [List.getElem?_set_ne (Ne.symm hother)]

theorem busy_set_of_free {old status : Worker} {other : Nat}
    (hold : queue.workers[worker]? = some old) (hfree : old.ticket? = none)
    (hstatus : status.ticket? = none) :
    (queue.workers.set worker status)[other]? = some (.busy ticket) ↔
      queue.workers[other]? = some (.busy ticket) := by
  rw [busy_set_iff hold]
  split_ifs with hother
  · rw [hother, hold, Option.some.injEq]
    constructor
    · rintro rfl
      cases hstatus
    · rintro rfl
      cases hfree
  · rfl

namespace Coherent

theorem ofWorkers (count : Nat) : (ofWorkers count).Coherent where
  holds h := by simp [progress?, Queue.ofWorkers] at h
  queued h := by simp [Queue.ofWorkers] at h
  working h := by simp [Queue.ofWorkers, List.getElem?_replicate] at h
  nodup := List.nodup_nil
  room := Nat.zero_le _

theorem submit (h : queue.Coherent) (job : CompileJob) (haccepting : queue.accepting = true) :
    (queue.submit job).Coherent where
  holds {ticket progress} hprogress := by
    rw [progress?_submit] at hprogress
    split_ifs at hprogress with hnew
    · obtain rfl := Option.some.inj hprogress
      simp only [admission]
      split
      next halive => exact ⟨haccepting, halive⟩
      next => trivial
    · exact (h.holds hprogress).of_eq rfl rfl rfl
  queued {ticket} hticket := by
    have hqueued := h.queued hticket
    rw [progress?_submit, if_neg, hqueued]
    rintro rfl
    simp [progress?] at hqueued
  working {worker ticket} hbusy := by
    obtain ⟨progress, hprogress, hworker⟩ := h.working hbusy
    refine ⟨progress, ?_, hworker⟩
    rw [progress?_submit, if_neg, hprogress]
    rintro rfl
    simp [progress?] at hprogress
  nodup := h.nodup
  room := h.room

theorem enqueue (h : queue.Coherent) (hwaiting : queue.progress? ticket = some .waiting)
    (halive : queue.isAlive = true) (hroom : queue.channel.length < queue.capacity) :
    (queue.enqueue ticket).Coherent where
  holds {other progress} hprogress := by
    rw [progress?_enqueue hwaiting] at hprogress
    split_ifs at hprogress with hother
    · obtain rfl := Option.some.inj hprogress
      exact ⟨by simp [hother], halive⟩
    · exact Holds.mono (h.holds hprogress) id (fun h _ => h) (List.mem_append_left _) fun _ => id
  queued {other} hmem := by
    rw [progress?_enqueue hwaiting]
    rcases List.mem_append.mp hmem with hold | hnew
    · split_ifs
      · rfl
      · exact h.queued hold
    · rw [if_pos (List.mem_singleton.mp hnew)]
  working {worker other} hbusy := by
    obtain ⟨progress, hprogress, hworker⟩ := h.working hbusy
    refine ⟨progress, ?_, hworker⟩
    rw [progress?_enqueue hwaiting, if_neg, hprogress]
    rintro rfl
    rw [hwaiting] at hprogress
    cases hprogress
    cases hworker
  nodup := by
    refine List.nodup_append.mpr
      ⟨h.nodup, List.nodup_cons.mpr ⟨List.not_mem_nil, List.nodup_nil⟩, ?_⟩
    rintro other hother _ hnew rfl
    have hqueued := h.queued hother
    rw [List.mem_singleton.mp hnew, hwaiting] at hqueued
    cases hqueued
  room := by
    simp only [channel_enqueue, List.length_append, List.length_singleton, capacity,
      workers_enqueue] at hroom ⊢
    omega

/-- A worker without a job changes its status, but goes only when nothing is left to come. -/
theorem setWorker (h : queue.Coherent) {old status : Worker}
    (hold : queue.workers[worker]? = some old) (hfree : old.ticket? = none)
    (hstatus : status.ticket? = none)
    (hgone : queue.accepting = true ∨ queue.channel ≠ [] → status ≠ .gone) :
    (queue.setWorker worker status).Coherent where
  holds {ticket progress} hprogress := by
    refine Holds.mono (h.holds hprogress) id (fun _ hleft => ?_) id
      fun other hbusy => (busy_set_of_free hold hfree hstatus).mpr hbusy
    refine isAlive_of_set (List.getElem?_eq_some_iff.mp hold).1 rfl (hgone ?_)
    exact hleft.imp_right List.ne_nil_of_mem
  queued := h.queued
  working hbusy := h.working ((busy_set_of_free hold hfree hstatus).mp hbusy)
  nodup := h.nodup
  room := by
    simpa [capacity] using h.room

theorem start (h : queue.Coherent) {channel : List Nat}
    (hlistening : queue.workers[worker]? = some .listening)
    (hchannel : queue.channel = ticket :: channel) :
    (queue.start worker ticket channel).Coherent := by
  have hnodup := h.nodup
  rw [hchannel, List.nodup_cons] at hnodup
  have hqueued : queue.progress? ticket = some .queued := h.queued (by simp [hchannel])
  have hlt := (List.getElem?_eq_some_iff.mp hlistening).1
  refine ⟨?_, ?_, ?_, hnodup.2, ?_⟩
  · intro other progress hprogress
    rw [progress?_start hqueued] at hprogress
    split_ifs at hprogress with hother
    · obtain rfl := Option.some.inj hprogress
      simp [Holds, hother, hlt]
    -- The worker was listening, so it has no other submission in its hands.
    · refine Holds.mono (h.holds hprogress) id (fun _ _ => isAlive_of_set hlt rfl (by simp)) ?_ ?_
      · rw [hchannel]
        exact fun hmem => List.mem_of_ne_of_mem hother hmem
      · intro busyWorker hbusy
        rw [workers_start, busy_set_iff hlistening, if_neg, hbusy]
        rintro rfl
        rw [hlistening] at hbusy
        cases hbusy
  · intro other hmem
    have hother : other ≠ ticket := by
      rintro rfl
      exact hnodup.1 hmem
    rw [progress?_start hqueued, if_neg hother]
    exact h.queued (by rw [hchannel]; exact List.mem_cons_of_mem _ hmem)
  · intro busyWorker other hbusy
    rw [workers_start, busy_set_iff hlistening] at hbusy
    rw [progress?_start hqueued]
    split_ifs at hbusy with hworker
    · cases hbusy
      exact ⟨.running worker, if_pos rfl, by rw [hworker]; rfl⟩
    · obtain ⟨progress, hprogress, hbusyWorker⟩ := h.working hbusy
      refine ⟨progress, ?_, hbusyWorker⟩
      rw [if_neg, hprogress]
      rintro rfl
      rw [hqueued] at hprogress
      cases hprogress
      cases hbusyWorker
  · have hroom := h.room
    simp only [hchannel, List.length_cons, capacity, channel_start, workers_start,
      List.length_set] at hroom ⊢
    omega

/-- The worker in whose hands the submission is. -/
theorem worker_eq (h : queue.Coherent) (hbusy : queue.workers[worker]? = some (.busy ticket))
    (hprogress : queue.progress? ticket = some progress) : progress.worker? = some worker := by
  obtain ⟨other, hother, hworker⟩ := h.working hbusy
  rw [hprogress] at hother
  cases hother
  exact hworker

theorem finish (h : queue.Coherent) {other : Nat} (ending : RunEnd)
    (hbusy : queue.workers[worker]? = some (.busy ticket))
    (hrunning : queue.progress? ticket = some (.running other)) :
    (queue.modify ticket (·.finish worker ending)).Coherent where
  holds {another progress} hprogress := by
    rw [progress?_finish hrunning] at hprogress
    split_ifs at hprogress with hanother
    · obtain rfl := Option.some.inj hprogress
      rw [hanother]
      exact hbusy
    · exact (h.holds hprogress).of_eq rfl rfl rfl
  queued {another} hmem := by
    have hqueued := h.queued hmem
    rw [progress?_finish hrunning, if_neg (ne_of_progress? hqueued hrunning (by simp)), hqueued]
  working {busyWorker another} hworking := by
    obtain ⟨progress, hprogress, hworker⟩ := h.working hworking
    rw [progress?_finish hrunning]
    split_ifs with hanother
    · rw [hanother] at hworking
      have hone := h.worker_eq hworking hrunning
      rw [h.worker_eq hbusy hrunning] at hone
      exact ⟨_, rfl, hone⟩
    · exact ⟨progress, hprogress, hworker⟩
  nodup := h.nodup
  room := h.room

theorem answer (h : queue.Coherent) {other : Nat} {result : CompileResult}
    (hbusy : queue.workers[worker]? = some (.busy ticket))
    (hcompiled : queue.progress? ticket = some (.compiled other result)) :
    (queue.answer worker ticket result).Coherent := by
  obtain ⟨submission, hsubmission, -⟩ := progress?_eq_some_iff.mp hcompiled
  have hprogress? := progress?_modify hsubmission (·.settle result)
  have hlt := (List.getElem?_eq_some_iff.mp hbusy).1
  refine ⟨?_, ?_, ?_, h.nodup, ?_⟩
  · intro another progress hprogress
    rw [progress?, submissions_answer, ← progress?, hprogress?] at hprogress
    split_ifs at hprogress with hanother
    · obtain rfl := Option.some.inj hprogress
      exact holds_settle _ _ _ _
    -- The worker that becomes free was busy with this submission and no other.
    · refine Holds.mono (h.holds hprogress) id (fun _ _ => isAlive_of_set hlt rfl (by simp)) id ?_
      intro busyWorker hworking
      rw [workers_answer, busy_set_iff hbusy, if_neg, hworking]
      rintro rfl
      rw [hbusy] at hworking
      cases hworking
      exact hanother rfl
  · intro another hmem
    have hqueued := h.queued hmem
    rw [progress?, submissions_answer, ← progress?, hprogress?,
      if_neg (ne_of_progress? hqueued hcompiled (by simp)), hqueued]
  · intro busyWorker another hworking
    rw [workers_answer, busy_set_iff hbusy] at hworking
    split_ifs at hworking with hworker
    · obtain ⟨progress, hprogress, hhand⟩ := h.working hworking
      refine ⟨progress, ?_, hhand⟩
      rw [progress?, submissions_answer, ← progress?, hprogress?, if_neg, hprogress]
      rintro rfl
      have hone := h.worker_eq hworking hcompiled
      rw [h.worker_eq hbusy hcompiled] at hone
      exact hworker (Option.some.inj hone).symm
  · simpa [capacity] using h.room

/-- A submitter that leaves takes only a waiting submission along. -/
theorem leave (h : queue.Coherent) {submission : Submission}
    (hsubmission : queue.submissions[ticket]? = some submission) :
    (queue.modify ticket (·.leave)).Coherent := by
  have hkept : ∀ other progress, queue.progress? other = some progress → progress ≠ .waiting →
      (queue.modify ticket (·.leave)).progress? other = some progress := by
    intro other progress hprogress hne
    rw [progress?_modify hsubmission]
    split_ifs with hother
    · rw [hother, progress?_of_getElem? hsubmission] at hprogress
      rw [Submission.leave_progress_of_ne, hprogress]
      rw [Option.some.inj hprogress]
      exact hne
    · exact hprogress
  refine ⟨?_, ?_, ?_, h.nodup, h.room⟩
  · intro other progress hprogress
    rw [progress?_modify hsubmission] at hprogress
    split_ifs at hprogress with hother
    · obtain rfl := Option.some.inj hprogress
      by_cases hwaiting : submission.progress = .waiting
      · rw [Submission.leave_progress_of_eq hwaiting]
        trivial
      · rw [Submission.leave_progress_of_ne hwaiting, hother]
        exact (h.holds (progress?_of_getElem? hsubmission)).of_eq rfl rfl rfl
    · exact (h.holds hprogress).of_eq rfl rfl rfl
  · exact fun hmem => hkept _ _ (h.queued hmem) nofun
  · intro busyWorker other hworking
    obtain ⟨progress, hprogress, hworker⟩ := h.working hworking
    refine ⟨progress, hkept _ _ hprogress ?_, hworker⟩
    rintro rfl
    cases hworker

theorem close (h : queue.Coherent) (hwaiting : queue.hasWaiting = false) :
    queue.close.Coherent where
  holds {ticket progress} hprogress := by
    have hholds := h.holds hprogress
    cases progress with
    | waiting => exact absurd hprogress (progress?_ne_waiting hwaiting ticket)
    | queued | running | compiled | settled | abandoned => exact hholds
  queued := h.queued
  working := h.working
  nodup := h.nodup
  room := h.room

theorem lose (h : queue.Coherent) (lost : Nat → Bool) : (queue.lose lost).Coherent := by
  -- Losing workers keeps the numbers of the submissions, and each is changed on its own.
  have hfound : ∀ {ticket : Nat} {progress : Progress}, queue.progress? ticket = some progress →
      ∃ submission : Submission, submission.progress = progress ∧
        (queue.lose lost).progress? ticket =
          some (submission.orphan lost (!(queue.lose lost).isAlive)).progress := by
    intro ticket progress hprogress
    obtain ⟨submission, hsubmission, hprogress⟩ := progress?_eq_some_iff.mp hprogress
    exact ⟨submission, hprogress, by simp [progress?, lose_getElem?, hsubmission]⟩
  refine ⟨?_, ?_, ?_, ?_, ?_⟩
  · intro ticket progress hprogress
    rw [progress?, lose_getElem?, Option.map_map, Option.map_eq_some_iff] at hprogress
    obtain ⟨submission, hsubmission, rfl⟩ := hprogress
    have hholds := h.holds (progress?_of_getElem? hsubmission)
    rcases submission.orphan_cases lost (!(queue.lose lost).isAlive) with
      ⟨-, horphan⟩ | ⟨-, horphan⟩ | ⟨horphan, hchannel, hworker⟩
    · rw [Function.comp_apply, horphan]
      exact holds_settle _ _ _ _
    · rw [Function.comp_apply, horphan]
      exact holds_settle _ _ _ _
    -- Left as it is, it is with somebody who was not lost.
    · rw [Function.comp_apply, horphan]
      simp only [Bool.not_eq_false'] at hchannel
      cases hprogress : submission.progress with
      | waiting =>
          rw [hprogress] at hholds
          exact ⟨hholds.1, hchannel (.inl hprogress)⟩
      | queued =>
          rw [hprogress] at hholds
          have halive := hchannel (.inr hprogress)
          exact ⟨by rw [channel_lose, if_pos halive]; exact hholds.1, halive⟩
      | running worker | compiled worker =>
          rw [hprogress] at hholds
          exact remaining_getElem?_eq_busy_iff.mpr ⟨hholds, hworker worker (by rw [hprogress]; rfl)⟩
      | settled | abandoned => trivial
  · intro ticket hmem
    rw [channel_lose] at hmem
    split_ifs at hmem with halive
    · obtain ⟨submission, hqueued, hprogress⟩ := hfound (h.queued hmem)
      simp [hprogress, Submission.orphan, Progress.verdict?, hqueued, halive]
    · cases hmem
  · intro worker ticket hworking
    rw [workers_lose, remaining_getElem?_eq_busy_iff] at hworking
    obtain ⟨hworking, hkept⟩ := hworking
    obtain ⟨progress, hprogress, hworker⟩ := h.working hworking
    obtain ⟨submission, rfl, hlose⟩ := hfound hprogress
    refine ⟨submission.progress, ?_, hworker⟩
    rw [hlose, Submission.orphan_of_worker? hworker hkept]
  · rw [channel_lose]
    split_ifs
    · exact h.nodup
    · exact List.nodup_nil
  · have hroom := h.room
    rw [channel_lose, capacity, workers_lose, length_remaining, ← capacity]
    split_ifs
    · exact hroom
    · exact Nat.zero_le _

/-- Every step keeps the parts of the queue together. -/
theorem move (h : queue.Coherent) {step : QueueStep} (hmove : Move queue step after) :
    after.Coherent := by
  cases hmove with
  | submit job haccepting => exact h.submit job haccepting
  | accept hwaiting halive hroom => exact h.enqueue hwaiting halive hroom
  | listen hidle => exact h.setWorker hidle rfl rfl nofun
  | take hlistening hchannel => exact h.start hlistening hchannel
  | finish ending hbusy hrunning => exact h.finish ending hbusy hrunning
  | answer hbusy hcompiled => exact h.answer hbusy hcompiled
  | leave hsubmission => exact h.leave hsubmission
  | close haccepting hwaiting => exact h.close hwaiting
  | exit hlistening hempty hclosed =>
      refine h.setWorker hlistening rfl rfl ?_
      rintro (haccepting | hleft)
      · rw [hclosed] at haccepting
        cases haccepting
      · exact absurd hempty hleft
  | lose lost => exact h.lose lost

end Coherent

theorem coherent_of_run {count : Nat} {steps : List QueueStep}
    (h : (ofWorkers count).run? steps = some queue) : queue.Coherent :=
  run_induction (motive := fun _ queue => queue.Coherent) (.ofWorkers count)
    (fun _ _ _ _ _ hbefore hmove => hbefore.move hmove) h

theorem length_workers_of_run {count : Nat} {steps : List QueueStep}
    (h : (ofWorkers count).run? steps = some queue) : queue.workers.length = max 1 count := by
  refine run_induction (motive := fun _ queue => queue.workers.length = max 1 count) ?_ ?_ h
  · simp [ofWorkers]
  · intro steps before step after _ ih hmove
    cases hmove <;> simpa [length_remaining] using ih

end Queue

end TemplateBundler

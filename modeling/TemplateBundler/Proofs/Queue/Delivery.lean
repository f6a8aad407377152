import TemplateBundler.Proofs.Queue.History
import TemplateBundler.Proofs.Queue.Isolation

/-! # Every job is served once, and for its own submitter

While a queue serves jobs, each accepted job is in one place, the compiler runs on it once,
and its submitter gets the result of that run and of no other. This holds for every order
of steps, and whatever happens to one job is of no consequence for the rest.
-/

namespace TemplateBundler.Queue

open QueueEvent

/-- A place for an accepted job. -/
inductive Place where
  | channel
  | worker (worker : Nat)
  | answered

/-- Whether the queue has the job in this place, after these events. -/
def IsAt (queue : Queue) (events : List QueueEvent) (ticket : Nat) : Place → Prop
  | .channel => ticket ∈ queue.channel
  | .worker worker => queue.workers[worker]? = some (.busy ticket)
  | .answered => ∃ worker, .answered ticket worker ∈ events

variable {ends : CompileJob → RunEnd → Prop} {lossy : Prop} {count ticket : Nat}
  {steps : List QueueStep} {queue after : Queue} {events : List QueueEvent}

/-! ## Places -/

theorem IsAt.isHeld (h : queue.Coherent) {place : Place} (hat : queue.IsAt events ticket place)
    (hplace : place ≠ .answered) {submission : Submission}
    (hsubmission : queue.submissions[ticket]? = some submission) :
    submission.progress.isHeld := by
  have hprogress := progress?_of_getElem? hsubmission
  cases place with
  | channel =>
      have hqueued := h.queued hat
      rw [hprogress] at hqueued
      rw [Option.some.inj hqueued]
      rfl
  | worker worker =>
      have hworker := h.worker_eq hat hprogress
      cases hsome : submission.progress with
      | running | compiled => rfl
      | waiting | queued | settled | abandoned =>
          rw [hsome] at hworker
          cases hworker
  | answered => exact absurd rfl hplace

/-- A job that is held is in the channel or with one worker. -/
theorem exists_isAt_of_isHeld (h : queue.Coherent) {submission : Submission}
    (hsubmission : queue.submissions[ticket]? = some submission)
    (hheld : submission.progress.isHeld) : ∃ place, queue.IsAt events ticket place := by
  have hholds := h.holds (progress?_of_getElem? hsubmission)
  cases hprogress : submission.progress with
  | queued =>
      rw [hprogress] at hholds
      exact ⟨.channel, hholds.1⟩
  | running worker | compiled worker =>
      rw [hprogress] at hholds
      exact ⟨.worker worker, hholds⟩
  | waiting | settled | abandoned =>
      rw [hprogress] at hheld
      cases hheld

theorem IsAt.eq (h : queue.Coherent) {submission : Submission}
    (hsubmission : queue.submissions[ticket]? = some submission)
    (hstory : Story ends lossy ticket submission (own ticket events)) {place other : Place}
    (hplace : queue.IsAt events ticket place) (hother : queue.IsAt events ticket other) :
    place = other := by
  have hprogress := progress?_of_getElem? hsubmission
  -- A submission that was answered is in nobody's hands.
  have hunanswered : submission.progress.isHeld → ¬ queue.IsAt events ticket .answered := by
    rintro hheld ⟨worker, hanswered⟩
    exact hstory.not_answered_of_isHeld hheld worker (mem_own_iff.mpr ⟨hanswered, rfl⟩)
  have hlone : ∀ worker, queue.IsAt events ticket .channel →
      ¬ queue.IsAt events ticket (.worker worker) := by
    intro worker hchannel hworker
    have hone := h.worker_eq hworker (h.queued hchannel)
    cases hone
  cases place with
  | channel =>
      cases other with
      | channel => rfl
      | worker worker => exact absurd hother (hlone worker hplace)
      | answered => exact absurd hother (hunanswered (hplace.isHeld h nofun hsubmission))
  | worker worker =>
      cases other with
      | channel => exact absurd hplace (hlone worker hother)
      | worker another =>
          have hone := h.worker_eq hplace hprogress
          rw [h.worker_eq hother hprogress] at hone
          cases hone
          rfl
      | answered => exact absurd hother (hunanswered (hplace.isHeld h nofun hsubmission))
  | answered =>
      by_contra hne
      exact hunanswered (hother.isHeld h (Ne.symm hne) hsubmission) hplace

theorem existsUnique_isAt (h : queue.Coherent) (hlossy : ¬ lossy) {submission : Submission}
    (hsubmission : queue.submissions[ticket]? = some submission)
    (hstory : Story ends lossy ticket submission (own ticket events))
    (haccepted : .accepted ticket ∈ events) : ∃! place, queue.IsAt events ticket place := by
  obtain ⟨place, hplace⟩ : ∃ place, queue.IsAt events ticket place := by
    rcases hstory.isHeld_or_answered hlossy (mem_own_iff.mpr ⟨haccepted, rfl⟩) with
      hheld | ⟨worker, hanswered⟩
    · exact exists_isAt_of_isHeld h hsubmission hheld
    · exact ⟨.answered, worker, (mem_own_iff.mp hanswered).1⟩
  exact ⟨place, hplace, fun other hother => IsAt.eq h hsubmission hstory hother hplace⟩

/-! ## What serving keeps -/

theorem jobs_modify (queue : Queue) (ticket : Nat) {change : Submission → Submission}
    (hchange : ∀ submission, (change submission).job = submission.job) :
    (queue.modify ticket change).submissions.map (·.job) = queue.submissions.map (·.job) := by
  refine List.ext_getElem? fun other => ?_
  simp only [modify, List.getElem?_map, List.getElem?_modify]
  split_ifs
  · simp [Function.comp_def, hchange]
  · simp

theorem job_orphan (submission : Submission) (lost : Nat → Bool) (closed : Bool) :
    (submission.orphan lost closed).job = submission.job := by
  rw [Submission.orphan]
  split <;> rfl

theorem jobs_move {step : QueueStep} (hmove : Move queue step after) :
    after.submissions.map (·.job) =
      queue.submissions.map (·.job) ++ step.submitted?.toList := by
  cases hmove with
  | submit job => simp [admission, QueueStep.submitted?]
  | listen | exit | close => exact (List.append_nil _).symm
  | accept | take | finish | answer | leave =>
      exact (jobs_modify _ _ (by intro; rfl)).trans (List.append_nil _).symm
  | lose => simp [lose, Function.comp_def, job_orphan, QueueStep.submitted?]

/-- The submissions are for the submitted jobs, in order. -/
theorem jobs_of_run (h : (ofWorkers count).run? steps = some queue) :
    queue.submissions.map (·.job) = steps.filterMap QueueStep.submitted? := by
  refine run_induction (motive := fun steps queue =>
    queue.submissions.map (·.job) = steps.filterMap QueueStep.submitted?) rfl ?_ h
  intro steps before step after _ ih hmove
  rw [jobs_move hmove, ih, List.filterMap_append, List.filterMap_cons, List.filterMap_nil]
  cases step.submitted? <;> rfl

theorem accepting_of_serves (hserves : ∀ step ∈ steps, step.serves)
    (h : (ofWorkers count).run? steps = some queue) : queue.accepting = true := by
  revert hserves
  refine run_induction (motive := fun steps queue =>
    (∀ step ∈ steps, step.serves) → queue.accepting = true) (fun _ => rfl) ?_ h
  intro steps before step after _ ih hmove hserves
  obtain ⟨hearlier, hlast⟩ := List.forall_mem_append.mp hserves
  have hbefore := ih hearlier
  cases hmove with
  | close => cases hlast _ (List.mem_singleton_self _)
  | _ => simpa using hbefore

theorem not_loses_of_serves (hserves : ∀ step ∈ steps, step.serves) :
    ¬ ∃ step ∈ steps, step.loses := by
  rintro ⟨step, hmem, hloses⟩
  have hstep := hserves step hmem
  cases step with
  | lose => cases hstep
  | _ => cases hloses

/-! ## The whole run -/

/-- A queue that serves jobs loses no worker and no job. Each accepted job is in one place; its
events come in one order and none of them twice, so that the compiler runs on it at most once
and, if it was answered, exactly once. An answer is what the compiler made of this very job, or
after a crash on this very job a failure that names the worker. How the compiler ends on a job
and whether its submitter stays makes no difference to the rest of the queue. -/
theorem run_serves_each_job_once {ends : CompileJob → RunEnd → Prop} {count : Nat}
    {steps : List QueueStep} {queue : Queue}
    (hrun : (ofWorkers count).run? steps = some queue)
    (hends : (ofWorkers count).PermitsAll ends steps)
    (hserves : ∀ step ∈ steps, step.serves) :
    let events := (ofWorkers count).events steps
    (queue.workers.length = max 1 count ∧ .gone ∉ queue.workers) ∧
    queue.submissions.map (·.job) = steps.filterMap QueueStep.submitted? ∧
    queue.channel.Nodup ∧
    (∀ ticket, .accepted ticket ∈ events → ∃! place, queue.IsAt events ticket place) ∧
    (∀ ticket submission, queue.submissions[ticket]? = some submission →
      (∃ worker ending, own ticket events <+: course ticket worker ending) ∧
      submission.runs = ((own ticket events).filterMap started?).length ∧ submission.runs ≤ 1 ∧
      (queue.IsAt events ticket .answered → submission.runs = 1) ∧
      ∀ result, submission.progress = .settled result → ∃ worker ending,
        own ticket events = course ticket worker ending ∧ ends submission.job ending ∧
        (ending = .answered result ∨ ∃ text detail, ending = .crashed text ∧
          result = .error (.unpositioned (s!"Compile worker {worker} failed: " ++ detail)))) ∧
    (∀ before worker ending later, steps = before ++ .finish worker ending :: later →
      ∃ middle ticket, (ofWorkers count).run? before = some middle ∧
        middle.workers[worker]? = some (.busy ticket) ∧ ∀ other, ∃ another,
          (ofWorkers count).run? (before ++ .finish worker other :: later) = some another ∧
          AgreeBeside ticket queue another) ∧
    (∀ before ticket later, steps = before ++ .leave ticket :: later →
      ∃ another, (ofWorkers count).run? (before ++ later) = some another ∧
        AgreeBeside ticket queue another) := by
  intro events
  have hcoherent := coherent_of_run hrun
  have hrecorded := recorded_of_run hrun hends
  have hlossless := not_loses_of_serves hserves
  have haccepting := accepting_of_serves hserves hrun
  refine ⟨⟨length_workers_of_run hrun, ?_⟩, jobs_of_run hrun, hcoherent.nodup, ?_, ?_, ?_, ?_⟩
  · intro hgone
    rcases hrecorded.gone hgone with hloses | ⟨hclosed, -⟩
    · exact hlossless hloses
    · rw [haccepting] at hclosed
      cases hclosed
  · intro ticket haccepted
    obtain ⟨submission, hsubmission⟩ := hrecorded.exists_submission haccepted
    exact existsUnique_isAt hcoherent hlossless hsubmission (hrecorded.story hsubmission) haccepted
  · intro ticket submission hsubmission
    have hstory := hrecorded.story hsubmission
    refine ⟨hstory.prefix_course, hstory.runs_eq, hstory.runs_le_one, ?_, ?_⟩
    · rintro ⟨worker, hanswered⟩
      exact (hstory.of_answered (mem_own_iff.mpr ⟨hanswered, rfl⟩)).2
    · intro result hsettled
      obtain ⟨worker, ending, hjob, rfl, hcourse⟩ | ⟨hloses, -⟩ := hstory.of_settled hsettled
      · exact ⟨worker, ending, hcourse, hjob, ending.answered_or_crashed worker⟩
      · exact absurd hloses hlossless
  · rintro before worker ending later rfl
    refine agreeBeside_of_finish (fun step hmem => hserves step ?_) hrun
    exact List.mem_append_right _ (List.mem_cons_of_mem _ hmem)
  · rintro before ticket later rfl
    refine agreeBeside_of_leave (fun step hmem => hserves step ?_) hrun
    exact List.mem_append_right _ (List.mem_cons_of_mem _ hmem)

/-- One worker and two jobs, of which the first crashes the compiler after its submitter left. -/
theorem run_serves_job_behind_crash :
    let ends : CompileJob → RunEnd → Prop := fun job ending =>
      ending = .crashed none ∨ ending = .answered (.ok job.payload)
    let steps : List QueueStep := [.submit ⟨"a", {}⟩, .accept 0, .submit ⟨"b", {}⟩, .listen 0,
      .take 0, .accept 1, .leave 0, .finish 0 (.crashed none), .answer 0, .listen 0, .take 0,
      .finish 0 (.answered (.ok "b")), .answer 0]
    ∃ queue, (ofWorkers 0).run? steps = some queue ∧ (ofWorkers 0).PermitsAll ends steps ∧
      (∀ step ∈ steps, step.serves) ∧ queue.workers.length = 1 ∧
      queue.progress? 1 = some (.settled (.ok "b")) ∧
      ∃! place, queue.IsAt ((ofWorkers 0).events steps) 0 place := by
  intro ends steps
  have hserves : ∀ step ∈ steps, step.serves := by decide
  have hends : (ofWorkers 0).PermitsAll ends steps := by
    iterate 7 refine permitsAll_cons rfl trivial ?_
    refine permitsAll_cons rfl (fun _ _ _ _ => .inl rfl) ?_
    iterate 3 refine permitsAll_cons rfl trivial ?_
    refine permitsAll_cons rfl ?_ (permitsAll_cons rfl trivial trivial)
    intro ticket submission hbusy hsubmission
    cases hbusy
    cases hsubmission
    exact .inr rfl
  obtain ⟨queue, hrun, hprogress⟩ : ∃ queue, (ofWorkers 0).run? steps = some queue ∧
      queue.progress? 1 = some (.settled (.ok "b")) := ⟨_, rfl, rfl⟩
  obtain ⟨⟨hworkers, -⟩, -, -, hplaces, -⟩ := run_serves_each_job_once hrun hends hserves
  exact ⟨queue, hrun, hends, hserves, hworkers, hprogress, hplaces 0 (List.Mem.head _)⟩

end TemplateBundler.Queue

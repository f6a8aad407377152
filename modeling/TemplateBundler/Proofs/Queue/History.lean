import Mathlib.Data.List.Induction
import TemplateBundler.Proofs.Queue.Coherence

/-! # What has happened to each submission

Whatever the order of steps, the events of one submission come in the one order of
`QueueEvent.course`, and how far they have come says what has become of the submission. A
submission whose course breaks off without its submitter leaving lost its worker.
-/

namespace TemplateBundler

namespace QueueEvent

variable {ticket other : Nat} {events news : List QueueEvent}

section Projections

variable (ticket worker : Nat) (ending : RunEnd)

@[simp] theorem accepted?_accepted : (accepted ticket).accepted? = some ticket := rfl
@[simp] theorem accepted?_started : (started ticket worker).accepted? = none := rfl
@[simp] theorem accepted?_ended : (ended ticket worker ending).accepted? = none := rfl
@[simp] theorem accepted?_answered : (answered ticket worker).accepted? = none := rfl

@[simp] theorem started?_accepted : (accepted ticket).started? = none := rfl
@[simp] theorem started?_started : (started ticket worker).started? = some ticket := rfl
@[simp] theorem started?_ended : (ended ticket worker ending).started? = none := rfl
@[simp] theorem started?_answered : (answered ticket worker).started? = none := rfl

end Projections

theorem own_append (ticket : Nat) (events news : List QueueEvent) :
    own ticket (events ++ news) = own ticket events ++ own ticket news :=
  List.filter_append ..

theorem own_eq_self (h : ∀ event ∈ news, event.ticket = ticket) : own ticket news = news :=
  List.filter_eq_self.mpr fun event hevent => by simp [h event hevent]

theorem own_eq_nil (h : ∀ event ∈ news, event.ticket = ticket) (hne : other ≠ ticket) :
    own other news = [] :=
  List.filter_eq_nil_iff.mpr fun event hevent => by simp [h event hevent, hne.symm]

theorem mem_own_iff {event : QueueEvent} :
    event ∈ own ticket events ↔ event ∈ events ∧ event.ticket = ticket := by
  simp [own]

end QueueEvent

open QueueEvent

/-! ## What a submitter can be told -/

/-- The answer after a crash names the worker. -/
theorem RunEnd.result_crashed (worker : Nat) (text : Option String) :
    ∃ detail, (crashed text).result worker =
      .error (.unpositioned (s!"Compile worker {worker} failed: " ++ detail)) := by
  obtain ⟨reason, hreason⟩ : ∃ reason : String, (crashed text).result worker =
      .error (.unpositioned s!"Compile worker {worker} failed: task <id> panicked{reason}") :=
    ⟨_, rfl⟩
  have hsplit : " failed: task <id> panicked" = " failed: " ++ "task <id> panicked" := by decide
  refine ⟨"task <id> panicked" ++ reason,
    hreason.trans (congrArg (fun message => Except.error (CompileFailure.unpositioned message)) ?_)⟩
  change "Compile worker " ++ toString worker ++ " failed: task <id> panicked" ++ reason =
    "Compile worker " ++ toString worker ++ " failed: " ++ ("task <id> panicked" ++ reason)
  rw [hsplit]
  simp only [String.append_assoc]

/-- A worker reports what the compiler answered, or a failure that names the worker. -/
theorem RunEnd.answered_or_crashed (worker : Nat) (ending : RunEnd) :
    ending = .answered (ending.result worker) ∨ ∃ text detail, ending = .crashed text ∧
      ending.result worker =
        .error (.unpositioned (s!"Compile worker {worker} failed: " ++ detail)) := by
  cases ending with
  | answered result => exact .inl rfl
  | crashed text =>
      obtain ⟨detail, hdetail⟩ := result_crashed worker text
      exact .inr ⟨text, detail, rfl, hdetail⟩

/-- A job that was not accepted fails without a position. -/
theorem shutDownResult_eq :
    shutDownResult = .error (.unpositioned "Compile job queue is shut down") := rfl

/-- A job that was accepted and is lost fails without a position. -/
theorem droppedResult_eq :
    droppedResult = .error (.unpositioned "Compile job was dropped before it completed") := rfl

/-! ## Stories -/

/-- How a submission stands after these events, all of them its own. `ends` says how the compiler
may end, and `lossy` whether workers were taken away. -/
inductive Story (ends : CompileJob → RunEnd → Prop) (lossy : Prop) (ticket : Nat) :
    Submission → List QueueEvent → Prop where
  | waiting (job : CompileJob) : Story ends lossy ticket ⟨job, .waiting, true, 0⟩ []
  | left (job : CompileJob) : Story ends lossy ticket ⟨job, .abandoned, false, 0⟩ []
  | refused (job : CompileJob) (hlossy : lossy) :
      Story ends lossy ticket ⟨job, .settled shutDownResult, true, 0⟩ []
  | queued (job : CompileJob) (present : Bool) :
      Story ends lossy ticket ⟨job, .queued, present, 0⟩ [accepted ticket]
  | running (job : CompileJob) (present : Bool) (worker : Nat) :
      Story ends lossy ticket ⟨job, .running worker, present, 1⟩
        [accepted ticket, started ticket worker]
  | compiled {job : CompileJob} {ending : RunEnd} (present : Bool) (worker : Nat)
      (hends : ends job ending) :
      Story ends lossy ticket ⟨job, .compiled worker (ending.result worker), present, 1⟩
        [accepted ticket, started ticket worker, ended ticket worker ending]
  | answered {job : CompileJob} {ending : RunEnd} (worker : Nat) (hends : ends job ending) :
      Story ends lossy ticket ⟨job, .settled (ending.result worker), true, 1⟩
        (course ticket worker ending)
  | discarded {job : CompileJob} {ending : RunEnd} (worker : Nat) (hends : ends job ending) :
      Story ends lossy ticket ⟨job, .abandoned, false, 1⟩ (course ticket worker ending)
  | dropped {job : CompileJob} {progress : Progress} {runs : Nat} {events : List QueueEvent}
      (hlossy : lossy) (hheld : progress.isHeld)
      (before : Story ends lossy ticket ⟨job, progress, true, runs⟩ events) :
      Story ends lossy ticket ⟨job, .settled droppedResult, true, runs⟩ events
  | forgotten {job : CompileJob} {progress : Progress} {runs : Nat} {events : List QueueEvent}
      (hlossy : lossy) (hheld : progress.isHeld)
      (before : Story ends lossy ticket ⟨job, progress, false, runs⟩ events) :
      Story ends lossy ticket ⟨job, .abandoned, false, runs⟩ events

namespace Story

variable {ends : CompileJob → RunEnd → Prop} {lossy : Prop} {ticket worker : Nat}
  {submission : Submission} {events : List QueueEvent} {ending : RunEnd} {result : CompileResult}

theorem mono {lossy' : Prop} (h : Story ends lossy ticket submission events)
    (hlossy : lossy → lossy') : Story ends lossy' ticket submission events := by
  induction h with
  | waiting job => exact .waiting job
  | left job => exact .left job
  | refused job h => exact .refused job (hlossy h)
  | queued job present => exact .queued job present
  | running job present worker => exact .running job present worker
  | compiled present worker hends => exact .compiled present worker hends
  | answered worker hends => exact .answered worker hends
  | discarded worker hends => exact .discarded worker hends
  | dropped h hheld before ih => exact .dropped (hlossy h) hheld ih
  | forgotten h hheld before ih => exact .forgotten (hlossy h) hheld ih

/-! ## One step on -/

theorem enqueue (h : Story ends lossy ticket submission events)
    (hwaiting : submission.progress = .waiting) :
    Story ends lossy ticket submission.enqueue (events ++ [accepted ticket]) := by
  cases h with
  | waiting job => exact .queued job true
  | _ => cases hwaiting

theorem start (h : Story ends lossy ticket submission events)
    (hqueued : submission.progress = .queued) (worker : Nat) :
    Story ends lossy ticket (submission.start worker) (events ++ [started ticket worker]) := by
  cases h with
  | queued job present => exact .running job present worker
  | _ => cases hqueued

theorem finish (h : Story ends lossy ticket submission events)
    (hrunning : submission.progress = .running worker) (hends : ends submission.job ending) :
    Story ends lossy ticket (submission.finish worker ending)
      (events ++ [ended ticket worker ending]) := by
  cases h with
  | running job present other =>
      cases hrunning
      exact .compiled present worker hends
  | _ => cases hrunning

theorem answer (h : Story ends lossy ticket submission events)
    (hcompiled : submission.progress = .compiled worker result) :
    Story ends lossy ticket (submission.settle result) (events ++ [.answered ticket worker]) := by
  cases h with
  | compiled present other hends =>
      cases hcompiled
      cases present with
      | true => exact .answered worker hends
      | false => exact .discarded worker hends
  | _ => cases hcompiled

theorem leave (h : Story ends lossy ticket submission events) (hleave : submission.canLeave) :
    Story ends lossy ticket submission.leave events := by
  cases h with
  | waiting job => exact .left job
  | queued job present => exact .queued job false
  | running job present worker => exact .running job false worker
  | compiled present worker hends => exact .compiled false worker hends
  | _ => cases hleave

theorem refuse (h : Story ends lossy ticket submission events)
    (hwaiting : submission.progress = .waiting) (hlossy : lossy) :
    Story ends lossy ticket (submission.settle shutDownResult) events := by
  cases h with
  | waiting job => exact .refused job hlossy
  | _ => cases hwaiting

theorem drop (h : Story ends lossy ticket submission events)
    (hheld : submission.progress.isHeld) (hlossy : lossy) :
    Story ends lossy ticket (submission.settle droppedResult) events := by
  obtain ⟨job, progress, present, runs⟩ := submission
  cases present with
  | true => exact .dropped hlossy hheld h
  | false => exact .forgotten hlossy hheld h

theorem orphan (h : Story ends lossy ticket submission events) (hlossy : lossy)
    (lost : Nat → Bool) (closed : Bool) :
    Story ends lossy ticket (submission.orphan lost closed) events := by
  rcases submission.orphan_cases lost closed with
    ⟨hwaiting, horphan⟩ | ⟨hheld, horphan⟩ | ⟨horphan, -⟩
  · rw [horphan]
    exact h.refuse hwaiting hlossy
  · rw [horphan]
    exact h.drop hheld hlossy
  · rw [horphan]
    exact h

/-! ## What a story tells -/

/-- A job is accepted, started, ended and answered in this order, and never twice. -/
theorem prefix_course (h : Story ends lossy ticket submission events) :
    ∃ worker ending, events <+: course ticket worker ending := by
  have hcut : ∀ worker ending count, (course ticket worker ending).take count <+:
      course ticket worker ending := fun _ _ count => List.take_prefix count _
  induction h with
  | waiting | left | refused => exact ⟨0, .crashed none, List.nil_prefix⟩
  | queued => exact ⟨0, .crashed none, hcut 0 (.crashed none) 1⟩
  | running job present worker => exact ⟨worker, .crashed none, hcut worker (.crashed none) 2⟩
  | @compiled job ending present worker => exact ⟨worker, ending, hcut worker ending 3⟩
  | @answered job ending worker | @discarded job ending worker =>
      exact ⟨worker, ending, List.prefix_refl _⟩
  | dropped hlossy hheld before ih | forgotten hlossy hheld before ih => exact ih

theorem runs_eq (h : Story ends lossy ticket submission events) :
    submission.runs = (events.filterMap started?).length := by
  induction h with
  | dropped hlossy hheld before ih | forgotten hlossy hheld before ih => exact ih
  | _ => rfl

theorem not_answered_of_isHeld (h : Story ends lossy ticket submission events)
    (hheld : submission.progress.isHeld) (worker : Nat) : .answered ticket worker ∉ events := by
  cases h with
  | queued | running | compiled => simp
  | _ => cases hheld

theorem runs_le_one (h : Story ends lossy ticket submission events) : submission.runs ≤ 1 := by
  obtain ⟨worker, ending, hcourse⟩ := h.prefix_course
  rw [h.runs_eq]
  exact (hcourse.filterMap started?).length_le

/-- An answer was sent at the end of the whole course, and nothing takes it back. -/
theorem of_answered (h : Story ends lossy ticket submission events)
    (hanswered : .answered ticket worker ∈ events) :
    (∃ ending, events = course ticket worker ending ∧
      (submission.progress = .settled (ending.result worker) ∨
        submission.progress = .abandoned ∧ submission.present = false)) ∧
    submission.runs = 1 := by
  cases h with
  | @answered job ending other =>
      obtain rfl : worker = other := by simpa [course] using hanswered
      exact ⟨⟨ending, rfl, .inl rfl⟩, rfl⟩
  | @discarded job ending other =>
      obtain rfl : worker = other := by simpa [course] using hanswered
      exact ⟨⟨ending, rfl, .inr ⟨rfl, rfl⟩⟩, rfl⟩
  | dropped hloss hheld before | forgotten hloss hheld before =>
      exact absurd hanswered (before.not_answered_of_isHeld hheld worker)
  | waiting | left | refused | queued | running | compiled => simp at hanswered

theorem present_of_abandoned (h : Story ends lossy ticket submission events)
    (habandoned : submission.progress = .abandoned) : submission.present = false := by
  cases h with
  | left | discarded | forgotten => rfl
  | waiting | refused | queued | running | compiled | answered | dropped => cases habandoned

/-- An accepted submission is in the queue's hands until it is answered. -/
theorem isHeld_or_answered (h : Story ends lossy ticket submission events) (hlossy : ¬ lossy)
    (haccepted : .accepted ticket ∈ events) :
    submission.progress.isHeld ∨ ∃ worker, .answered ticket worker ∈ events := by
  cases h with
  | waiting | left | refused => cases haccepted
  | queued | running | compiled => exact .inl rfl
  | answered worker | discarded worker => exact .inr ⟨worker, by simp [course]⟩
  | dropped hloss | forgotten hloss => exact absurd hloss hlossy

theorem accepted_of_isHeld (h : Story ends lossy ticket submission events)
    (hheld : submission.progress.isHeld) : .accepted ticket ∈ events := by
  cases h with
  | queued | running | compiled => simp
  | _ => cases hheld

/-- What the submitter of a settled submission was told, and by whom. -/
theorem of_settled (h : Story ends lossy ticket submission events)
    (hsettled : submission.progress = .settled result) :
    (∃ worker ending, ends submission.job ending ∧ result = ending.result worker ∧
      events = course ticket worker ending) ∨
    lossy ∧ (.accepted ticket ∉ events ∧ result = shutDownResult ∨
      .accepted ticket ∈ events ∧ result = droppedResult) := by
  cases h with
  | @answered job ending worker hends =>
      cases hsettled
      exact .inl ⟨worker, ending, hends, rfl, rfl⟩
  | refused job hlossy =>
      cases hsettled
      exact .inr ⟨hlossy, .inl ⟨List.not_mem_nil, rfl⟩⟩
  | dropped hlossy hheld before =>
      cases hsettled
      exact .inr ⟨hlossy, .inr ⟨before.accepted_of_isHeld hheld, rfl⟩⟩
  | _ => cases hsettled

end Story

namespace Queue

variable {ends : CompileJob → RunEnd → Prop} {lossy : Prop} {queue after : Queue} {ticket : Nat}
  {submission new : Submission} {events news : List QueueEvent}

/-- What the events tell about the queue that they led to. -/
structure Recorded (ends : CompileJob → RunEnd → Prop) (lossy : Prop) (queue : Queue)
    (events : List QueueEvent) : Prop where
  story {ticket : Nat} {submission : Submission} :
    queue.submissions[ticket]? = some submission →
      Story ends lossy ticket submission (own ticket events)
  own_eq_nil {ticket : Nat} : queue.submissions.length ≤ ticket → own ticket events = []
  taken : events.filterMap started? <+: events.filterMap accepted?
  order : queue.isAlive = true →
    events.filterMap accepted? = events.filterMap started? ++ queue.channel
  workers_ne_nil : queue.workers ≠ []
  gone : .gone ∈ queue.workers → lossy ∨ queue.accepting = false ∧ queue.channel = []

theorem Recorded.mono {lossy' : Prop} (h : Recorded ends lossy queue events)
    (hlossy : lossy → lossy') : Recorded ends lossy' queue events where
  story hsubmission := (h.story hsubmission).mono hlossy
  own_eq_nil := h.own_eq_nil
  taken := h.taken
  order := h.order
  workers_ne_nil := h.workers_ne_nil
  gone hgone := (h.gone hgone).imp_left hlossy

theorem lt_length_of_getElem? (h : queue.submissions[ticket]? = some submission) :
    ticket < queue.submissions.length :=
  (List.getElem?_eq_some_iff.mp h).1

/-- Events are about submissions. -/
theorem Recorded.exists_submission (h : Recorded ends lossy queue events) {event : QueueEvent}
    (hevent : event ∈ events) :
    ∃ submission, queue.submissions[event.ticket]? = some submission := by
  by_contra hnone
  have hle : queue.submissions.length ≤ event.ticket := by
    simpa [← Option.isSome_iff_exists] using hnone
  have hmem : event ∈ own event.ticket events := mem_own_iff.mpr ⟨hevent, rfl⟩
  rw [h.own_eq_nil hle] at hmem
  cases hmem

/-- Events of one submission change its story and no other. -/
theorem Recorded.story_of_change (h : Recorded ends lossy queue events)
    (hafter : ∀ other, after.submissions[other]? =
      if other = ticket then some new else queue.submissions[other]?)
    (hnews : ∀ event ∈ news, event.ticket = ticket)
    (hnew : Story ends lossy ticket new (own ticket events ++ news))
    {other : Nat} (hother : after.submissions[other]? = some submission) :
    Story ends lossy other submission (own other (events ++ news)) := by
  rw [own_append]
  rw [hafter] at hother
  split_ifs at hother with heq
  · cases hother
    rw [heq, QueueEvent.own_eq_self hnews]
    exact hnew
  · rw [QueueEvent.own_eq_nil hnews heq, List.append_nil]
    exact h.story hother

/-- A submission that does not exist yet has no events. -/
theorem Recorded.own_append_eq_nil (h : Recorded ends lossy queue events)
    (hnews : ∀ event ∈ news, event.ticket = ticket) (hlt : ticket < queue.submissions.length)
    {other : Nat} (hother : queue.submissions.length ≤ other) :
    own other (events ++ news) = [] := by
  rw [own_append, h.own_eq_nil hother, QueueEvent.own_eq_nil hnews (by omega), List.nil_append]

theorem length_modify (queue : Queue) (ticket : Nat) (change : Submission → Submission) :
    (queue.modify ticket change).submissions.length = queue.submissions.length :=
  List.length_modify ..

namespace Recorded

theorem submit (h : Recorded ends lossy queue events) (job : CompileJob)
    (haccepting : queue.accepting = true) : Recorded ends lossy (queue.submit job) events where
  story {ticket submission} hsubmission := by
    have hnew : Story ends lossy queue.submissions.length (queue.admission job)
        (own queue.submissions.length events ++ []) := by
      rw [h.own_eq_nil (Nat.le_refl _), List.nil_append]
      simp only [admission]
      split
      next halive => exact .waiting job
      next hdead =>
        -- Nobody has left the queue in order while it accepts jobs.
        obtain ⟨status, hstatus⟩ := List.exists_mem_of_ne_nil _ h.workers_ne_nil
        have hgone := queue.isAlive_eq_false_iff.mp (by simpa using hdead) status hstatus
        rcases h.gone (hgone ▸ hstatus) with hlossy | ⟨hclosed, -⟩
        · exact .refused job hlossy
        · rw [haccepting] at hclosed
          cases hclosed
    have hstory := h.story_of_change (submit_getElem? queue job) (by simp) hnew hsubmission
    rwa [List.append_nil] at hstory
  own_eq_nil hle := h.own_eq_nil (by simp at hle; omega)
  taken := h.taken
  order := h.order
  workers_ne_nil := h.workers_ne_nil
  gone := h.gone

theorem enqueue (h : Recorded ends lossy queue events) (hcoherent : queue.Coherent)
    (hwaiting : queue.progress? ticket = some .waiting) (halive : queue.isAlive = true) :
    Recorded ends lossy (queue.enqueue ticket) (events ++ [accepted ticket]) := by
  obtain ⟨submission, hsubmission, hprogress⟩ := progress?_eq_some_iff.mp hwaiting
  have hlt := lt_length_of_getElem? hsubmission
  refine ⟨?_, ?_, ?_, ?_, h.workers_ne_nil, ?_⟩
  · exact h.story_of_change (modify_getElem? hsubmission (·.enqueue)) (by simp [QueueEvent.ticket])
      ((h.story hsubmission).enqueue hprogress)
  · intro other hother
    rw [submissions_enqueue, length_modify] at hother
    exact h.own_append_eq_nil (by simp [QueueEvent.ticket]) hlt hother
  · simpa [List.filterMap_cons] using h.taken.trans (List.prefix_append _ _)
  · intro _
    simp [h.order halive]
  · intro hgone
    refine .inl ((h.gone hgone).resolve_right fun ⟨hclosed, _⟩ => ?_)
    have haccepting := (hcoherent.holds hwaiting).1
    rw [hclosed] at haccepting
    cases haccepting

theorem start (h : Recorded ends lossy queue events) (hcoherent : queue.Coherent) {worker : Nat}
    {channel : List Nat} (hlistening : queue.workers[worker]? = some .listening)
    (hchannel : queue.channel = ticket :: channel) :
    Recorded ends lossy (queue.start worker ticket channel)
      (events ++ [started ticket worker]) := by
  have hqueued : queue.progress? ticket = some .queued := hcoherent.queued (by simp [hchannel])
  obtain ⟨submission, hsubmission, hprogress⟩ := progress?_eq_some_iff.mp hqueued
  have hlt := lt_length_of_getElem? hsubmission
  have horder := h.order (isAlive_of_getElem? hlistening nofun)
  rw [hchannel] at horder
  refine ⟨?_, ?_, ?_, ?_, by simpa using h.workers_ne_nil, ?_⟩
  · exact h.story_of_change (modify_getElem? hsubmission (·.start worker))
      (by simp [QueueEvent.ticket]) ((h.story hsubmission).start hprogress worker)
  · intro other hother
    rw [submissions_start, length_modify] at hother
    exact h.own_append_eq_nil (by simp [QueueEvent.ticket]) hlt hother
  · exact ⟨channel, by simp [horder]⟩
  · intro _
    simp [horder]
  · intro hgone
    refine .inl ((h.gone ?_).resolve_right fun ⟨_, hempty⟩ => by simp [hchannel] at hempty)
    rcases List.mem_or_eq_of_mem_set hgone with hold | hnew
    · exact hold
    · cases hnew

/-- A worker without a job comes or goes. -/
theorem setWorker (h : Recorded ends lossy queue events) {worker : Nat} {old status : Worker}
    (hold : queue.workers[worker]? = some old) (halive : old ≠ .gone)
    (hgone : status = .gone → queue.accepting = false ∧ queue.channel = []) :
    Recorded ends lossy (queue.setWorker worker status) events where
  story := h.story
  own_eq_nil := h.own_eq_nil
  taken := h.taken
  order _ := h.order (isAlive_of_getElem? hold halive)
  workers_ne_nil := by simpa using h.workers_ne_nil
  gone hmem := by
    rcases List.mem_or_eq_of_mem_set hmem with hmem | hnew
    · exact h.gone hmem
    · exact .inr (hgone hnew.symm)

theorem finish (h : Recorded ends lossy queue events) {worker : Nat} {ending : RunEnd}
    (hrunning : queue.progress? ticket = some (.running worker))
    (hends : ∀ submission, queue.submissions[ticket]? = some submission →
      ends submission.job ending) :
    Recorded ends lossy (queue.modify ticket (·.finish worker ending))
      (events ++ [ended ticket worker ending]) := by
  obtain ⟨submission, hsubmission, hprogress⟩ := progress?_eq_some_iff.mp hrunning
  have hlt := lt_length_of_getElem? hsubmission
  refine ⟨?_, ?_, ?_, ?_, h.workers_ne_nil, h.gone⟩
  · exact h.story_of_change (modify_getElem? hsubmission (·.finish worker ending))
      (by simp [QueueEvent.ticket])
      ((h.story hsubmission).finish hprogress (hends submission hsubmission))
  · intro other hother
    rw [length_modify] at hother
    exact h.own_append_eq_nil (by simp [QueueEvent.ticket]) hlt hother
  · simpa [List.filterMap_cons] using h.taken
  · intro halive
    simpa [List.filterMap_cons] using h.order halive

theorem answer (h : Recorded ends lossy queue events) {worker : Nat} {result : CompileResult}
    (hbusy : queue.workers[worker]? = some (.busy ticket))
    (hcompiled : queue.progress? ticket = some (.compiled worker result)) :
    Recorded ends lossy (queue.answer worker ticket result)
      (events ++ [answered ticket worker]) := by
  obtain ⟨submission, hsubmission, hprogress⟩ := progress?_eq_some_iff.mp hcompiled
  have hlt := lt_length_of_getElem? hsubmission
  refine ⟨?_, ?_, ?_, ?_, by simpa using h.workers_ne_nil, ?_⟩
  · exact h.story_of_change (modify_getElem? hsubmission (·.settle result))
      (by simp [QueueEvent.ticket]) ((h.story hsubmission).answer hprogress)
  · intro other hother
    rw [submissions_answer, length_modify] at hother
    exact h.own_append_eq_nil (by simp [QueueEvent.ticket]) hlt hother
  · simpa [List.filterMap_cons] using h.taken
  · intro _
    simpa [List.filterMap_cons] using h.order (isAlive_of_getElem? hbusy nofun)
  · intro hgone
    rcases List.mem_or_eq_of_mem_set hgone with hold | hnew
    · exact h.gone hold
    · cases hnew

theorem leave (h : Recorded ends lossy queue events)
    (hsubmission : queue.submissions[ticket]? = some submission)
    (hleave : submission.canLeave = true) :
    Recorded ends lossy (queue.modify ticket (·.leave)) events where
  story {other another} hother := by
    have hnew : Story ends lossy ticket submission.leave (own ticket events ++ []) := by
      rw [List.append_nil]
      exact (h.story hsubmission).leave hleave
    have hstory := h.story_of_change (modify_getElem? hsubmission (·.leave)) (by simp) hnew hother
    rwa [List.append_nil] at hstory
  own_eq_nil hle := h.own_eq_nil (by rwa [length_modify] at hle)
  taken := h.taken
  order := h.order
  workers_ne_nil := h.workers_ne_nil
  gone := h.gone

theorem close (h : Recorded ends lossy queue events) (haccepting : queue.accepting = true) :
    Recorded ends lossy queue.close events where
  story := h.story
  own_eq_nil := h.own_eq_nil
  taken := h.taken
  order := h.order
  workers_ne_nil := h.workers_ne_nil
  gone hgone := by
    rcases h.gone hgone with hlossy | ⟨hclosed, -⟩
    · exact .inl hlossy
    · rw [haccepting] at hclosed
      cases hclosed

theorem lose (h : Recorded ends lossy queue events) (halive : queue.isAlive = true)
    (hlossy : lossy) (lost : Nat → Bool) : Recorded ends lossy (queue.lose lost) events where
  story {ticket submission} hsubmission := by
    rw [lose_getElem?, Option.map_eq_some_iff] at hsubmission
    obtain ⟨before, hbefore, rfl⟩ := hsubmission
    exact (h.story hbefore).orphan hlossy lost _
  own_eq_nil hle := h.own_eq_nil (by simpa [Queue.lose] using hle)
  taken := h.taken
  order hleft := by rw [channel_lose, if_pos hleft, h.order halive]
  workers_ne_nil := by
    have hworkers := h.workers_ne_nil
    simpa [remaining] using hworkers
  gone _ := .inl hlossy

theorem ofWorkers (count : Nat) : Recorded ends lossy (ofWorkers count) [] where
  story h := by simp [Queue.ofWorkers] at h
  own_eq_nil _ := rfl
  taken := List.prefix_refl _
  order _ := rfl
  workers_ne_nil := by simp [Queue.ofWorkers]
  gone h := by simp [Queue.ofWorkers] at h

/-- Every step goes on with the record. -/
theorem move (h : Recorded ends lossy queue events) (hcoherent : queue.Coherent)
    {step : QueueStep} (hmove : Move queue step after) (hpermits : queue.Permits ends step)
    (hlossy : step.loses → lossy) :
    Recorded ends lossy after (events ++ (queue.event? step).toList) := by
  cases hmove with
  | submit job haccepting => simpa [event?] using h.submit job haccepting
  | accept hwaiting halive => simpa [event?] using h.enqueue hcoherent hwaiting halive
  | listen hidle =>
      have hlistening : Recorded ends lossy (queue.setWorker _ .listening) events :=
        h.setWorker hidle nofun nofun
      simpa [event?] using hlistening
  | take hlistening hchannel =>
      simpa [event?, hchannel] using h.start hcoherent hlistening hchannel
  | finish ending hbusy hrunning =>
      obtain rfl := Option.some.inj (hcoherent.worker_eq hbusy hrunning)
      simpa [event?, hbusy] using
        h.finish hrunning fun submission hsubmission => hpermits _ submission hbusy hsubmission
  | answer hbusy hcompiled =>
      obtain rfl := Option.some.inj (hcoherent.worker_eq hbusy hcompiled)
      simpa [event?, hbusy] using h.answer hbusy hcompiled
  | leave hsubmission hleave => simpa [event?] using h.leave hsubmission hleave
  | close haccepting => simpa [event?] using h.close haccepting
  | exit hlistening hempty hclosed =>
      simpa [event?] using h.setWorker hlistening nofun fun _ => ⟨hclosed, hempty⟩
  | lose lost halive => simpa [event?] using h.lose halive (hlossy rfl) lost

end Recorded

/-! ## Every run -/

theorem recorded_of_run {count : Nat} {steps : List QueueStep}
    (h : (ofWorkers count).run? steps = some queue)
    (hpermits : (ofWorkers count).PermitsAll ends steps) :
    Recorded ends (∃ step ∈ steps, step.loses) queue ((ofWorkers count).events steps) := by
  revert hpermits
  refine run_induction (motive := fun steps queue => (ofWorkers count).PermitsAll ends steps →
    Recorded ends (∃ step ∈ steps, step.loses) queue ((ofWorkers count).events steps)) ?_ ?_ h
  · exact fun _ => .ofWorkers count
  · intro steps before step after hbefore ih hmove hpermits
    obtain ⟨hearlier, hlast, -⟩ := permitsAll_append hbefore hpermits
    rw [events_append_singleton hbefore hmove]
    have hrecorded : Recorded ends (∃ other ∈ steps ++ [step], other.loses) before
        ((ofWorkers count).events steps) :=
      (ih hearlier).mono fun ⟨other, hmem, hloses⟩ => ⟨other, List.mem_append_left _ hmem, hloses⟩
    exact hrecorded.move (coherent_of_run hbefore) hmove hlast
      fun hloses => ⟨step, by simp, hloses⟩

end Queue

end TemplateBundler

import TemplateBundler.Proofs.Queue.Coherence

/-! # One job does not disturb the others

How the compiler ends on a job, and whether its submitter waits for the answer, makes no
difference to any other job. The same steps stay enabled, and they lead to queues that
differ in this one submission only. So a queue with a job whose submitter has left, or one
with another result, is shadowed by the queue where nothing of the kind happened.
-/

namespace TemplateBundler

/-- Two submissions have come equally far, whatever their results are. -/
inductive Progress.Level : Progress → Progress → Prop where
  | refl (progress : Progress) : Level progress progress
  | compiled (worker : Nat) (result other : CompileResult) :
      Level (.compiled worker result) (.compiled worker other)
  | settled (result other : CompileResult) : Level (.settled result) (.settled other)

theorem Progress.Level.verdict?_eq {progress other : Progress} (h : progress.Level other)
    (lost : Nat → Bool) (closed : Bool) :
    progress.verdict? lost closed = other.verdict? lost closed := by
  cases h <;> rfl

theorem Progress.Level.eq {progress other : Progress} (h : progress.Level other)
    (hcompiled : ∀ worker result, progress ≠ .compiled worker result)
    (hsettled : ∀ result, progress ≠ .settled result) : other = progress := by
  cases h with
  | refl => rfl
  | compiled worker result => exact absurd rfl (hcompiled worker result)
  | settled result => exact absurd rfl (hsettled result)

theorem Progress.Level.exists_compiled {worker : Nat} {result : CompileResult} {other : Progress}
    (h : (Progress.compiled worker result).Level other) :
    ∃ result', other = .compiled worker result' := by
  cases h with
  | refl => exact ⟨result, rfl⟩
  | compiled worker result result' => exact ⟨result', rfl⟩

/-- The shadow of a submission has come equally far, unless the submission was given up. -/
structure Submission.Shadows (submission shadow : Submission) : Prop where
  level : submission.progress.Level shadow.progress ∨
    submission.progress = .abandoned ∧ submission.present = false
  present : submission.present = true → shadow.present = true

namespace Submission.Shadows

variable {submission shadow : Submission}

theorem refl (submission : Submission) : submission.Shadows submission :=
  ⟨.inl (.refl _), id⟩

theorem level_of_ne (h : submission.Shadows shadow) (hne : submission.progress ≠ .abandoned) :
    submission.progress.Level shadow.progress :=
  h.level.resolve_right fun habandoned => hne habandoned.1

theorem settle (h : submission.Shadows shadow) (result other : CompileResult) :
    (submission.settle result).Shadows (shadow.settle other) := by
  refine ⟨?_, h.present⟩
  cases hpresent : submission.present with
  | true =>
      simp only [Submission.settle, hpresent, h.present hpresent, if_true]
      exact .inl (.settled result other)
  | false => exact .inr (by simp [Submission.settle, hpresent])

theorem orphan (h : submission.Shadows shadow) (lost : Nat → Bool) (closed : Bool) :
    (submission.orphan lost closed).Shadows (shadow.orphan lost closed) := by
  rcases h.level with hlevel | ⟨habandoned, hgone⟩
  · rw [Submission.orphan, Submission.orphan, ← hlevel.verdict?_eq]
    split
    · exact h.settle _ _
    · exact h
  · have hself : submission.orphan lost closed = submission := by
      simp [Submission.orphan, habandoned, Progress.verdict?]
    rw [hself]
    exact ⟨.inr ⟨habandoned, hgone⟩, by simp [hgone]⟩

/-- Where a submitter can leave, so can the one of the shadow. -/
theorem leave (h : submission.Shadows shadow) (hleave : submission.canLeave = true) :
    shadow.canLeave = true ∧ submission.leave.Shadows shadow.leave := by
  have hpresent : submission.present = true := by
    simp only [Submission.canLeave, Bool.and_eq_true] at hleave
    exact hleave.1
  have hlevel := h.level.resolve_right fun hgone => by simp [hpresent] at hgone
  have hshadow := h.present hpresent
  obtain ⟨job, progress, present, runs⟩ := submission
  obtain ⟨otherJob, otherProgress, otherPresent, otherRuns⟩ := shadow
  obtain rfl : present = true := hpresent
  obtain rfl : otherPresent = true := hshadow
  cases hlevel with
  | refl => exact ⟨hleave, .inl (.refl _), id⟩
  | compiled worker result other => exact ⟨rfl, .inl (.compiled worker result other), id⟩
  | settled => cases hleave

end Submission.Shadows

namespace Queue

/-- Two queues that differ in nothing but one submission. -/
structure AgreeBeside (ticket : Nat) (queue other : Queue) : Prop where
  submissions : ∀ another, another ≠ ticket →
    queue.submissions[another]? = other.submissions[another]?
  channel : queue.channel = other.channel
  workers : queue.workers = other.workers
  accepting : queue.accepting = other.accepting

/-- The other queue agrees with this one but for one submission, which it shadows. -/
structure Shadows (ticket : Nat) (queue shadow : Queue) : Prop where
  length : queue.submissions.length = shadow.submissions.length
  submission {other : Nat} {submission : Submission} :
    queue.submissions[other]? = some submission →
      ∃ another, shadow.submissions[other]? = some another ∧ submission.Shadows another ∧
        (other ≠ ticket → submission = another)
  channel : queue.channel = shadow.channel
  workers : queue.workers = shadow.workers
  accepting : queue.accepting = shadow.accepting

variable {ticket : Nat} {queue shadow after : Queue}

namespace Shadows

theorem isAlive (h : Shadows ticket queue shadow) : queue.isAlive = shadow.isAlive := by
  rw [Queue.isAlive, h.workers, ← Queue.isAlive]

theorem agreeBeside (h : Shadows ticket queue shadow) : AgreeBeside ticket queue shadow where
  submissions other hother := by
    cases hsubmission : queue.submissions[other]? with
    | some submission =>
        obtain ⟨another, hanother, -, heq⟩ := h.submission hsubmission
        rw [hanother, heq hother]
    | none =>
        rw [List.getElem?_eq_none_iff, h.length] at hsubmission
        exact (List.getElem?_eq_none hsubmission).symm
  channel := h.channel
  workers := h.workers
  accepting := h.accepting

/-- Changing the same submission in both queues. -/
theorem modify (h : Shadows ticket queue shadow) {other : Nat} {submission another : Submission}
    (hsubmission : queue.submissions[other]? = some submission)
    (hanother : shadow.submissions[other]? = some another)
    (change change' : Submission → Submission)
    (hshadows : (change submission).Shadows (change' another))
    (heq : other ≠ ticket → change submission = change' another) :
    Shadows ticket (queue.modify other change) (shadow.modify other change') where
  length := by simp [Queue.modify, h.length]
  submission {third found} hfound := by
    rw [modify_getElem? hsubmission] at hfound
    rw [modify_getElem? hanother]
    split_ifs at hfound ⊢ with hthird
    · cases hfound
      exact ⟨_, rfl, hshadows, fun hne => heq (hthird ▸ hne)⟩
    · exact h.submission hfound
  channel := h.channel
  workers := h.workers
  accepting := h.accepting

theorem submit (h : Shadows ticket queue shadow) (job : CompileJob) :
    Shadows ticket (queue.submit job) (shadow.submit job) where
  length := by simp [h.length]
  submission {other found} hfound := by
    have hsame : shadow.admission job = queue.admission job := by
      simp only [admission, h.isAlive]
    rw [submit_getElem?] at hfound
    rw [submit_getElem?, ← h.length, hsame]
    split_ifs at hfound ⊢ with hnew
    · cases hfound
      exact ⟨_, rfl, .refl _, fun _ => rfl⟩
    · exact h.submission hfound
  channel := h.channel
  workers := h.workers
  accepting := h.accepting

theorem setWorker (h : Shadows ticket queue shadow) (worker : Nat) (status : Worker) :
    Shadows ticket (queue.setWorker worker status) (shadow.setWorker worker status) where
  length := h.length
  submission := h.submission
  channel := h.channel
  workers := by simp [h.workers]
  accepting := h.accepting

theorem lose (h : Shadows ticket queue shadow) (lost : Nat → Bool) :
    Shadows ticket (queue.lose lost) (shadow.lose lost) := by
  have hremaining : queue.remaining lost = shadow.remaining lost := by
    rw [remaining, h.workers, ← remaining]
  have halive : (queue.lose lost).isAlive = (shadow.lose lost).isAlive := by
    rw [Queue.isAlive, workers_lose, hremaining, ← workers_lose, ← Queue.isAlive]
  refine ⟨?_, ?_, ?_, hremaining, h.accepting⟩
  · simp [Queue.lose, h.length]
  · intro other found hfound
    rw [lose_getElem?, Option.map_eq_some_iff] at hfound
    obtain ⟨submission, hsubmission, rfl⟩ := hfound
    obtain ⟨another, hanother, hshadows, heq⟩ := h.submission hsubmission
    refine ⟨another.orphan lost (!(queue.lose lost).isAlive), ?_, hshadows.orphan lost _,
      fun hne => by rw [heq hne]⟩
    rw [lose_getElem?, hanother, halive, Option.map_some]
  · rw [channel_lose, channel_lose, halive, h.channel]

/-- The submission of the shadow where this one waits, is queued or runs. -/
theorem exists_of_progress? (h : Shadows ticket queue shadow) {other : Nat} {progress : Progress}
    (hprogress : queue.progress? other = some progress) (hne : progress ≠ .abandoned) :
    ∃ submission another, queue.submissions[other]? = some submission ∧
      shadow.submissions[other]? = some another ∧ submission.Shadows another ∧
      (other ≠ ticket → submission = another) ∧ submission.progress = progress ∧
      progress.Level another.progress := by
  obtain ⟨submission, hsubmission, rfl⟩ := progress?_eq_some_iff.mp hprogress
  obtain ⟨another, hanother, hshadows, heq⟩ := h.submission hsubmission
  exact ⟨submission, another, hsubmission, hanother, hshadows, heq, rfl, hshadows.level_of_ne hne⟩

/-- A step of the queue is a step of its shadow. Only closing asks for more than the shadow may
have, namely that nobody waits. -/
theorem move (h : Shadows ticket queue shadow) (hcoherent : queue.Coherent) {step : QueueStep}
    (hstep : step ≠ .close) (hmove : Move queue step after) :
    ∃ next, Move shadow step next ∧ Shadows ticket after next := by
  cases hmove with
  | submit job haccepting =>
      exact ⟨shadow.submit job, .submit job (h.accepting ▸ haccepting), h.submit job⟩
  | @accept other hwaiting halive hroom =>
      obtain ⟨submission, another, hsubmission, hanother, hshadows, heq, hprogress, hlevel⟩ :=
        h.exists_of_progress? hwaiting (by simp)
      have hmodified := h.modify hsubmission hanother (·.enqueue) (·.enqueue)
        ⟨.inl (.refl _), hshadows.present⟩ fun hne => by rw [heq hne]
      refine ⟨shadow.enqueue other, .accept ?_ (h.isAlive ▸ halive) ?_, hmodified.length,
        hmodified.submission, ?_, h.workers, h.accepting⟩
      · rw [progress?_of_getElem? hanother, hlevel.eq (by simp) (by simp)]
      · rwa [← h.channel, capacity, ← h.workers]
      · simp [h.channel]
  | listen hidle hfree =>
      exact ⟨_, .listen (h.workers ▸ hidle) (h.workers ▸ hfree), h.setWorker _ _⟩
  | @take worker other channel hlistening hchannel =>
      have hqueued : queue.progress? other = some .queued := hcoherent.queued (by simp [hchannel])
      obtain ⟨submission, another, hsubmission, hanother, hshadows, heq, -⟩ :=
        h.exists_of_progress? hqueued (by simp)
      have hmodified := h.modify hsubmission hanother (·.start worker) (·.start worker)
        ⟨.inl (.refl _), hshadows.present⟩ fun hne => by rw [heq hne]
      exact ⟨shadow.start worker other channel,
        .take (h.workers ▸ hlistening) (h.channel ▸ hchannel), hmodified.length,
        hmodified.submission, rfl, by simp [h.workers], h.accepting⟩
  | @finish worker other third ending hbusy hrunning =>
      obtain ⟨submission, another, hsubmission, hanother, hshadows, heq, -, hlevel⟩ :=
        h.exists_of_progress? hrunning (by simp)
      have hshadow : shadow.progress? other = some (.running third) := by
        rw [progress?_of_getElem? hanother, hlevel.eq (by simp) (by simp)]
      exact ⟨_, .finish ending (h.workers ▸ hbusy) hshadow,
        h.modify hsubmission hanother (·.finish worker ending) (·.finish worker ending)
          ⟨.inl (.refl _), hshadows.present⟩ fun hne => by rw [heq hne]⟩
  | @answer worker other third result hbusy hcompiled =>
      obtain ⟨submission, another, hsubmission, hanother, hshadows, heq, hprogress, hlevel⟩ :=
        h.exists_of_progress? hcompiled (by simp)
      -- The shadow may have another result for the job, and answers with its own.
      obtain ⟨result', hresult'⟩ := hlevel.exists_compiled
      have hshadow : shadow.progress? other = some (.compiled third result') := by
        rw [progress?_of_getElem? hanother, hresult']
      have hmodified := h.modify hsubmission hanother (·.settle result) (·.settle result')
        (hshadows.settle result result') fun hne => by
          rw [← heq hne, hprogress] at hresult'
          cases hresult'
          rw [heq hne]
      exact ⟨shadow.answer worker other result', .answer (h.workers ▸ hbusy) hshadow,
        hmodified.length, hmodified.submission, h.channel, by simp [h.workers], h.accepting⟩
  | @leave other submission hsubmission hleave =>
      obtain ⟨another, hanother, hshadows, heq⟩ := h.submission hsubmission
      obtain ⟨hcan, hleft⟩ := hshadows.leave hleave
      exact ⟨_, .leave hanother hcan, h.modify hsubmission hanother (·.leave) (·.leave) hleft
        fun hne => by rw [heq hne]⟩
  | close => exact absurd rfl hstep
  | exit hlistening hempty hclosed =>
      exact ⟨_, .exit (h.workers ▸ hlistening) (h.channel ▸ hempty) (h.accepting ▸ hclosed),
        h.setWorker _ _⟩
  | lose lost halive => exact ⟨_, .lose lost (h.isAlive ▸ halive), h.lose lost⟩

/-- So are whole runs of serving steps. -/
theorem run (h : Shadows ticket queue shadow) (hcoherent : queue.Coherent)
    {steps : List QueueStep} (hserves : ∀ step ∈ steps, step.serves)
    (hrun : queue.run? steps = some after) :
    ∃ next, shadow.run? steps = some next ∧ Shadows ticket after next := by
  -- The shadow takes the same steps, and none of them is one that closes the queue.
  induction steps generalizing queue shadow with
  | nil =>
      obtain rfl := Option.some.inj hrun
      exact ⟨shadow, rfl, h⟩
  | cons step steps ih =>
      obtain ⟨between, hmove, hrest⟩ := run?_cons_eq_some_iff.mp hrun
      obtain ⟨hstep, hsteps⟩ := List.forall_mem_cons.mp hserves
      have hopen : step ≠ .close := by
        rintro rfl
        cases hstep
      obtain ⟨next, hnext, hshadows⟩ := h.move hcoherent hopen hmove
      obtain ⟨last, hlast, hend⟩ := ih hshadows (hcoherent.move hmove) hsteps hrest
      exact ⟨last, run?_cons_eq_some_iff.mpr ⟨next, hnext, hlast⟩, hend⟩

theorem refl (ticket : Nat) (queue : Queue) : Shadows ticket queue queue where
  length := rfl
  submission h := ⟨_, h, .refl _, fun _ => rfl⟩
  channel := rfl
  workers := rfl
  accepting := rfl

/-- A queue without one of its submitters is shadowed by the queue with him. -/
theorem of_leave {submission : Submission}
    (hsubmission : queue.submissions[ticket]? = some submission) :
    Shadows ticket (queue.modify ticket (·.leave)) queue where
  length := by simp [Queue.modify]
  submission {other found} hfound := by
    rw [modify_getElem? hsubmission] at hfound
    split_ifs at hfound with hother
    · cases hfound
      subst hother
      refine ⟨submission, hsubmission, ⟨?_, fun hpresent => absurd hpresent Bool.false_ne_true⟩,
        fun hne => absurd rfl hne⟩
      by_cases hwaiting : submission.progress = .waiting
      · exact .inr ⟨Submission.leave_progress_of_eq hwaiting, rfl⟩
      · rw [Submission.leave_progress_of_ne hwaiting]
        exact .inl (.refl _)
    · exact ⟨found, hfound, .refl _, fun _ => rfl⟩
  channel := rfl
  workers := rfl
  accepting := rfl

end Shadows

/-! ## What one job does to the others -/

/-- However the compiler ends on one job, the steps go on in the same way for all others. -/
theorem agreeBeside_of_finish {count worker : Nat} {before later : List QueueStep}
    {ending : RunEnd} (hserves : ∀ step ∈ later, step.serves)
    (hrun : (ofWorkers count).run? (before ++ .finish worker ending :: later) = some queue) :
    ∃ middle ticket, (ofWorkers count).run? before = some middle ∧
      middle.workers[worker]? = some (.busy ticket) ∧ ∀ other, ∃ another,
        (ofWorkers count).run? (before ++ .finish worker other :: later) = some another ∧
        AgreeBeside ticket queue another := by
  obtain ⟨middle, hbefore, hlater⟩ := run?_append_eq_some_iff.mp hrun
  obtain ⟨between, hmove, hrest⟩ := run?_cons_eq_some_iff.mp hlater
  have hcoherent := (coherent_of_run hbefore).move hmove
  cases hmove with
  | @finish _ ticket third _ hbusy hrunning =>
    obtain ⟨submission, hsubmission, -⟩ := progress?_eq_some_iff.mp hrunning
    refine ⟨middle, ticket, hbefore, hbusy, fun other => ?_⟩
    have hshadows : Shadows ticket (middle.modify ticket (·.finish worker ending))
        (middle.modify ticket (·.finish worker other)) :=
      (Shadows.refl ticket middle).modify hsubmission hsubmission _ _
        ⟨.inl (.compiled ..), id⟩ fun hne => absurd rfl hne
    obtain ⟨another, hanother, hend⟩ := hshadows.run hcoherent hserves hrest
    refine ⟨another, run?_append_eq_some_iff.mpr ⟨middle, hbefore, ?_⟩, hend.agreeBeside⟩
    exact run?_cons_eq_some_iff.mpr ⟨_, .finish other hbusy hrunning, hanother⟩

/-- Had a submitter stayed, the steps would have gone on in the same way for all others. -/
theorem agreeBeside_of_leave {count : Nat} {before later : List QueueStep}
    (hserves : ∀ step ∈ later, step.serves)
    (hrun : (ofWorkers count).run? (before ++ .leave ticket :: later) = some queue) :
    ∃ another, (ofWorkers count).run? (before ++ later) = some another ∧
      AgreeBeside ticket queue another := by
  obtain ⟨middle, hbefore, hlater⟩ := run?_append_eq_some_iff.mp hrun
  obtain ⟨between, hmove, hrest⟩ := run?_cons_eq_some_iff.mp hlater
  have hcoherent := (coherent_of_run hbefore).move hmove
  cases hmove with
  | leave hsubmission hleave =>
    obtain ⟨another, hanother, hend⟩ := (Shadows.of_leave hsubmission).run hcoherent hserves hrest
    exact ⟨another, run?_append_eq_some_iff.mpr ⟨middle, hbefore, hanother⟩, hend.agreeBeside⟩

end Queue

end TemplateBundler

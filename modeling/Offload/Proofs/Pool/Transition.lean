/-
**The steps of a pool, one by one.**

Every possible step of a pool is listed once, with what has to hold for it, what it shows and the
state that it leads to.  Whatever is proved about runs goes through this list and never opens the
step function again.

Main definitions:

* `Pool.Scheduler.Finishing` — the steps that finish a job;
* `Pool.Scheduler.Transition` — all steps.

Main results:

* `Pool.Scheduler.finishing_finish` — finishing a job is one of the listed steps;
* `Pool.Scheduler.transition_of_step` — **every step is one of the listed ones**.
-/

import Offload.Pool.Step

set_option autoImplicit false
set_option relaxedAutoImplicit false

namespace Offload.Pool

variable {ρ S : Type}

/-- The worker has ended, in one way or the other. -/
def Worker.hasEnded : Worker ρ → Bool
  | .stopped | .died _ => true
  | _ => false

/-- Where a worker goes on when this is left of finishing a job. -/
def Worker.afterFinish : Option Finish → Worker ρ
  | some f => .finishing f
  | none => .looking

namespace Scheduler

/-- The steps that finish a job of a slot: what is left of it, what is shown, and the state. -/
inductive Finishing (s : Scheduler ρ S) (slot : Nat) :
    Finish → Option Finish → Option Event → Scheduler ρ S → Prop
  | count (job : Job) (outcome : Outcome Bytes) :
      Finishing s slot ⟨job, outcome, .count⟩ (some ⟨job, outcome, .leave⟩) none
        { s with pool := counted s.pool outcome }
  | leave (job : Job) (outcome : Outcome Bytes) :
      Finishing s slot ⟨job, outcome, .leave⟩ (some ⟨job, outcome, .resolve⟩) none
        { s with pool := s.pool.modifyLane slot fun l => { l with depth := l.depth - 1 } }
  | resolve (job : Job) (outcome : Outcome Bytes) :
      Finishing s slot ⟨job, outcome, .resolve⟩
        (some ⟨job, outcome, .wake (s.ledger.resolve job.ticket outcome).1⟩)
        (some (.resolved job slot outcome))
        { s with ledger := (s.ledger.resolve job.ticket outcome).2 }
  | wake (job : Job) (outcome : Outcome Bytes) (waker : Option Waker) :
      Finishing s slot ⟨job, outcome, .wake waker⟩ none none
        { s with ledger := s.ledger.wake job.ticket waker }

/-- All steps of a pool: whose turn it is, what is shown, and the state. -/
inductive Transition (exec : Executor ρ S) (s : Scheduler ρ S) :
    Move → Option Event → Scheduler ρ S → Prop
  -- the submission that holds the lock
  | lock (job : Job) (hsub : s.pool.submission = none) :
      Transition exec s (.submit job) none
        { s with pool := { s.pool with submission := some ⟨job, .entering⟩ } }
  | refuse (job : Job) (hsub : s.pool.submission = some ⟨job, .entering⟩)
      (hclosed : s.pool.closed = true) :
      Transition exec s .proceed (some (.refused job))
        { s with pool := { s.pool with submission := none } }
  | enter (job : Job) (hsub : s.pool.submission = some ⟨job, .entering⟩)
      (hopen : s.pool.closed = false) :
      Transition exec s .proceed none
        { s with pool := { s.pool with
          cursor := (s.pool.cursor + 1) % s.pool.size, submission := some ⟨job, .glancing⟩ } }
  | glanceFree (job : Job) (hsub : s.pool.submission = some ⟨job, .glancing⟩)
      (hfree : s.isFree s.pool.cursor = true) :
      Transition exec s .proceed none
        { s with pool := { s.pool with submission := some ⟨job, .enlisting⟩ } }
  | glanceBusy (job : Job) (hsub : s.pool.submission = some ⟨job, .glancing⟩)
      (hbusy : s.isFree s.pool.cursor = false) :
      Transition exec s .proceed none
        { s with pool := { s.pool with submission := some ⟨job, .scanning s.pool.cursor 0⟩ } }
  | scanFree (job : Job) (start offset : Nat)
      (hsub : s.pool.submission = some ⟨job, .scanning start offset⟩)
      (hoffset : offset < s.pool.size)
      (hfree : s.isFree ((start + offset) % s.pool.size) = true) :
      Transition exec s .proceed none
        { s with pool := { s.pool with
          cursor := (start + offset) % s.pool.size, submission := some ⟨job, .enlisting⟩ } }
  | scanBusy (job : Job) (start offset : Nat)
      (hsub : s.pool.submission = some ⟨job, .scanning start offset⟩)
      (hoffset : offset < s.pool.size)
      (hbusy : s.isFree ((start + offset) % s.pool.size) = false) :
      Transition exec s .proceed none
        { s with pool := { s.pool with submission := some ⟨job, .scanning start (offset + 1)⟩ } }
  | scanOut (job : Job) (start offset : Nat)
      (hsub : s.pool.submission = some ⟨job, .scanning start offset⟩)
      (hoffset : s.pool.size ≤ offset) :
      Transition exec s .proceed none
        { s with pool := { s.pool with submission := some ⟨job, .enlisting⟩ } }
  | enlist (job : Job) (hsub : s.pool.submission = some ⟨job, .enlisting⟩) :
      Transition exec s .proceed none
        { s with pool :=
          { s.pool.modifyLane s.pool.cursor fun l => { l with tail := some job.ticket } with
            submission := some ⟨job, .deepening⟩ } }
  | deepen (job : Job) (hsub : s.pool.submission = some ⟨job, .deepening⟩) :
      Transition exec s .proceed none
        { s with pool :=
          { s.pool.modifyLane s.pool.cursor fun l => { l with depth := l.depth + 1 } with
            submission := some ⟨job, .counting⟩ } }
  | countSubmitted (job : Job) (hsub : s.pool.submission = some ⟨job, .counting⟩) :
      Transition exec s .proceed none
        { s with pool := { s.pool with
          submitted := s.pool.submitted + 1, submission := some ⟨job, .queueing⟩ } }
  | accept (job : Job) (hsub : s.pool.submission = some ⟨job, .queueing⟩) :
      Transition exec s .proceed (some (.accepted job s.pool.cursor))
        { s with pool :=
          { s.pool.modifyLane s.pool.cursor fun l => { l with queue := l.queue ++ [job] } with
            submission := none } }
  -- the worker of a slot
  | start (slot : Nat) (lane : Lane ρ) (hl : s.pool.lanes[slot]? = some lane)
      (hw : lane.worker = .starting) (line : String) :
      Transition exec s (.work slot) none
        { s with shared := exec.note .debug line s.shared, pool := s.pool.setWorker slot .looking }
  | miss (slot : Nat) (lane : Lane ρ) (hl : s.pool.lanes[slot]? = some lane)
      (hw : lane.worker = .looking) (hq : lane.queue = []) :
      Transition exec s (.work slot) none { s with pool := s.pool.setWorker slot .doubting }
  | find (slot : Nat) (lane : Lane ρ) (job : Job) (queue : List Job)
      (hl : s.pool.lanes[slot]? = some lane) (hw : lane.worker = .looking)
      (hq : lane.queue = job :: queue) :
      Transition exec s (.work slot) none
        { s with pool := s.pool.modifyLane slot fun l => { l with queue, worker := .holding job } }
  | reject (slot : Nat) (lane : Lane ρ) (job : Job) (hl : s.pool.lanes[slot]? = some lane)
      (hw : lane.worker = .holding job) (hclosed : s.pool.closed = true) :
      Transition exec s (.work slot) none
        { s with pool := s.pool.setWorker slot (.finishing (.begin job (.error .closed))) }
  | begin (slot : Nat) (lane : Lane ρ) (job : Job) (hl : s.pool.lanes[slot]? = some lane)
      (hw : lane.worker = .holding job) (hopen : s.pool.closed = false) :
      Transition exec s (.work slot) (some (.begun job slot))
        { s with
          shared := (exec.begin slot job.input s.shared).2
          pool := s.pool.setWorker slot (.running job (exec.begin slot job.input s.shared).1) }
  | goOn (slot : Nat) (lane : Lane ρ) (job : Job) (run run' : ρ) (shared : S)
      (hl : s.pool.lanes[slot]? = some lane) (hw : lane.worker = .running job run)
      (hstep : exec.step slot run s.shared = .continues run' shared) :
      Transition exec s (.work slot) none
        { s with shared, pool := s.pool.setWorker slot (.running job run') }
  | return (slot : Nat) (lane : Lane ρ) (job : Job) (run : ρ) (outcome : Outcome Bytes)
      (shared : S) (hl : s.pool.lanes[slot]? = some lane) (hw : lane.worker = .running job run)
      (hstep : exec.step slot run s.shared = .returned outcome shared) :
      Transition exec s (.work slot) (some (.returned job slot outcome))
        { s with shared, pool := s.pool.setWorker slot (.finishing (.begin job outcome)) }
  | die (slot : Nat) (lane : Lane ρ) (job : Job) (run : ρ) (shared : S)
      (hl : s.pool.lanes[slot]? = some lane) (hw : lane.worker = .running job run)
      (hstep : exec.step slot run s.shared = .died shared) :
      Transition exec s (.work slot) (some (.died job slot))
        { s with shared, pool := s.pool.setWorker slot (.died job) }
  | finish (slot : Nat) (lane : Lane ρ) (f : Finish) (f' : Option Finish) (e : Option Event)
      (t : Scheduler ρ S) (hl : s.pool.lanes[slot]? = some lane)
      (hw : lane.worker = .finishing f) (hf : Finishing s slot f f' e t) :
      Transition exec s (.work slot) e
        { t with pool := t.pool.setWorker slot (.afterFinish f') }
  | doubtOpen (slot : Nat) (lane : Lane ρ) (hl : s.pool.lanes[slot]? = some lane)
      (hw : lane.worker = .doubting) (hopen : s.pool.closed = false) :
      Transition exec s (.work slot) none { s with pool := s.pool.setWorker slot .looking }
  | doubtClosed (slot : Nat) (lane : Lane ρ) (hl : s.pool.lanes[slot]? = some lane)
      (hw : lane.worker = .doubting) (hclosed : s.pool.closed = true) :
      Transition exec s (.work slot) none { s with pool := s.pool.setWorker slot .stopping }
  | stop (slot : Nat) (lane : Lane ρ) (hl : s.pool.lanes[slot]? = some lane)
      (hw : lane.worker = .stopping) (line : String) :
      Transition exec s (.work slot) none
        { s with shared := exec.note .debug line s.shared, pool := s.pool.setWorker slot .stopped }
  -- the closing call
  | closeAgain (hsub : s.pool.submission = none) (hclosed : s.pool.closed = true) :
      Transition exec s .close none s
  | close (hsub : s.pool.submission = none) (hopen : s.pool.closed = false) :
      Transition exec s .close none
        { s with pool := { s.pool with closed := true, closing := .joining 0 } }
  | join (next : Nat) (lane : Lane ρ) (hc : s.pool.closing = .joining next)
      (hl : s.pool.lanes[next]? = some lane) (hw : lane.worker.hasEnded = true) (shared : S)
      (hshared : shared = s.shared ∨ ∃ line, shared = exec.note .warn line s.shared) :
      Transition exec s .wind none
        { s with shared, pool := { s.pool with closing := .joining (next + 1) } }
  | joined (next : Nat) (hc : s.pool.closing = .joining next) (hl : s.pool.lanes[next]? = none) :
      Transition exec s .wind none
        { s with pool := { s.pool with closing := .draining 0 none } }
  | drainFinish (slot : Nat) (f : Finish) (f' : Option Finish) (e : Option Event)
      (t : Scheduler ρ S) (hc : s.pool.closing = .draining slot (some f))
      (hf : Finishing s slot f f' e t) :
      Transition exec s .wind e { t with pool := { t.pool with closing := .draining slot f' } }
  | drainFind (slot : Nat) (lane : Lane ρ) (job : Job) (queue : List Job)
      (hc : s.pool.closing = .draining slot none) (hl : s.pool.lanes[slot]? = some lane)
      (hq : lane.queue = job :: queue) :
      Transition exec s .wind none
        { s with pool := { s.pool.modifyLane slot fun l => { l with queue } with
          closing := .draining slot (some (.begin job (.error .closed))) } }
  | drainNext (slot : Nat) (lane : Lane ρ) (hc : s.pool.closing = .draining slot none)
      (hl : s.pool.lanes[slot]? = some lane) (hq : lane.queue = []) :
      Transition exec s .wind none
        { s with pool := { s.pool with closing := .draining (slot + 1) none } }
  | drained (slot : Nat) (hc : s.pool.closing = .draining slot none)
      (hl : s.pool.lanes[slot]? = none) :
      Transition exec s .wind none { s with pool := { s.pool with closing := .finished } }

/-! ### The list is complete -/

variable {exec : Executor ρ S} {s s' : Scheduler ρ S} {e : Option Event}

theorem finishing_finish (s : Scheduler ρ S) (slot : Nat) (f : Finish) :
    Finishing s slot f (s.finish slot f).1 (s.finish slot f).2.2 (s.finish slot f).2.1 := by
  obtain ⟨job, outcome, next⟩ := f
  cases next with
  | count => exact .count job outcome
  | leave => exact .leave job outcome
  | resolve => exact .resolve job outcome
  | wake waker => exact .wake job outcome waker

theorem transition_of_proceed {job : Job} {next : SubmissionStep}
    (hsub : s.pool.submission = some ⟨job, next⟩) (hs : s.proceed job next = (s', e)) :
    Transition exec s .proceed e s' := by
  cases next with
  | entering =>
      cases hc : s.pool.closed with
      | true =>
          simp only [proceed] at hs
          rw [if_pos hc] at hs
          cases hs
          exact .refuse job hsub hc
      | false =>
          simp only [proceed] at hs
          rw [if_neg (by simp [hc])] at hs
          cases hs
          exact .enter job hsub hc
  | glancing =>
      cases hf : s.isFree s.pool.cursor with
      | true =>
          obtain ⟨rfl, rfl⟩ : _ = s' ∧ _ = e := by simpa [proceed, hf, quietly] using hs
          exact .glanceFree job hsub hf
      | false =>
          obtain ⟨rfl, rfl⟩ : _ = s' ∧ _ = e := by simpa [proceed, hf, quietly] using hs
          exact .glanceBusy job hsub hf
  | scanning start offset =>
      by_cases ho : offset < s.pool.size
      · cases hf : s.isFree ((start + offset) % s.pool.size) with
        | true =>
            obtain ⟨rfl, rfl⟩ : _ = s' ∧ _ = e := by simpa [proceed, ho, hf, quietly] using hs
            exact .scanFree job start offset hsub ho hf
        | false =>
            obtain ⟨rfl, rfl⟩ : _ = s' ∧ _ = e := by simpa [proceed, ho, hf, quietly] using hs
            exact .scanBusy job start offset hsub ho hf
      · obtain ⟨rfl, rfl⟩ : _ = s' ∧ _ = e := by simpa [proceed, ho, quietly] using hs
        exact .scanOut job start offset hsub (Nat.le_of_not_lt ho)
  | enlisting => cases hs; exact .enlist job hsub
  | deepening => cases hs; exact .deepen job hsub
  | counting => cases hs; exact .countSubmitted job hsub
  | queueing => cases hs; exact .accept job hsub

theorem transition_of_work {slot : Nat} {lane : Lane ρ} (hl : s.pool.lanes[slot]? = some lane)
    (hs : s.work exec slot lane = some (s', e)) : Transition exec s (.work slot) e s' := by
  unfold work at hs
  cases hw : lane.worker with
  | starting => rw [hw] at hs; cases hs; exact .start slot lane hl hw _
  | looking =>
      cases hq : lane.queue with
      | nil => simp only [hw, hq] at hs; cases hs; exact .miss slot lane hl hw hq
      | cons job queue =>
          simp only [hw, hq] at hs; cases hs; exact .find slot lane job queue hl hw hq
  | holding job =>
      cases hc : s.pool.closed with
      | true => simp only [hw, hc] at hs; cases hs; exact .reject slot lane job hl hw hc
      | false => simp only [hw, hc] at hs; cases hs; exact .begin slot lane job hl hw hc
  | running job run =>
      simp only [hw] at hs
      cases hr : exec.step slot run s.shared with
      | blocked => simp [hr] at hs
      | continues run' shared =>
          simp only [hr] at hs; cases hs; exact .goOn slot lane job run run' shared hl hw hr
      | returned outcome shared =>
          simp only [hr] at hs; cases hs; exact .return slot lane job run outcome shared hl hw hr
      | died shared =>
          simp only [hr] at hs; cases hs; exact .die slot lane job run shared hl hw hr
  | finishing f =>
      simp only [hw] at hs
      have hf := finishing_finish s slot f
      generalize s.finish slot f = r at hs hf
      obtain ⟨_ | f', t, e'⟩ := r
      · cases hs; exact .finish slot lane f none _ t hl hw hf
      · cases hs; exact .finish slot lane f (some f') _ t hl hw hf
  | doubting =>
      cases hc : s.pool.closed with
      | true => simp only [hw, hc] at hs; cases hs; exact .doubtClosed slot lane hl hw hc
      | false => simp only [hw, hc] at hs; cases hs; exact .doubtOpen slot lane hl hw hc
  | stopping => rw [hw] at hs; cases hs; exact .stop slot lane hl hw _
  | stopped => simp [hw] at hs
  | died job => simp [hw] at hs

theorem transition_of_wind (hs : s.wind exec = some (s', e)) : Transition exec s .wind e s' := by
  unfold wind at hs
  cases hc : s.pool.closing with
  | notBegun => simp [hc] at hs
  | finished => simp [hc] at hs
  | joining next =>
      simp only [hc] at hs
      cases hl : s.pool.lanes[next]? with
      | none => simp only [hl] at hs; cases hs; exact .joined next hc hl
      | some lane =>
          simp only [hl] at hs
          cases hw : lane.worker with
          | stopped =>
              simp only [hw] at hs; cases hs
              exact .join next lane hc hl (by simp [hw, Worker.hasEnded]) _ (Or.inl rfl)
          | died job =>
              simp only [hw] at hs; cases hs
              exact .join next lane hc hl (by simp [hw, Worker.hasEnded]) _ (Or.inr ⟨_, rfl⟩)
          | _ => simp [hw] at hs
  | draining slot current =>
      cases current with
      | some f =>
          simp only [hc] at hs
          cases hs
          exact .drainFinish slot f _ _ _ hc (finishing_finish s slot f)
      | none =>
          simp only [hc] at hs
          cases hl : s.pool.lanes[slot]? with
          | none => simp only [hl] at hs; cases hs; exact .drained slot hc hl
          | some lane =>
              simp only [hl] at hs
              cases hq : lane.queue with
              | nil => simp only [hq] at hs; cases hs; exact .drainNext slot lane hc hl hq
              | cons job queue =>
                  simp only [hq] at hs; cases hs
                  exact .drainFind slot lane job queue hc hl hq

/-- **Every step is one of the listed ones.** -/
theorem transition_of_step {move : Move} (hs : s.step exec move = some (s', e)) :
    Transition exec s move e s' := by
  cases move with
  | submit job =>
      cases hsub : s.pool.submission with
      | none => simp only [step, hsub] at hs; cases hs; exact .lock job hsub
      | some _ => simp [step, hsub] at hs
  | proceed =>
      cases hsub : s.pool.submission with
      | none => simp [step, hsub] at hs
      | some submission =>
          simp only [step, hsub, Option.map_some, Option.some.injEq] at hs
          exact transition_of_proceed hsub hs
  | work slot =>
      simp only [step] at hs
      obtain ⟨lane, hl, hs⟩ := Option.bind_eq_some_iff.1 hs
      exact transition_of_work hl hs
  | close =>
      simp only [step] at hs
      split at hs
      · cases hs
      · next hsub =>
          split at hs
          · next hc => cases hs; exact .closeAgain hsub hc
          · next hc => cases hs; exact .close hsub (by simpa using hc)
  | wind => exact transition_of_wind hs

end Scheduler

end Offload.Pool

/-
**The order of a teardown.**

A teardown sets three flags one after another: the dispatcher admits no more jobs, the pool begins
none, and the device is closed.  Between any two of these moments callers, workers and tests go on.
Nothing of the device is closed before every accepted job is resolved; a job that has been begun
comes to the outcome of its own exchange; and one that has not been begun when the pool is closed is
refused without a call.

Main definitions:

* `Station.Rejected` — a job that a closed pool will not begin, and how soon it is resolved.

Main results:

* `Station.RunInv.resolved_of_late` — the device is closed after all jobs are resolved;
* `Station.Run.never_begun` — a job that is not begun when the pool is closed never is;
* `Station.Rejected.resolved_of_turns` — its worker resolves it once it has taken it;
* `Station.Run.teardown_order` — **the order of a teardown**.
-/

import Offload.Proofs.Dispatcher.RoundTrip
import Offload.Proofs.Dispatcher.RunInvariant
import Offload.Proofs.Pool.Tail

set_option autoImplicit false
set_option relaxedAutoImplicit false

namespace Offload.Station

open Native Simulator

variable {compute : UInt32 → Bytes → Bytes} {setup : Setup} {n : Nat} {r r' : Run} {i : Nat}
  {job : Pool.Job} {outcome : Outcome Bytes} {t : Turn} {ts : List Turn}

namespace RunInv

/-! ### Jobs that have been begun -/

/-- **A job that has been begun is resolved with what its exchange has returned**, and this is not
the error of a closed device. -/
theorem returned_of_begun (hs : RunInv compute setup n r)
    (hbegun : Pool.Event.begun job i ∈ r.history)
    (hres : Pool.Event.resolved job i outcome ∈ r.history) :
    Pool.Event.returned job i outcome ∈ r.history ∧ outcome ≠ .error .closed := by
  obtain ⟨lane, -, hc⟩ := hs.sound.custody_of_accepted (hs.sound.accepted_of_mem hbegun rfl)
  rcases hc.resolved_due job outcome hres with hreturned | ⟨-, hnot, -⟩
  · exact ⟨hreturned, hs.ends job i outcome hreturned⟩
  · exact absurd (Pool.mem_begun.2 hbegun) hnot

/-- A job that has not been begun is resolved with the error of a closed pool. -/
theorem closed_of_not_begun (hs : RunInv compute setup n r)
    (hnot : ∀ j, Pool.Event.begun job j ∉ r.history)
    (hres : Pool.Event.resolved job i outcome ∈ r.history) : outcome = .error .closed := by
  obtain ⟨lane, -, hc⟩ := hs.sound.custody_of_accepted (hs.sound.accepted_of_mem hres rfl)
  rcases hc.resolved_due job outcome hres with hreturned | ⟨hclosed, -⟩
  · exact absurd (Pool.mem_begun.1 (hs.sound.mem_begun_of_returned hreturned)) (hnot i)
  · exact hclosed

/-! ### Closing the device -/

/-- **Once the device is being closed every accepted job is resolved.** -/
theorem resolved_of_late (hs : RunInv compute setup n r)
    (hlate : r.station.dispatcher.teardown.isEarly = false)
    (hacc : Pool.Event.accepted job i ∈ r.history) :
    r.station.ledger.isResolved job.ticket = true := by
  have hset := hs.sound.settled_of_finished (hs.deviceInv.late hlate) hacc
  have hres : job ∈ Pool.resolved i r.history :=
    (Pool.mem_settled.1 hset).resolve_right fun hd => hs.alive job i (Pool.mem_died.1 hd)
  exact (hs.sound.isResolved_iff hacc).2 hres

end RunInv

/-! ### Jobs that a closed pool has not begun -/

theorem Run.closed_turn (ht : r.turn compute t = some r') (hclosed : r.pool.closed = true) :
    r'.pool.closed = true ∧
      ∀ job i, Pool.Event.begun job i ∈ r'.history → Pool.Event.begun job i ∈ r.history := by
  rcases Run.turn_cases ht with ⟨l, move, e, s, hstep, rfl⟩ | hstill
  · have hsame (job : Pool.Job) (i : Nat) (h : Pool.Event.begun job i ∈ r.history ++ e.toList)
        (hnot : e ≠ some (.begun job i)) : Pool.Event.begun job i ∈ r.history :=
      (List.mem_append.1 h).resolve_right fun h => hnot (Option.mem_toList.1 h)
    cases hstep with
    | pool _ _ _ _ _ q hd hq =>
        refine ⟨?_, fun job i h => hsame job i h (Pool.not_begun_of_closed hclosed hq job i)⟩
        rcases Pool.closed_of_transition hq with heq | heq
        · exact heq.trans hclosed
        · exact heq
    | turnAway => exact ⟨hclosed, fun job i h => hsame job i h (by simp)⟩
    | _ => exact ⟨hclosed, fun job i h => hsame job i h (by simp)⟩
  · rw [show r'.pool = r.pool from congrArg Dispatcher.pool hstill.dispatcher, hstill.history]
    exact ⟨hclosed, fun _ _ h => h⟩

/-- **A job that has not been begun when the pool is closed never is.** -/
theorem Run.never_begun (hr : Run.turns compute ts r = some r') (hclosed : r.pool.closed = true)
    (hnot : ∀ j, Pool.Event.begun job j ∉ r.history) :
    r'.pool.closed = true ∧ ∀ j, Pool.Event.begun job j ∉ r'.history := by
  refine foldlM_induction
    (motive := fun r => r.pool.closed = true ∧ ∀ j, Pool.Event.begun job j ∉ r.history) hr
    ⟨hclosed, hnot⟩ fun r₁ r₂ t h ht => ?_
  obtain ⟨hclosed₂, hbegun⟩ := closed_turn ht h.1
  exact ⟨hclosed₂, fun j hj => h.2 j (hbegun job j hj)⟩

/-- A job that a closed pool will not begin is resolved, or will be once its worker has made `n`
steps. -/
inductive Rejected (r : Run) (i : Nat) (job : Pool.Job) (n : Nat) : Prop
  | holding (hw : r.pool.worker? i = some (.holding job)) (hclosed : r.pool.closed = true)
      (hle : 4 ≤ n)
  | finishing (f : Pool.Finish) (hw : r.pool.worker? i = some (.finishing f)) (hjob : f.job = job)
      (hhand : f.hand ≠ []) (hle : stepsLeft f.next ≤ n)
  | resolved (outcome : Outcome Bytes) (h : Pool.Event.resolved job i outcome ∈ r.history)

/-- A step of the worker counts, whether or not its slot is held. -/
theorem Rejected.work (hd : Rejected r i job (n + 1))
    (ht : r.turn compute (.move (.work i)) = some r') : Rejected r' i job n := by
  cases hd with
  | holding hw hclosed hle =>
      obtain ⟨e, q, hq, hpool, -, -⟩ := Run.work_cases ht
      have hw' := Pool.rejecting_of_transition hw hclosed hq
      rw [← hpool] at hw'
      have hleft : stepsLeft (Pool.Finish.begin job (.error .closed)).next = 3 := rfl
      exact .finishing _ hw' rfl (by simp) (by omega)
  | finishing f hw hjob hhand hle =>
      rcases Run.finishing_work ht hw hhand with ⟨f', hw', hjob', hhand', hleft⟩ | ⟨outcome, h⟩
      · exact .finishing f' hw' (hjob'.trans hjob) hhand' (by omega)
      · exact .resolved outcome (hjob ▸ h)
  | resolved outcome h => exact .resolved outcome (Run.history_subset_turn ht h)

theorem Rejected.aside (hd : Rejected r i job n) (ht : r.turn compute t = some r')
    (hwork : t.isWork i = false) : Rejected r' i job n := by
  have hworker := Run.worker?_turn ht hwork
  cases hd with
  | holding hw hclosed hle =>
      exact .holding (hworker.trans hw) (Run.closed_turn ht hclosed).1 hle
  | finishing f hw hjob hhand hle => exact .finishing f (hworker.trans hw) hjob hhand hle
  | resolved outcome h => exact .resolved outcome (Run.history_subset_turn ht h)

theorem Rejected.weaken (hd : Rejected r i job 0) : Rejected r i job 1 := by
  cases hd with
  | holding _ _ hle => omega
  | finishing f hw hjob hhand hle => exact .finishing f hw hjob hhand (by omega)
  | resolved outcome h => exact .resolved outcome h

/-- **A job that a closed pool will not begin is resolved in the end.** -/
theorem Rejected.resolved_of_turns (hd : Rejected r i job n)
    (hr : Run.turns compute ts r = some r') (hn : n ≤ ts.countP (Turn.isWork i)) :
    ∃ outcome, Pool.Event.resolved job i outcome ∈ r'.history := by
  have hend : Rejected r' i job 0 :=
    Run.counted_down (P := fun n r => Rejected r i job n) (fun _ h => h.weaken)
      (fun _ _ _ h ht => h.work ht) (fun _ _ _ _ h ht hown _ => h.aside ht hown) hd hr
      (fun _ _ => trivial) hn
  cases hend with
  | holding _ _ hle => omega
  | finishing f _ _ hhand hle => exact absurd (stepsLeft_pos hhand) (by omega)
  | resolved outcome h => exact ⟨outcome, h⟩

/-! ### Calls after the teardown has begun -/

/-- **A job that is asked for after the teardown has begun is refused at once**, without a call. -/
theorem Run.execute_of_tornDown (htorn : r.station.dispatcher.tornDown = true) {input : Bytes}
    (hne : input ≠ [])
    (hfits : Padding.paddedLength input.length ≤ r.station.dispatcher.bufferSize) :
    ∃ r', r.turn compute (.execute input) = some r' ∧
      r'.station.ledger.Holds [] r.station.ledger.issue.1 (.error .closed) ∧
      r'.station.world = r.station.world ∧ r'.station.dispatcher = r.station.dispatcher ∧
      r'.deeds = r.deeds := by
  have hadmission : r.station.dispatcher.admission input = .error .closed := by
    rw [Dispatcher.admission, if_neg hne, if_neg (Nat.not_lt_of_le hfits), if_pos htorn]
  refine ⟨(r.withLedger r.station.ledger.issue.2).after
    ((r.withLedger r.station.ledger.issue.2).station.refuse r.station.ledger.issue.1 .closed)
    (some (.refused ⟨r.station.ledger.issue.1, input⟩)) [], ?_, ?_, rfl, rfl, List.append_nil _⟩
  · have hsame : (r.withLedger r.station.ledger.issue.2).station.dispatcher =
        r.station.dispatcher := rfl
    simp only [Run.turn, Station.step, hsame, hadmission]
    rfl
  · exact Ledger.holds_resolve [] Ledger.isPending_issue_self

/-- **A job that was admitted before, but reaches a closed pool, is refused there**, without a
call. -/
theorem Run.proceed_of_closed (hs : r.IsSound) (hclosed : r.pool.closed = true)
    {submission : Pool.Submission} (hsub : r.pool.submission = some submission) :
    ∃ r', r.turn compute (.move .proceed) = some r' ∧
      r'.station.ledger.Holds [] submission.job.ticket (.error .closed) ∧
      r'.station.world = r.station.world ∧ r'.pool.stats = r.pool.stats ∧ r'.deeds = r.deeds := by
  obtain ⟨job, next⟩ := submission
  obtain rfl : next = .entering := hs.phased.entering hclosed _ hsub
  have hpending := Pool.Sound.pending_of_submission hs hsub
  have hstep : r.station.scheduler.step (executor (driver compute) patience) .proceed =
      some ({ r.station.scheduler with pool := { r.pool with submission := none } },
        some (.refused job)) := Pool.Scheduler.proceed_of_closed hsub hclosed
  have hturn : r.turn compute (.move .proceed) = some (r.after
      ((r.station.withScheduler { r.station.scheduler with
        pool := { r.pool with submission := none } }).refuse job.ticket .closed)
      (some (.refused job)) []) := by
    simp only [Run.turn, Move.isExecution, Station.step, poolStep, hstep]
    rfl
  exact ⟨_, hturn, Ledger.holds_resolve [] hpending, rfl, rfl, List.append_nil _⟩

/-- **Once a teardown has begun, another one does nothing.** -/
theorem Run.tearDown_again (htorn : r.station.dispatcher.tornDown = true) :
    r.turn compute (.move .tearDown) = some r := by
  have hstep : r.station.step (driver compute) patience .tearDown = some (r.station, none) :=
    if_pos htorn
  simp [Run.turn, Move.isExecution, hstep, after, deedsOf]

/-! ### The order of a teardown -/

namespace Run

/-- What holds in every state of every run, and how near running exchanges are to their ends. -/
theorem runInv_and_isPaced {d : Dispatcher} {w : World Simulator}
    (hup : d.ComesUp compute setup w) (hr : turns compute ts (start d w) = some r) :
    RunInv compute setup d.bufferSize r ∧ r.IsPaced := by
  refine foldlM_induction (motive := fun r => RunInv compute setup d.bufferSize r ∧ r.IsPaced) hr
    ⟨RunInv.start hup, isPaced_start hup.isUp.1⟩ fun r₁ r₂ t h ht => ?_
  exact ⟨h.1.turn ht, h.1.slotInv.isPaced_turn h.2 ht⟩

/-- **The order of a teardown**, in every state of every run of a dispatcher on a fresh device.

As long as an accepted job is not resolved the device has not begun to be closed.  A job that was
begun is resolved with what its own exchange has returned, never with the error of a closed device,
and it is resolved once its worker has made a bounded number of steps that nothing but the holding
of its slot can prevent, unless the slot is made busy again.  A job that was not begun when the pool
was closed is never begun, no call is made for it, and it is resolved with the error of a closed
pool; its worker, once it has taken the job, resolves it in four steps.  Once the teardown has begun,
every admissible job is refused at once, without a call, and another teardown does nothing; a job
that was admitted before but reaches a closed pool is refused there. -/
theorem teardown_order {d : Dispatcher} {w : World Simulator}
    (hup : d.ComesUp compute setup w) (hr : turns compute ts (start d w) = some r) :
    (∀ job i, Pool.Event.accepted job i ∈ r.history →
      r.station.ledger.isResolved job.ticket = true ∨
        r.station.dispatcher.teardown.isEarly = true ∧
          r.station.dispatcher.device.session = some ⟨token, d.bufferSize⟩ ∧
          r.device.isOpen = true) ∧
    (∀ job i, Pool.Event.begun job i ∈ r.history →
      (∀ outcome, Pool.Event.resolved job i outcome ∈ r.history →
        Pool.Event.returned job i outcome ∈ r.history ∧ outcome ≠ .error .closed ∧
          r.station.ledger.Holds r.taken job.ticket outcome) ∧
      (r.device.isHeld (UInt32.ofNat i) = false →
        (r.station.ledger.isResolved job.ticket = true ∨
          (r.turn compute (.move (.work i))).isSome = true) ∧
        ∀ ts' r', turns compute ts' r = some r' → (∀ t ∈ ts', t.hinders i = false) →
          Exchange.effort (r.device.busyPolls (UInt32.ofNat i)) ≤ ts'.countP (Turn.isWork i) →
          r'.station.ledger.isResolved job.ticket = true)) ∧
    (r.pool.closed = true → ∀ job i, Pool.Event.accepted job i ∈ r.history →
      (∀ j, Pool.Event.begun job j ∉ r.history) →
      ∀ ts' r', turns compute ts' r = some r' →
        (∀ j, Pool.Event.begun job j ∉ r'.history) ∧ r'.acts job = [] ∧
        (∀ outcome, Pool.Event.resolved job i outcome ∈ r'.history → outcome = .error .closed) ∧
        (r'.station.ledger.isResolved job.ticket = true →
          r'.station.ledger.Holds r'.taken job.ticket (.error .closed)) ∧
        (r.pool.worker? i = some (.holding job) → 4 ≤ ts'.countP (Turn.isWork i) →
          r'.station.ledger.isResolved job.ticket = true)) ∧
    (r.station.dispatcher.tornDown = true → ∀ input, input ≠ [] →
      Padding.paddedLength input.length ≤ r.station.dispatcher.bufferSize →
      ∃ r', r.turn compute (.execute input) = some r' ∧
        r'.station.ledger.Holds [] r.station.ledger.issue.1 (.error .closed) ∧
        r'.station.world = r.station.world ∧ r'.station.dispatcher = r.station.dispatcher ∧
        r'.deeds = r.deeds) ∧
    (r.pool.closed = true → ∀ submission, r.pool.submission = some submission →
      ∃ r', r.turn compute (.move .proceed) = some r' ∧
        r'.station.ledger.Holds [] submission.job.ticket (.error .closed) ∧
        r'.station.world = r.station.world ∧ r'.pool.stats = r.pool.stats ∧ r'.deeds = r.deeds) ∧
    (r.station.dispatcher.tornDown = true → r.turn compute (.move .tearDown) = some r) := by
  obtain ⟨hs, hp⟩ := runInv_and_isPaced hup hr
  refine ⟨?_, ?_, ?_, ?_, ?_, tearDown_again⟩
  · intro job i hacc
    cases hearly : r.station.dispatcher.teardown.isEarly with
    | true => exact Or.inr ⟨rfl, hs.deviceInv.session hearly, hs.deviceInv.isOpen hearly⟩
    | false => exact Or.inl (hs.resolved_of_late hearly hacc)
  · intro job i hbegun
    have hacc := hs.sound.accepted_of_mem hbegun rfl
    constructor
    · intro outcome hres
      obtain ⟨hreturned, hopen⟩ := hs.returned_of_begun hbegun hres
      exact ⟨hreturned, hopen, hs.sound.ticketed.holds job i outcome hres⟩
    · intro hheld
      have hdue := hs.slotInv.due hs.alive hp hbegun
      constructor
      · rcases hdue.isSome_turn_work hs.slotInv hheld with ⟨outcome, hres⟩ | hturn
        · exact Or.inl (hs.sound.ticketed.holds job i outcome hres).isResolved
        · exact Or.inr hturn
      · intro ts' r' hr' hh hn
        obtain ⟨outcome, hres⟩ := hdue.resolved_of_turns (fun _ hs => hs.slotInv)
          (fun _ _ _ hs ht => RunInv.turn hs ht) hs hheld hr' hh hn
        exact ((hs.turns hr').sound.ticketed.holds job i outcome hres).isResolved
  · intro hclosed job i hacc hnot ts' r' hr'
    have hs' := hs.turns hr'
    obtain ⟨-, hnot'⟩ := never_begun hr' hclosed hnot
    have hacc' := history_subset hr' hacc
    refine ⟨hnot', acts_eq_nil hs'.deeds hnot', fun outcome => hs'.closed_of_not_begun hnot', ?_, ?_⟩
    · intro hres
      obtain ⟨outcome, hres⟩ := Pool.mem_resolved.1 ((hs'.sound.isResolved_iff hacc').1 hres)
      obtain rfl := hs'.closed_of_not_begun hnot' hres
      exact hs'.sound.ticketed.holds job i _ hres
    · intro hw hn
      obtain ⟨outcome, hres⟩ :=
        (Rejected.holding hw hclosed (Nat.le_refl 4)).resolved_of_turns hr' hn
      exact (hs'.sound.ticketed.holds job i outcome hres).isResolved
  · intro htorn input hne hfits
    exact execute_of_tornDown htorn hne hfits
  · intro hclosed submission hsub
    exact proceed_of_closed hs.sound hclosed hsub

/-! ### A teardown between two jobs -/

/-- Two jobs on one slot: the first one is waiting for its output when the pool is closed. -/
def closedMeanwhile : List Turn :=
  .execute [1] :: .move (.enter 0) :: often 6 .proceed ++
    .execute [2, 3] :: .move (.enter 1) :: often 8 .proceed ++
    .hook (.hold 0) :: often 10 (.work 0) ++ .move .tearDown :: often 2 .wind

/-- The run. -/
def afterClosedMeanwhile : Option Run :=
  broughtUp.1.toOption.bind fun d => turns backwards closedMeanwhile (start d broughtUp.2)

theorem history_closedMeanwhile :
    afterClosedMeanwhile.map (fun r => (r.history, r.pool.closed,
      r.station.dispatcher.tornDown, r.station.ledger.isResolved 0, r.station.ledger.issue.1,
      r.station.dispatcher.bufferSize)) = some
      ([.accepted ⟨0, [1]⟩ 0, .accepted ⟨1, [2, 3]⟩ 0, .begun ⟨0, [1]⟩ 0], true, true, false, 2,
        64) := by
  decide +kernel

/-- The device stays open for the first job, no call is ever made for the second one, and a third
one is refused. -/
theorem teardown_order_closedMeanwhile :
    ∃ d w r, d.ComesUp backwards oneSlot w ∧ turns backwards closedMeanwhile (start d w) = some r ∧
      r.device.isOpen = true ∧
      (∀ ts' r', turns backwards ts' r = some r' → r'.acts ⟨1, [2, 3]⟩ = []) ∧
      (∃ r', r.turn backwards (.execute [5]) = some r' ∧
        r'.station.ledger.Holds [] 2 (.error .closed)) ∧
      r.turn backwards (.move .tearDown) = some r := by
  obtain ⟨r, hr, hstate⟩ := Option.map_eq_some_iff.1 history_closedMeanwhile
  simp only [Prod.mk.injEq] at hstate
  obtain ⟨hhistory, hclosed, htorn, hpending, hticket, hsize⟩ := hstate
  obtain ⟨d, hd, hr⟩ := Option.bind_eq_some_iff.1 hr
  have hup := comesUp_of_broughtUp hd
  obtain ⟨hopen, -, hnever, hrefused, -, hagain⟩ := teardown_order hup hr
  have hacc₀ : Pool.Event.accepted ⟨0, [1]⟩ 0 ∈ r.history := by simp [hhistory]
  have hacc₁ : Pool.Event.accepted ⟨1, [2, 3]⟩ 0 ∈ r.history := by simp [hhistory]
  refine ⟨d, broughtUp.2, r, hup, hr, ?_, ?_, ?_, hagain htorn⟩
  · rcases hopen _ 0 hacc₀ with hres | ⟨-, -, hopen⟩
    · exact absurd (hpending.symm.trans hres) Bool.false_ne_true
    · exact hopen
  · intro ts' r' hr'
    have hnot : ∀ j, Pool.Event.begun ⟨1, [2, 3]⟩ j ∉ r.history := by simp [hhistory]
    exact (hnever hclosed _ 0 hacc₁ hnot ts' r' hr').2.1
  · have hfits : Padding.paddedLength [5].length ≤ r.station.dispatcher.bufferSize := by
      rw [hsize]
      decide
    obtain ⟨r', hturn, hholds, -⟩ := hrefused htorn [5] (by simp) hfits
    rw [hticket] at hholds
    exact ⟨r', hturn, hholds⟩

end Run

end Offload.Station

/-
**How many steps a pool still has to make.**

What is left to do in a pool can be counted: every step of a submission, of a worker and of the
closing call takes something away, except for those of a worker that finds its queue empty and the
pool open.  A job that joins a queue brings in what its worker will need for it.  How long the run
of a job takes is not known here; it comes out of a budget of its slot.

Main definitions:

* `Pool.isIdle` — the worker of a slot has nothing to do;
* `Pool.left` — **the number of steps that are left**, given the budgets of the slots;
* `Pool.Spends` — what a step of a worker may do to the budgets.

Main results:

* `Pool.lanesLeft_of_modify` — a change of one slot;
* `Pool.left_of_work`, `Pool.left_of_proceed`, `Pool.left_of_wind` — **every step that is not idle
  counts**;
* `Pool.left_of_submit`, `Pool.left_of_close` — what a call brings in.
-/

import Mathlib.Algebra.Order.BigOperators.Group.Finset
import Offload.Proofs.Pool.Lane
import Offload.Proofs.Pool.Running

set_option autoImplicit false
set_option relaxedAutoImplicit false

namespace Offload.Pool

variable {ρ S : Type}

/-! ### What is left to do -/

/-- The worker of a slot has nothing to do: its queue is empty, and the pool is open. -/
def isIdle (p : Pool ρ) (slot : Nat) : Bool :=
  match p.lanes[slot]? with
  | none => false
  | some lane =>
      match lane.worker, lane.queue with
      | .looking, [] | .doubting, [] => !p.closed
      | _, _ => false

/-- The steps that finishing a job still takes. -/
def Finish.left (f : Finish) : Nat :=
  match f.next with
  | .count => 4
  | .leave => 3
  | .resolve => 2
  | .wake _ => 1

/-- The steps that a worker still makes, without those of the run of its job and without its queue;
`fee` is what beginning a job may cost. -/
def Worker.left (fee : Nat) (closed empty : Bool) : Worker ρ → Nat
  | .starting => 4
  | .looking => 3
  | .holding _ => fee + 9
  | .running _ _ => 8
  | .finishing f => f.left + 3
  | .doubting => if closed then 2 else if empty then 3 else 4
  | .stopping => 1
  | .stopped | .died _ => 0

/-- The steps that are left on a slot, without those of the run of its job. -/
def Lane.left (fee : Nat) (closed : Bool) (lane : Lane ρ) : Nat :=
  lane.worker.left fee closed lane.queue.isEmpty + lane.queue.length * (fee + 7)

/-- The steps that are left on all slots; `budget` is what is left of the runs of their jobs. -/
def lanesLeft (fee : Nat) (budget : Nat → Nat) (p : Pool ρ) : Nat :=
  ∑ i ∈ Finset.range p.size, (((p.lanes[i]?).map (Lane.left fee p.closed)).getD 0 + budget i)

/-- The steps that are left to a submission, with what its job brings in. -/
def SubmissionStep.left (fee size : Nat) : SubmissionStep → Nat
  | .entering => size + fee + 15
  | .glancing => size + fee + 14
  | .scanning _ offset => size - offset + fee + 13
  | .enlisting => fee + 12
  | .deepening => fee + 11
  | .counting => fee + 10
  | .queueing => fee + 9

/-- The steps that are left to the closing call, without the jobs that it will find in queues. -/
def Closing.left (size : Nat) : Closing → Nat
  | .notBegun | .finished => 0
  | .joining next => size - next + size + 3
  | .draining slot current => size - slot + 1 + (current.map Finish.left).getD 0

/-- The steps that are left to the submission that holds the lock. -/
def submissionLeft (fee : Nat) (p : Pool ρ) : Nat :=
  (p.submission.map fun submission => submission.next.left fee p.size).getD 0

/-- **The steps that are left in a pool.** -/
def left (fee : Nat) (budget : Nat → Nat) (p : Pool ρ) : Nat :=
  p.lanesLeft fee budget + p.submissionLeft fee + p.closing.left p.size

/-- What a step of the worker of a slot may do to the budgets: a job that is begun may cost the fee,
and one that goes on has to use its budget up. -/
structure Spends (exec : Executor ρ S) (s : Scheduler ρ S) (slot fee : Nat)
    (budget budget' : Nat → Nat) : Prop where
  others : ∀ i ≠ slot, budget' i ≤ budget i
  begun : budget' slot ≤ budget slot ∨
    (∃ job, s.pool.worker? slot = some (.holding job)) ∧ budget' slot ≤ budget slot + fee
  goOn : ∀ job run run' shared, s.pool.worker? slot = some (.running job run) →
    exec.step slot run s.shared = .continues run' shared → budget' slot < budget slot

/-! ### The slots -/

section

variable {p p' : Pool ρ} {fee slot : Nat} {budget budget' : Nat → Nat}

theorem lanesLeft_mono (hsize : p'.size = p.size)
    (hlanes : ∀ (i : Nat) (lane' : Lane ρ), p'.lanes[i]? = some lane' →
      ∃ lane, p.lanes[i]? = some lane ∧ lane'.left fee p'.closed ≤ lane.left fee p.closed)
    (hbudget : ∀ i, budget' i ≤ budget i) :
    p'.lanesLeft fee budget' ≤ p.lanesLeft fee budget := by
  rw [lanesLeft, lanesLeft, hsize]
  refine Finset.sum_le_sum fun i hi => Nat.add_le_add ?_ (hbudget i)
  obtain ⟨lane', hl'⟩ := exists_lane (p := p') (hsize ▸ Finset.mem_range.1 hi)
  obtain ⟨lane, hl, hle⟩ := hlanes i lane' hl'
  simpa [hl, hl'] using hle

theorem lanesLeft_of_kept (hlanes : p'.lanes = p.lanes) (hclosed : p'.closed = p.closed)
    (hbudget : ∀ i, budget' i ≤ budget i) :
    p'.lanesLeft fee budget' ≤ p.lanesLeft fee budget := by
  have hsize : p'.size = p.size := congrArg List.length hlanes
  refine lanesLeft_mono hsize (fun i lane' hl' => ⟨lane', hlanes ▸ hl', ?_⟩) hbudget
  rw [hclosed]

/-- **A change of one slot.** -/
theorem lanesLeft_of_modify {lane : Lane ρ} {change : Lane ρ → Lane ρ} {x y : Nat}
    (hl : p.lanes[slot]? = some lane) (hlanes : p'.lanes = p.lanes.modify slot change)
    (hclosed : p'.closed = p.closed) (hothers : ∀ i ≠ slot, budget' i ≤ budget i)
    (hslot : (change lane).left fee p.closed + budget' slot + x ≤
      lane.left fee p.closed + budget slot + y) :
    p'.lanesLeft fee budget' + x ≤ p.lanesLeft fee budget + y := by
  have hsize : p'.size = p.size := by simp [size, hlanes]
  have hmem : slot ∈ Finset.range p.size := Finset.mem_range.2 (lt_size_of_lane hl)
  have hself : p'.lanes[slot]? = some (change lane) := by simp [hlanes, hl]
  have hrest : ∑ i ∈ (Finset.range p.size).erase slot,
        (((p'.lanes[i]?).map (Lane.left fee p.closed)).getD 0 + budget' i) ≤
      ∑ i ∈ (Finset.range p.size).erase slot,
        (((p.lanes[i]?).map (Lane.left fee p.closed)).getD 0 + budget i) := by
    refine Finset.sum_le_sum fun i hi => ?_
    have hne := Finset.ne_of_mem_erase hi
    rw [hlanes, List.getElem?_modify_ne _ _ (Ne.symm hne)]
    exact Nat.add_le_add_left (hothers i hne) _
  rw [lanesLeft, lanesLeft, hsize, hclosed, ← Finset.add_sum_erase _ _ hmem,
    ← Finset.add_sum_erase _ _ hmem, hself, hl]
  simp only [Option.map_some, Option.getD_some]
  omega

theorem lanesLeft_setWorker {lane : Lane ρ} {worker : Worker ρ} {x : Nat}
    (hl : p.lanes[slot]? = some lane) (hothers : ∀ i ≠ slot, budget' i ≤ budget i)
    (hslot : worker.left fee p.closed lane.queue.isEmpty + budget' slot + x ≤
      lane.worker.left fee p.closed lane.queue.isEmpty + budget slot) :
    (p.setWorker slot worker).lanesLeft fee budget' + x ≤ p.lanesLeft fee budget := by
  have hlanes : (p.setWorker slot worker).lanes = p.lanes.modify slot ({ · with worker }) := rfl
  refine lanesLeft_of_modify (y := 0) hl hlanes rfl hothers ?_
  simp only [Lane.left]
  omega

end

/-! ### Every step -/

section

variable {exec : Executor ρ S} {s s' : Scheduler ρ S} {move : Move} {e : Option Event} {fee : Nat}
  {budget budget' : Nat → Nat}

theorem LaneFinish.left_lt {slot : Nat} {f : Finish} {f' : Option Finish} {change : Nat → Nat}
    (hf : LaneFinish slot f f' e change) : (f'.map Finish.left).getD 0 + 1 = f.left := by
  cases hf <;> rfl

theorem Worker.left_afterFinish (f' : Option Finish) (closed empty : Bool) :
    (Worker.afterFinish f' : Worker ρ).left fee closed empty =
      (f'.map Finish.left).getD 0 + 3 := by
  cases f' <;> rfl

/-- A worker whose queue is filled may have to look once more. -/
theorem Worker.left_of_filled (fee : Nat) (closed empty : Bool) (w : Worker ρ) :
    w.left fee closed false ≤ w.left fee closed empty + 1 := by
  cases w with
  | doubting => cases closed <;> cases empty <;> simp [Worker.left]
  | _ => exact Nat.le_succ _

/-- Closing the pool leaves a worker no more to do. -/
theorem Worker.left_of_closed (fee : Nat) (closed empty : Bool) (w : Worker ρ) :
    w.left fee true empty ≤ w.left fee closed empty := by
  cases w with
  | doubting => cases closed <;> cases empty <;> simp [Worker.left]
  | _ => exact Nat.le_refl _

theorem isIdle_iff {p : Pool ρ} {slot : Nat} {lane : Lane ρ} (hl : p.lanes[slot]? = some lane) :
    p.isIdle slot = true ↔
      lane.queue = [] ∧ (lane.worker = .looking ∨ lane.worker = .doubting) ∧ p.closed = false := by
  cases hw : lane.worker with
  | looking | doubting => cases hq : lane.queue <;> simp [isIdle, hl, hw, hq]
  | _ => simp [isIdle, hl, hw]

namespace Spends

variable {slot : Nat}

/-- Only a worker that holds a job may pay the fee. -/
theorem of_not_holding (hb : Spends exec s slot fee budget budget') {lane : Lane ρ}
    (hl : s.pool.lanes[slot]? = some lane) (hw : ∀ job, lane.worker ≠ .holding job) :
    budget' slot ≤ budget slot := by
  rcases hb.begun with h | ⟨⟨job, hjob⟩, -⟩
  · exact h
  · exact absurd (Option.some_inj.1 ((worker?_of_lane hl).symm.trans hjob)) (hw job)

theorem le_add_fee (hb : Spends exec s slot fee budget budget') :
    budget' slot ≤ budget slot + fee := by
  rcases hb.begun with h | ⟨-, h⟩ <;> omega

theorem lanesLeft_of_less (hb : Spends exec s slot fee budget budget') {lane : Lane ρ}
    {worker : Worker ρ} (hl : s.pool.lanes[slot]? = some lane)
    (hw : ∀ job, lane.worker ≠ .holding job)
    (hless : worker.left fee s.pool.closed lane.queue.isEmpty <
      lane.worker.left fee s.pool.closed lane.queue.isEmpty) :
    (s.pool.setWorker slot worker).lanesLeft fee budget' +
        (if s.pool.isIdle slot then 0 else 1) ≤ s.pool.lanesLeft fee budget := by
  have hbudget := hb.of_not_holding hl hw
  have hcount : (if s.pool.isIdle slot then 0 else 1) ≤ 1 := by split <;> simp
  refine lanesLeft_setWorker hl hb.others ?_
  omega

end Spends

/-- **Every step of a worker that is not idle counts.** -/
theorem lanesLeft_of_work {slot : Nat} (ht : Scheduler.Transition exec s (.work slot) e s')
    (hb : Spends exec s slot fee budget budget') :
    s'.pool.lanesLeft fee budget' + (if s.pool.isIdle slot then 0 else 1) ≤
      s.pool.lanesLeft fee budget := by
  have hothers := hb.others
  have hmost := hb.le_add_fee
  have hcount : (if s.pool.isIdle slot then 0 else 1) ≤ 1 := by split <;> simp
  cases ht with
  | start _ lane hl hw line =>
      exact hb.lanesLeft_of_less hl (by simp [hw]) (by simp [hw, Worker.left])
  | miss _ lane hl hw hq =>
      have hbudget := hb.of_not_holding hl (by simp [hw])
      refine lanesLeft_setWorker hl hothers ?_
      cases hclosed : s.pool.closed with
      | false =>
          rw [(isIdle_iff hl).2 ⟨hq, Or.inl hw, hclosed⟩]
          simpa [hw, hq, Worker.left] using hbudget
      | true =>
          simp only [hw, Worker.left, if_true]
          omega
  | find _ lane job queue hl hw hq =>
      have hbudget := hb.of_not_holding hl (by simp [hw])
      -- the place in the queue and the look together pay for the job in hand
      refine lanesLeft_of_modify (y := 0) hl rfl rfl hothers ?_
      simp only [Lane.left, hw, hq, Worker.left, List.length_cons, Nat.succ_mul]
      omega
  | reject _ lane job hl hw =>
      refine lanesLeft_setWorker hl hothers ?_
      simp only [hw, Worker.left, Finish.left, Finish.begin]
      omega
  | begin _ lane job hl hw =>
      -- the fee that the job in hand counted goes over to the budget of its run
      refine lanesLeft_setWorker hl hothers ?_
      simp only [hw, Worker.left]
      omega
  | goOn _ lane job run run' shared hl hw hstep =>
      have hlt := hb.goOn job run run' shared ((worker?_of_lane hl).trans (by rw [hw])) hstep
      refine lanesLeft_setWorker hl hothers ?_
      simp only [hw, Worker.left]
      omega
  | «return» _ lane job run outcome shared hl hw =>
      exact hb.lanesLeft_of_less hl (by simp [hw])
        (by simp [hw, Worker.left, Finish.left, Finish.begin])
  | die _ lane job run shared hl hw =>
      exact hb.lanesLeft_of_less hl (by simp [hw]) (by simp [hw, Worker.left])
  | finish _ lane f f' e t hl hw hf =>
      have hbudget := hb.of_not_holding hl (by simp [hw])
      obtain ⟨change, hlf, hfin⟩ := Scheduler.laneFinish_of_finishing hf
      have hleft := hlf.left_lt
      refine lanesLeft_of_modify (y := 0) hl (hfin.lanes_setWorker (.afterFinish f')) hfin.closed
        hothers ?_
      simp only [Lane.left, Worker.left_afterFinish, hw]
      simp only [Worker.left]
      omega
  | doubtOpen _ lane hl hw hopen =>
      cases hq : lane.queue with
      | nil =>
          have hbudget := hb.of_not_holding hl (by simp [hw])
          refine lanesLeft_setWorker hl hothers ?_
          rw [(isIdle_iff hl).2 ⟨hq, Or.inr hw, hopen⟩]
          simpa [hw, hq, hopen, Worker.left] using hbudget
      | cons =>
          exact hb.lanesLeft_of_less hl (by simp [hw]) (by simp [hw, hq, hopen, Worker.left])
  | doubtClosed _ lane hl hw hclosed =>
      exact hb.lanesLeft_of_less hl (by simp [hw]) (by simp [hw, hclosed, Worker.left])
  | stop _ lane hl hw line =>
      exact hb.lanesLeft_of_less hl (by simp [hw]) (by simp [hw, Worker.left])

theorem left_of_kept {p p' : Pool ρ} (hlanes : p'.lanes = p.lanes) (hclosed : p'.closed = p.closed)
    (hclosing : p'.closing = p.closing) (hbudget : ∀ i, budget' i ≤ budget i)
    (hsub : p'.submissionLeft fee + 1 ≤ p.submissionLeft fee) :
    p'.left fee budget' + 1 ≤ p.left fee budget := by
  have hsize : p'.size = p.size := congrArg List.length hlanes
  have hkeep : p'.lanesLeft fee budget' ≤ p.lanesLeft fee budget :=
    lanesLeft_of_kept hlanes hclosed hbudget
  rw [left, left, hclosing, hsize]
  omega

/-- The submission makes a step and may give something of what is left to it to one slot. -/
theorem left_of_touched {p p' : Pool ρ} {slot : Nat} {lane : Lane ρ} {change : Lane ρ → Lane ρ}
    {y : Nat} (hl : p.lanes[slot]? = some lane) (hlanes : p'.lanes = p.lanes.modify slot change)
    (hclosed : p'.closed = p.closed) (hclosing : p'.closing = p.closing)
    (hbudget : ∀ i, budget' i ≤ budget i)
    (hslot : (change lane).left fee p.closed ≤ lane.left fee p.closed + y)
    (hsub : p'.submissionLeft fee + y + 1 ≤ p.submissionLeft fee) :
    p'.left fee budget' + 1 ≤ p.left fee budget := by
  have hsize : p'.size = p.size := by simp [size, hlanes]
  have hbudget' := hbudget slot
  have htouch : p'.lanesLeft fee budget' + 0 ≤ p.lanesLeft fee budget + y :=
    lanesLeft_of_modify hl hlanes hclosed (fun i _ => hbudget i) (by omega)
  rw [left, left, hclosing, hsize]
  omega

/-- **Every step of a submission counts.** -/
theorem left_of_proceed (fee : Nat) (hp : Phased s.pool)
    (ht : Scheduler.Transition exec s .proceed e s') (hbudget : ∀ i, budget' i ≤ budget i) :
    s'.pool.left fee budget' + 1 ≤ s.pool.left fee budget := by
  obtain ⟨lane, hl⟩ := exists_lane hp.cursor_lt
  cases ht with
  | refuse job hsub | countSubmitted job hsub | glanceFree job hsub | glanceBusy job hsub
  | scanOut job _ _ hsub | enter job hsub =>
      refine left_of_kept rfl rfl rfl hbudget ?_
      simp only [submissionLeft, hsub, Option.map_some, Option.map_none, Option.getD_some,
        Option.getD_none, SubmissionStep.left, size]
      omega
  | scanFree job start offset hsub hoffset | scanBusy job start offset hsub hoffset =>
      refine left_of_kept rfl rfl rfl hbudget ?_
      simp only [submissionLeft, hsub, Option.map_some, Option.getD_some, SubmissionStep.left, size]
        at hoffset ⊢
      omega
  | enlist job hsub | deepen job hsub =>
      refine left_of_touched (y := 0) hl rfl rfl rfl hbudget (Nat.le_refl _) ?_
      simp [submissionLeft, hsub, SubmissionStep.left]
  | accept job hsub =>
      -- the job joins the queue, and a worker that was idle looks once more
      refine left_of_touched (y := fee + 8) hl rfl rfl rfl hbudget ?_ ?_
      · have hempty : (lane.queue ++ [job]).isEmpty = false := by simp
        have hstand := lane.worker.left_of_filled fee s.pool.closed lane.queue.isEmpty
        simp only [Lane.left, hempty, List.length_append, List.length_singleton, Nat.add_mul]
        omega
      · simp [submissionLeft, hsub, SubmissionStep.left]

/-- The closing call makes a step and may take something away from the slots. -/
theorem left_of_closing {p p' : Pool ρ} {x : Nat} (hsize : p'.size = p.size)
    (hsub : p'.submission = p.submission)
    (hlanes : p'.lanesLeft fee budget' + x ≤ p.lanesLeft fee budget)
    (hclosing : p'.closing.left p.size + 1 ≤ p.closing.left p.size + x) :
    p'.left fee budget' + 1 ≤ p.left fee budget := by
  rw [left, left, submissionLeft, submissionLeft, hsub, hsize]
  omega

/-- **Every step of the closing call counts.** -/
theorem left_of_wind (fee : Nat) (hp : Phased s.pool) (ht : Scheduler.Transition exec s .wind e s')
    (hbudget : ∀ i, budget' i ≤ budget i) :
    s'.pool.left fee budget' + 1 ≤ s.pool.left fee budget := by
  have hsize := size_of_transition ht
  cases ht with
  | join next lane hc hl =>
      have hlt := lt_size_of_lane hl
      refine left_of_closing (x := 0) hsize rfl (lanesLeft_of_kept rfl rfl hbudget) ?_
      simp only [hc, Closing.left]
      omega
  | joined next hc | drained slot hc =>
      refine left_of_closing (x := 0) hsize rfl (lanesLeft_of_kept rfl rfl hbudget) ?_
      simp only [hc, Closing.left, Option.map_none, Option.getD_none]
      omega
  | drainFinish slot f f' e t hc hf =>
      obtain ⟨change, hlf, hfin⟩ := Scheduler.laneFinish_of_finishing hf
      obtain ⟨lane, hl⟩ := exists_lane (hp.drain_lt slot f hc)
      have hleft := hlf.left_lt
      refine left_of_closing (x := 0) hsize hfin.submission
        (lanesLeft_of_modify (y := 0) hl hfin.lanes hfin.closed (fun i _ => hbudget i)
          (Nat.add_le_add_left (hbudget slot) _)) ?_
      simp only [hc, Closing.left, Option.map_some, Option.getD_some]
      omega
  | drainFind slot lane job queue hc hl hq =>
      have hslot := hbudget slot
      -- the worker has ended, so that only the length of its queue counts
      have hended := hp.joined slot lane hl (by simp [hc, Closing.hasJoined])
      have hstand (empty : Bool) : lane.worker.left fee s.pool.closed empty = 0 := by
        cases hw : lane.worker <;> simp_all [Worker.hasEnded, Worker.left]
      refine left_of_closing (x := fee + 7) hsize rfl
        (lanesLeft_of_modify (y := 0) hl rfl rfl (fun i _ => hbudget i) ?_) ?_
      · simp only [Lane.left, hstand, hq, List.length_cons, Nat.succ_mul]
        omega
      · simp only [hc, Closing.left, Option.map_some, Option.map_none, Option.getD_some,
          Option.getD_none, Finish.left, Finish.begin]
        omega
  | drainNext slot lane hc hl =>
      have hlt := lt_size_of_lane hl
      refine left_of_closing (x := 0) hsize rfl (lanesLeft_of_kept rfl rfl hbudget) ?_
      simp only [hc, Closing.left, Option.map_none, Option.getD_none]
      omega

/-- A call to submit a job brings in what the submission takes. -/
theorem left_of_submit (fee : Nat) {job : Job} (ht : Scheduler.Transition exec s (.submit job) e s')
    (hbudget : ∀ i, budget' i ≤ budget i) :
    s'.pool.left fee budget' ≤ s.pool.left fee budget + (s.pool.size + fee + 15) := by
  cases ht with
  | lock _ hsub =>
      have hlanes : ({ s.pool with submission := some ⟨job, .entering⟩ } : Pool ρ).lanesLeft fee
          budget' ≤ s.pool.lanesLeft fee budget := lanesLeft_of_kept rfl rfl hbudget
      simp only [left, submissionLeft, hsub, Option.map_some, Option.map_none, Option.getD_some,
        Option.getD_none, SubmissionStep.left, size] at hlanes ⊢
      omega

/-- A call to close the pool brings in the rounds of the closing call. -/
theorem left_of_close (fee : Nat) (ht : Scheduler.Transition exec s .close e s')
    (hbudget : ∀ i, budget' i ≤ budget i) :
    s'.pool.left fee budget' ≤ s.pool.left fee budget + (2 * s.pool.size + 3) := by
  cases ht with
  | closeAgain =>
      have hlanes : s.pool.lanesLeft fee budget' ≤ s.pool.lanesLeft fee budget :=
        lanesLeft_of_kept rfl rfl hbudget
      rw [left, left]
      omega
  | close hsub hopen =>
      have hlanes : ({ s.pool with closed := true, closing := .joining 0 } : Pool ρ).lanesLeft fee
          budget' ≤ s.pool.lanesLeft fee budget := by
        refine lanesLeft_mono rfl (fun i lane hl => ⟨lane, hl, ?_⟩) hbudget
        exact Nat.add_le_add_right (Worker.left_of_closed _ _ _ _) _
      simp only [left, submissionLeft, hsub, Option.map_none, Option.getD_none, Closing.left, size]
        at hlanes ⊢
      omega

/-- **Every step of a worker that is not idle counts.** -/
theorem left_of_work {slot : Nat} (ht : Scheduler.Transition exec s (.work slot) e s')
    (hb : Spends exec s slot fee budget budget') :
    s'.pool.left fee budget' + (if s.pool.isIdle slot then 0 else 1) ≤ s.pool.left fee budget := by
  have hsize := size_of_transition ht
  have hlanes := lanesLeft_of_work ht hb
  have hstill : s'.pool.submission = s.pool.submission ∧ s'.pool.closing = s.pool.closing := by
    cases ht with
    | finish _ _ _ _ _ _ _ _ hf =>
        obtain ⟨change, -, hfin⟩ := Scheduler.laneFinish_of_finishing hf
        exact ⟨hfin.submission, hfin.closing⟩
    | _ => exact ⟨rfl, rfl⟩
  rw [left, left, submissionLeft, submissionLeft, hstill.1, hstill.2, hsize]
  omega

end

end Offload.Pool

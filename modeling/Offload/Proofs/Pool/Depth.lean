/-
**The depths of a pool.**

A submission raises the depth of its slot and then counts its job; a job that has an outcome is
counted as completed or failed, then leaves the depth of its slot, and then is resolved.  None of
this happens under a common lock, so the counters are compared with the jobs themselves after every
step: the depth of a slot is the number of jobs that have a place in it, and the two sides of the
books differ by exactly the submissions and the finished jobs that are midway.

Main definitions:

* `Pool.inDepth` — the jobs that are counted in the depth of a slot;
* `Pool.midway` — how many submissions and finished jobs are counted on one side only;
* `Pool.DepthFits`, `Pool.SumFits` — **the invariants**.

Main results:

* `Pool.DepthFits.step`, `Pool.SumFits.step` — every step of a pool keeps them;
* `Pool.DepthFits.depth_pos` — nobody takes a job out of a depth of zero.
-/

import Mathlib.Algebra.Ring.Nat
import Mathlib.Data.List.Perm.Subperm
import Offload.Proofs.Pool.Lane

set_option autoImplicit false
set_option relaxedAutoImplicit false

namespace Offload.Pool

variable {ρ S : Type}

/-! ### The jobs of a depth -/

/-- A job has a place in the depth of its slot until it has left it. -/
def Finish.inDepth (f : Finish) : List Job :=
  match f.next with
  | .count | .leave => [f.job]
  | .resolve | .wake _ => []

/-- The job of a worker that has a place in the depth of the slot; the one that has taken the worker
with it keeps its place. -/
def Worker.inDepth : Worker ρ → List Job
  | holding job | running job _ | died job => [job]
  | finishing f => f.inDepth
  | starting | looking | doubting | stopping | stopped => []

/-- The job of the closing call that has a place in the depth of the slot. -/
def drainDepth : Option Finish → List Job
  | some f => f.inDepth
  | none => []

/-- The job that has a place in the depth of the slot at the cursor, and is not queued yet. -/
def Submission.inDepth (submission : Submission) : List Job :=
  match submission.next with
  | .counting | .queueing => [submission.job]
  | _ => []

/-- The job of the submission that has a place in the depth of a slot. -/
def entrant (p : Pool ρ) (slot : Nat) : List Job :=
  if p.cursor = slot then p.submission.toList.flatMap Submission.inDepth else []

/-- The jobs that are counted in the depth of a slot. -/
def inDepth (p : Pool ρ) (slot : Nat) (lane : Lane ρ) : List Job :=
  lane.worker.inDepth ++ drainDepth (p.closing.current slot) ++ lane.queue ++ p.entrant slot

/-- The jobs that a worker has taken out of the queue and not finished running. -/
def Worker.executing : Worker ρ → List Job
  | holding job | running job _ => [job]
  | _ => []

/-! ### Midway -/

/-- The job is counted as submitted next, and has a place in a depth. -/
def Submission.midway (submission : Submission) : Nat :=
  if submission.next = .counting then 1 else 0

/-- The job is counted as completed or failed, and still has a place in a depth. -/
def Finish.midway (f : Finish) : Nat := if f.next = .leave then 1 else 0

def Worker.midway : Worker ρ → Nat
  | finishing f => f.midway
  | _ => 0

def Closing.midway : Closing → Nat
  | draining _ (some f) => f.midway
  | _ => 0

/-- The sum of a number over all slots. -/
def total (p : Pool ρ) (number : Lane ρ → Nat) : Nat := (p.lanes.map number).sum

/-- A job of a slot is being finished, by its worker or by the closing call. -/
inductive IsFinishing (p : Pool ρ) (slot : Nat) (f : Finish) : Prop
  | worker (lane : Lane ρ) (hl : p.lanes[slot]? = some lane) (hw : lane.worker = .finishing f)
  | closing (hc : p.closing = .draining slot (some f))

/-- How many submissions and finished jobs are midway. -/
def midway (p : Pool ρ) : Nat :=
  (p.submission.map Submission.midway).getD 0 + p.total (fun lane => lane.worker.midway) +
    p.closing.midway

/-! ### The invariants -/

/-- The depth of every slot is the number of jobs that have a place in it. -/
def DepthFits (p : Pool ρ) : Prop :=
  ∀ slot lane, p.lanes[slot]? = some lane → lane.depth = (p.inDepth slot lane).length

/-- Everything that was submitted is counted on the other side as well, up to what is midway. -/
def SumFits (p : Pool ρ) : Prop :=
  p.completed + p.failed + p.total (·.depth) = p.submitted + p.midway

/-! ### The depth of a slot -/

section

variable {exec : Executor ρ S} {s s' : Scheduler ρ S} {move : Move} {e : Option Event}
  {p p' : Pool ρ}

theorem length_inDepth (p : Pool ρ) (slot : Nat) (lane : Lane ρ) :
    (p.inDepth slot lane).length = lane.worker.inDepth.length +
      (drainDepth (p.closing.current slot)).length + lane.queue.length +
        (p.entrant slot).length := by
  simp only [inDepth, List.length_append]

theorem entrant_of_eq (hcursor : p'.cursor = p.cursor) (hsub : p'.submission = p.submission)
    (slot : Nat) : p'.entrant slot = p.entrant slot := by
  rw [entrant, entrant, hcursor, hsub]

theorem entrant_of_ne {slot : Nat} (hi : p.cursor ≠ slot) : p.entrant slot = [] := if_neg hi

@[simp] theorem Worker.inDepth_finishing (f : Finish) :
    (Worker.finishing f : Worker ρ).inDepth = f.inDepth := rfl

@[simp] theorem Worker.inDepth_afterFinish (f' : Option Finish) :
    (Worker.afterFinish f' : Worker ρ).inDepth = drainDepth f' := by
  cases f' <;> rfl

theorem depth_of_laneFinish {slot : Nat} {f : Finish} {f' : Option Finish} {e : Option Event}
    {change : Nat → Nat} (hf : LaneFinish slot f f' e change) (depth : Nat)
    (hdepth : f.inDepth.length ≤ depth) :
    change depth + f.inDepth.length = depth + (drainDepth f').length := by
  cases hf with
  | leave job outcome =>
      have hpos : 1 ≤ depth := hdepth
      exact Nat.sub_add_cancel hpos
  | _ => rfl

theorem DepthFits.of_lanes (hd : DepthFits p) (hlanes : p'.lanes = p.lanes)
    (hin : ∀ slot, drainDepth (p'.closing.current slot) ++ p'.entrant slot =
      drainDepth (p.closing.current slot) ++ p.entrant slot) : DepthFits p' := by
  intro slot lane hl
  have hlen := congrArg List.length (hin slot)
  have hdepth := hd slot lane (hlanes ▸ hl)
  simp only [length_inDepth, List.length_append] at hlen hdepth ⊢
  omega

theorem DepthFits.of_modify {slot : Nat} {change : Lane ρ → Lane ρ} (hd : DepthFits p)
    (hlanes : p'.lanes = p.lanes.modify slot change)
    (hother : ∀ i, slot ≠ i → drainDepth (p'.closing.current i) = drainDepth (p.closing.current i) ∧
      p'.entrant i = p.entrant i)
    (hself : ∀ lane, p.lanes[slot]? = some lane → lane.depth = (p.inDepth slot lane).length →
      (change lane).depth = (p'.inDepth slot (change lane)).length) : DepthFits p' := by
  intro i lane' hl'
  rw [hlanes] at hl'
  rcases lane_of_modifyLane (p := p) hl' with ⟨hne, hl⟩ | ⟨rfl, lane, hl, rfl⟩
  · obtain ⟨hdrain, hentrant⟩ := hother i hne
    rw [length_inDepth, hdrain, hentrant, ← length_inDepth]
    exact hd i lane' hl
  · exact hself lane hl (hd slot lane hl)

theorem DepthFits.submit {change : Lane ρ → Lane ρ} {submission : Option Submission}
    (hd : DepthFits p)
    (hself : ∀ lane : Lane ρ, (change lane).worker = lane.worker ∧
      (change lane).depth + lane.queue.length +
          (p.submission.toList.flatMap Submission.inDepth).length =
        lane.depth + (change lane).queue.length +
          (submission.toList.flatMap Submission.inDepth).length) :
    DepthFits { p.modifyLane p.cursor change with submission } := by
  have hlanes : (p.modifyLane p.cursor change).lanes = p.lanes.modify p.cursor change := rfl
  refine hd.of_modify hlanes (fun i hi => ⟨rfl, ?_⟩) fun lane _ hlen => ?_
  · rw [entrant_of_ne hi, entrant_of_ne]
    exact hi
  · obtain ⟨hw, hsum⟩ := hself lane
    simp only [length_inDepth, entrant, cursor_modifyLane, closing_modifyLane, if_true, hw]
      at hlen ⊢
    omega

/-- A worker or the closing call changes a slot: the depth changes by as much as the number of jobs
in hand and in the queue. -/
theorem DepthFits.work {slot : Nat} {lane : Lane ρ} {change : Lane ρ → Lane ρ} (hd : DepthFits p)
    (hl : p.lanes[slot]? = some lane) (hcursor : p'.cursor = p.cursor)
    (hsub : p'.submission = p.submission) (hlanes : p'.lanes = p.lanes.modify slot change)
    (hother : ∀ i, slot ≠ i → p'.closing.current i = p.closing.current i)
    (hself : lane.worker.inDepth.length + (drainDepth (p.closing.current slot)).length +
        lane.queue.length ≤ lane.depth →
      (change lane).depth + (lane.worker.inDepth.length +
          (drainDepth (p.closing.current slot)).length + lane.queue.length) =
        lane.depth + ((change lane).worker.inDepth.length +
          (drainDepth (p'.closing.current slot)).length + (change lane).queue.length)) :
    DepthFits p' := by
  refine hd.of_modify hlanes
    (fun i hi => ⟨by rw [hother i hi], entrant_of_eq hcursor hsub i⟩) fun lane₀ hl₀ hlen => ?_
  obtain rfl := Option.some_inj.1 (hl₀.symm.trans hl)
  rw [length_inDepth] at hlen ⊢
  rw [entrant_of_eq hcursor hsub]
  have hself' := hself (by omega)
  omega

theorem DepthFits.setWorker {slot : Nat} {worker : Worker ρ} {lane : Lane ρ} (hd : DepthFits p)
    (hl : p.lanes[slot]? = some lane)
    (hw : worker.inDepth.length = lane.worker.inDepth.length) :
    DepthFits (p.setWorker slot worker) :=
  hd.work hl rfl rfl rfl (fun _ _ => rfl) fun _ => by rw [closing_setWorker, hw]

@[simp] theorem current_draining_none (slot place : Nat) :
    Closing.current slot (.draining place none) = none := by
  simp [Closing.current]

/-- Every step keeps the depths fitting. -/
theorem DepthFits.step (hd : DepthFits s.pool) (hp : Phased s.pool)
    (ht : Scheduler.Transition exec s move e s') : DepthFits s'.pool := by
  cases ht with
  | lock _ hsub | refuse _ hsub | enter _ hsub | glanceFree _ hsub | glanceBusy _ hsub
  | scanFree _ _ _ hsub | scanBusy _ _ _ hsub | scanOut _ _ _ hsub | countSubmitted _ hsub =>
      exact hd.of_lanes rfl fun slot => by simp [entrant, hsub, Submission.inDepth]
  | enlist _ hsub => exact hd.submit fun lane => ⟨rfl, by simp [hsub, Submission.inDepth]⟩
  | deepen _ hsub | accept _ hsub =>
      exact hd.submit fun lane => ⟨rfl, by simp [hsub, Submission.inDepth]; omega⟩
  | find slot lane job queue hl hw hq =>
      refine hd.work hl rfl rfl rfl (fun _ _ => rfl) fun _ => ?_
      simp [hw, hq, Worker.inDepth]
      omega
  | start _ _ hl hw | miss _ _ hl hw | reject _ _ _ hl hw | begin _ _ _ hl hw
  | goOn _ _ _ _ _ _ hl hw | «return» _ _ _ _ _ _ hl hw | die _ _ _ _ _ hl hw
  | doubtOpen _ _ hl hw | doubtClosed _ _ hl hw | stop _ _ hl hw =>
      exact hd.setWorker hl (by rw [hw]; rfl)
  | finish slot lane f f' e t hl hw hf =>
      obtain ⟨change, hlf, hfin⟩ := Scheduler.laneFinish_of_finishing hf
      have hlanes := hfin.lanes_setWorker (.afterFinish f')
      refine hd.work hl hfin.cursor hfin.submission hlanes (fun i _ => ?_) fun hle => ?_
      · rw [closing_setWorker, hfin.closing]
      · rw [hw, Worker.inDepth_finishing] at hle ⊢
        rw [Worker.inDepth_afterFinish, closing_setWorker, hfin.closing]
        have hdepth := depth_of_laneFinish hlf lane.depth (by omega)
        dsimp only
        omega
  | drainFinish slot f f' e t hc hf =>
      obtain ⟨change, hlf, hfin⟩ := Scheduler.laneFinish_of_finishing hf
      obtain ⟨lane, hl⟩ := exists_lane (hp.drain_lt slot f hc)
      refine hd.work hl hfin.cursor hfin.submission hfin.lanes (fun i hi => ?_) fun hle => ?_
      · simp [hc, Closing.current, hi]
      · simp only [hc, Closing.current, if_true, drainDepth] at hle ⊢
        have hdepth := depth_of_laneFinish hlf lane.depth (by omega)
        cases f' <;> simp only [drainDepth] at hdepth ⊢ <;> omega
  | drainFind slot lane job queue hc hl hq =>
      refine hd.work hl rfl rfl rfl (fun i hi => ?_) fun _ => ?_
      · simp [hc, Closing.current, hi]
      · simp [hc, hq, Closing.current, drainDepth, Finish.inDepth, Finish.begin]
        omega
  | close hsub hopen =>
      have hc := hp.notBegun_iff.2 hopen
      exact hd.of_lanes rfl fun slot => by simp [hc, entrant, hsub, Closing.current]
  | join _ _ hc | joined _ hc | drainNext _ _ hc | drained _ hc =>
      exact hd.of_lanes rfl fun slot => by rw [hc]; simp [entrant, Closing.current]
  | closeAgain => exact hd

/-! ### What the depth says -/

/-- The jobs that are queued or executed are some of those in the depth. -/
theorem executing_subperm (p : Pool ρ) (slot : Nat) (lane : Lane ρ) :
    (lane.queue ++ lane.worker.executing).Subperm (p.inDepth slot lane) := by
  have hworker : lane.worker.executing.Sublist lane.worker.inDepth := by
    cases lane.worker with
    | holding | running => exact List.Sublist.refl _
    | _ => exact List.nil_sublist _
  have hsub : (lane.worker.executing ++ lane.queue).Sublist (p.inDepth slot lane) := by
    refine List.Sublist.trans ?_ (List.sublist_append_left _ _)
    exact (hworker.trans (List.sublist_append_left _ _)).append (List.Sublist.refl _)
  exact List.perm_append_comm.subperm.trans hsub.subperm

/-- Nobody takes a job out of a depth of zero. -/
theorem DepthFits.depth_pos (hd : DepthFits p) {slot : Nat} {lane : Lane ρ}
    (hl : p.lanes[slot]? = some lane) {f : Finish} (hf : IsFinishing p slot f)
    (hnext : f.next = .leave) : 1 ≤ lane.depth := by
  have hin : f.inDepth.length = 1 := by simp [Finish.inDepth, hnext]
  rw [hd slot lane hl, length_inDepth]
  cases hf with
  | worker lane₀ hl₀ hw =>
      obtain rfl := Option.some_inj.1 (hl₀.symm.trans hl)
      rw [hw, Worker.inDepth_finishing]
      omega
  | closing hc =>
      rw [hc, Closing.current, if_pos rfl, drainDepth]
      omega

/-! ### The sum over all slots -/

theorem total_eq_zero {number : Lane ρ → Nat}
    (hzero : ∀ (slot : Nat) (lane : Lane ρ), p.lanes[slot]? = some lane → number lane = 0) :
    p.total number = 0 := by
  refine List.sum_eq_zero_iff_forall_eq_nat.2 fun n hn => ?_
  obtain ⟨lane, hlane, rfl⟩ := List.mem_map.1 hn
  obtain ⟨slot, hl⟩ := List.getElem?_of_mem hlane
  exact hzero slot lane hl

theorem total_of_modify {slot : Nat} {lane : Lane ρ} {change : Lane ρ → Lane ρ}
    (hl : p.lanes[slot]? = some lane) (hlanes : p'.lanes = p.lanes.modify slot change)
    (number : Lane ρ → Nat) :
    p'.total number + number lane = p.total number + number (change lane) := by
  rw [total, total, hlanes]
  clear hlanes
  generalize p.lanes = lanes at hl
  induction lanes generalizing slot with
  | nil => simp at hl
  | cons head lanes ih =>
      cases slot with
      | zero =>
          obtain rfl : head = lane := by simpa using hl
          simp only [List.modify_zero_cons, List.map_cons, List.sum_cons]
          omega
      | succ slot =>
          have hrest := @ih slot (by simpa using hl)
          simp only [List.modify_succ_cons, List.map_cons, List.sum_cons]
          omega

/-- What is counted as done. -/
def done (p : Pool ρ) : Nat := p.completed + p.failed

/-- What is counted as submitted, with what is midway outside the workers. -/
def begunOn (p : Pool ρ) : Nat :=
  p.submitted + (p.submission.map Submission.midway).getD 0 + p.closing.midway

theorem SumFits.of_lanes (hs : SumFits p) (hlanes : p'.lanes = p.lanes)
    (hsum : p'.done + p.begunOn = p.done + p'.begunOn) : SumFits p' := by
  simp only [SumFits, midway, total, hlanes, done, begunOn] at hs hsum ⊢
  omega

theorem SumFits.of_modify {slot : Nat} {lane : Lane ρ} {change : Lane ρ → Lane ρ}
    (hs : SumFits p) (hl : p.lanes[slot]? = some lane)
    (hlanes : p'.lanes = p.lanes.modify slot change)
    (hsum : p'.done + p.begunOn + (change lane).depth + lane.worker.midway =
      p.done + p'.begunOn + lane.depth + (change lane).worker.midway) : SumFits p' := by
  have hdepth := total_of_modify hl hlanes (·.depth)
  have hmidway := total_of_modify hl hlanes fun lane => lane.worker.midway
  simp only [SumFits, midway, done, begunOn] at hs hsum ⊢
  omega

/-- What is midway of finishing a job. -/
def finishMidway : Option Finish → Nat
  | some f => f.midway
  | none => 0

@[simp] theorem Worker.midway_finishing (f : Finish) :
    (Worker.finishing f : Worker ρ).midway = f.midway := rfl

@[simp] theorem Worker.midway_afterFinish (f' : Option Finish) :
    (Worker.afterFinish f' : Worker ρ).midway = finishMidway f' := by
  cases f' <;> rfl

@[simp] theorem Closing.midway_draining (slot : Nat) (f : Option Finish) :
    (Closing.draining slot f).midway = finishMidway f := by
  cases f <;> rfl

/-- A job is counted as done before it leaves the depth of its slot. -/
theorem done_of_finishing {slot depth : Nat} {f : Finish} {f' : Option Finish}
    {change : Nat → Nat} (hf : Scheduler.Finishing s slot f f' e s')
    (hlf : LaneFinish slot f f' e change) (hdepth : f.inDepth.length ≤ depth) :
    s'.pool.done + change depth + f.midway = s.pool.done + depth + finishMidway f' := by
  cases hf with
  | count job outcome =>
      cases hlf
      cases outcome <;>
        simp only [Scheduler.counted, done, Finish.midway, finishMidway, id_eq] <;> simp <;> omega
  | leave job outcome =>
      cases hlf
      have hpos : 1 ≤ depth := hdepth
      simp [done, Finish.midway, finishMidway, modifyLane]
      omega
  | resolve job outcome => cases hlf; simp [Finish.midway, finishMidway]
  | wake job outcome waker => cases hlf; simp [Finish.midway, finishMidway]

/-- Every step keeps the sums fitting. -/
theorem SumFits.step (hs : SumFits s.pool) (hd : DepthFits s.pool) (hp : Phased s.pool)
    (ht : Scheduler.Transition exec s move e s') : SumFits s'.pool := by
  cases ht with
  | lock _ hsub | refuse _ hsub | enter _ hsub | glanceFree _ hsub | glanceBusy _ hsub
  | scanFree _ _ _ hsub | scanBusy _ _ _ hsub | scanOut _ _ _ hsub =>
      exact hs.of_lanes rfl (by simp [done, begunOn, hsub, Submission.midway])
  | countSubmitted _ hsub =>
      exact hs.of_lanes rfl (by simp [done, begunOn, hsub, Submission.midway])
  | enlist _ hsub | accept _ hsub =>
      obtain ⟨lane, hl⟩ := exists_lane hp.cursor_lt
      exact hs.of_modify hl rfl (by simp [done, begunOn, hsub, Submission.midway, modifyLane])
  | deepen _ hsub =>
      obtain ⟨lane, hl⟩ := exists_lane hp.cursor_lt
      exact hs.of_modify hl rfl (by simp [done, begunOn, hsub, Submission.midway, modifyLane]; omega)
  | find _ _ _ _ hl hw | start _ _ hl hw | miss _ _ hl hw | reject _ _ _ hl hw
  | begin _ _ _ hl hw | goOn _ _ _ _ _ _ hl hw | «return» _ _ _ _ _ _ hl hw
  | die _ _ _ _ _ hl hw | doubtOpen _ _ hl hw | doubtClosed _ _ hl hw | stop _ _ hl hw =>
      refine hs.of_modify hl rfl ?_
      rw [hw]
      rfl
  | finish slot lane f f' e t hl hw hf =>
      obtain ⟨change, hlf, hfin⟩ := Scheduler.laneFinish_of_finishing hf
      have hdepth : f.inDepth.length ≤ lane.depth := by
        rw [hd slot lane hl, length_inDepth, hw, Worker.inDepth_finishing]
        omega
      have hdone := done_of_finishing hf hlf hdepth
      have hlanes := hfin.lanes_setWorker (.afterFinish f')
      have hbegun : (t.pool.setWorker slot (.afterFinish f')).begunOn = s.pool.begunOn := by
        simp [begunOn, setWorker, modifyLane, hfin.submission, hfin.submitted, hfin.closing]
      have hdone' : (t.pool.setWorker slot (.afterFinish f')).done = t.pool.done := rfl
      refine hs.of_modify hl hlanes ?_
      rw [hbegun, hdone', hw, Worker.midway_finishing, Worker.midway_afterFinish]
      dsimp only
      omega
  | drainFinish slot f f' e t hc hf =>
      obtain ⟨change, hlf, hfin⟩ := Scheduler.laneFinish_of_finishing hf
      obtain ⟨lane, hl⟩ := exists_lane (hp.drain_lt slot f hc)
      have hdepth : f.inDepth.length ≤ lane.depth := by
        rw [hd slot lane hl, length_inDepth, hc, Closing.current, if_pos rfl, drainDepth]
        omega
      have hdone := done_of_finishing hf hlf hdepth
      refine hs.of_modify hl hfin.lanes ?_
      simp [begunOn, done, hfin.submission, hfin.submitted, hc, finishMidway] at hdone ⊢
      omega
  | drainFind slot lane job queue hc hl hq =>
      refine hs.of_modify hl rfl ?_
      simp [begunOn, done, hc, finishMidway, Finish.begin, Finish.midway, modifyLane]
  | close hsub hopen =>
      have hc := hp.notBegun_iff.2 hopen
      exact hs.of_lanes rfl (by simp [done, begunOn, hc, hsub, Closing.midway])
  | join _ _ hc | joined _ hc | drainNext _ _ hc | drained _ hc =>
      exact hs.of_lanes rfl (by simp [done, begunOn, hc, Closing.midway])
  | closeAgain => exact hs

/-- Nothing is midway unless some submission or some finished job is. -/
theorem midway_eq_zero
    (hsub : ∀ submission, p.submission = some submission → submission.next ≠ .counting)
    (hfinish : ∀ slot f, IsFinishing p slot f → f.next ≠ .leave) : p.midway = 0 := by
  have hworkers : p.total (fun lane => lane.worker.midway) = 0 := by
    refine total_eq_zero fun slot lane hl => ?_
    cases hw : lane.worker with
    | finishing f => exact if_neg (hfinish slot f (.worker lane hl hw))
    | _ => rfl
  have hclosing : p.closing.midway = 0 := by
    match hc : p.closing with
    | .draining slot (some f) => exact if_neg (hfinish slot f (.closing hc))
    | .draining _ none | .notBegun | .joining _ | .finished => rfl
  have hsubmission : (p.submission.map Submission.midway).getD 0 = 0 := by
    cases hs : p.submission with
    | none => rfl
    | some submission => exact if_neg (hsub submission hs)
  rw [midway, hsubmission, hworkers, hclosing]

end

end Offload.Pool

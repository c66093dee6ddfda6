/-
**Interleaving slots is running them one after another.**

The workers of an open device, of which no slot is held, run the jobs of their queues, and their
steps are interleaved in any way.  By swapping neighbouring steps every interleaving becomes a run
in which one worker makes all its steps before the next one makes its first, and what comes of it is
the same.  Every interleaving can be brought to its end, at which all queues are empty, and there
all of them agree.

Main definitions:

* `Station.Agrees` — what comes of a run, without the device's own account of failures;
* `Station.Run.IsPoised`, `Station.Run.IsDone` — the beginning and the end of such runs.

Main results:

* `Station.Underway.agrees_of_done` — all complete runs of workers agree;
* `Station.Underway.exists_done` — every run of workers can be brought to its end;
* `Station.Run.interleaving_in_turn` — **every interleaving comes to the same as running the slots
  one after another**, in any order.
-/

import Offload.Proofs.Dispatcher.Reordering
import Offload.Proofs.Dispatcher.TearDown

set_option autoImplicit false
set_option relaxedAutoImplicit false

namespace Offload.Station

open Native Simulator Run

variable {compute : UInt32 → Bytes → Bytes} {n i j : Nat} {slots slots' : List Nat}
  {r r' r₁ r₂ s : Run}

/-! ### What comes of a run -/

/-- Two runs of which the same comes, without the device's own account of failures: what has
happened on every slot, with the outcomes of its jobs, what the slots hold and count, the faults
that are left and the number of overlaps. -/
structure Agrees (r s : Run) : Prop where
  happened : ∀ i < r.pool.size, Pool.happened i s.history = Pool.happened i r.history
  slots : s.device.slots = r.device.slots
  faults : s.device.faults = r.device.faults
  overlaps : s.device.overlaps = r.device.overlaps

theorem Same.agrees (hr : Underway compute n r) (hs : Underway compute n s) (h : Same r s) :
    Agrees r s := by
  refine ⟨fun i hi => (h.abreast i hi).happened, ?_, h.faults, h.overlaps⟩
  have hlength : s.device.slots.length = r.device.slots.length := by
    rw [hs.slots, ← hs.workers, h.size, hr.workers, hr.slots]
  refine List.ext_getElem? fun k => ?_
  by_cases hk : k < r.pool.size
  · have hslot := (h.abreast k hk).level.slot?
    rwa [slot?, slot?, hr.toNat_ofNat hk] at hslot
  · have hle : r.device.slots.length ≤ k := by
      rw [hr.slots, ← hr.workers]
      exact Nat.le_of_not_lt hk
    rw [List.getElem?_eq_none hle, List.getElem?_eq_none (hlength ▸ hle)]

/-! ### Being done -/

/-- The worker of a slot is done: its queue is empty, and it has no job. -/
def Run.IsDoneAt (r : Run) (i : Nat) : Prop :=
  ∀ lane, r.pool.lanes[i]? = some lane → lane.queue = [] ∧ lane.worker.isReady = true

/-- All workers are done. -/
def Run.IsDone (r : Run) : Prop := ∀ i, r.IsDoneAt i

theorem Same.isDone (h : Same r s) (hd : r.IsDone) : s.IsDone := by
  intro i lane' hl'
  have hi : i < r.pool.size := h.size ▸ Pool.lt_size_of_lane hl'
  obtain ⟨lane, lane₁, hl, hl₁, hqueue, hstand⟩ := (h.abreast i hi).lanes
  obtain rfl : lane₁ = lane' := Option.some_inj.1 (hl₁.symm.trans hl')
  obtain ⟨hempty, hready⟩ := hd i lane hl
  refine ⟨hqueue.trans hempty, ?_⟩
  generalize lane.worker = w at hready hstand
  generalize lane₁.worker = w' at hstand
  cases hstand with
  | ready => exact hready
  | _ => cases hready

theorem Confined.isDoneAt {used : Option Operation} {extra : Nat} (h : Confined i used extra r r₁)
    (hne : j ≠ i) (hd : r.IsDoneAt j) : r₁.IsDoneAt j := fun lane hl =>
  hd lane ((h.lanes j hne).symm.trans hl)

/-- **A worker that is done changes nothing any more.** -/
theorem Underway.work_of_done (hu : Underway compute n r) (hd : r.IsDone)
    (ht : r.turn compute (workOf i) = some r₁) : r₁.IsDone ∧ Agrees r r₁ := by
  obtain ⟨-, used, extra, hconfined⟩ := hu.confined_work ht
  obtain ⟨e, lane, lane₁, hworked, hhistory⟩ := Run.worked_turn hu.admits ht
  obtain ⟨hempty, hready⟩ := hd i lane hworked.before
  have hworking := hworked.working
  rw [hempty] at hworking
  obtain ⟨hqueue₁, hready₁, rfl, hshared⟩ := hworking.of_empty hready
  have hdevice : r₁.device = r.device := by
    rcases hshared with h | ⟨line, h⟩
    · exact congrArg (fun site : Exchange.Site Simulator => site.world.driver) h
    · exact congrArg (fun site : Exchange.Site Simulator => site.world.driver) h
  refine ⟨fun k => ?_, fun k _ => ?_, ?_, ?_, ?_⟩
  · by_cases hk : k = i
    · subst hk
      intro lane' hl'
      obtain rfl := Option.some_inj.1 (hworked.after.symm.trans hl')
      exact ⟨hqueue₁, hready₁⟩
    · exact hconfined.isDoneAt hk (hd k)
  · rw [hhistory]
    simp
  all_goals rw [hdevice]

theorem Agrees.trans {t : Run} (h : Agrees r s) (hsize : s.pool.size = r.pool.size)
    (h' : Agrees s t) : Agrees r t :=
  ⟨fun i hi => (h'.happened i (hsize ▸ hi)).trans (h.happened i hi), h'.slots.trans h.slots,
    h'.faults.trans h.faults, h'.overlaps.trans h.overlaps⟩

theorem Agrees.symm (h : Agrees r s) (hsize : s.pool.size = r.pool.size) : Agrees s r :=
  ⟨fun i hi => (h.happened i (hsize ▸ hi)).symm, h.slots.symm, h.faults.symm, h.overlaps.symm⟩

theorem Underway.turns_of_done (hu : Underway compute n r) (hd : r.IsDone)
    (hslots : ∀ i ∈ slots, i < r.pool.size) :
    ∃ r', Run.turns compute (works slots) r = some r' ∧ Agrees r r' := by
  induction slots generalizing r with
  | nil => exact ⟨r, rfl, fun _ _ => rfl, rfl, rfl, rfl⟩
  | cons i slots ih =>
      rw [List.forall_mem_cons] at hslots
      obtain ⟨lane, hl⟩ := Pool.exists_lane hslots.1
      obtain ⟨-, hready⟩ := hd i lane hl
      obtain ⟨r₁, ht⟩ : ∃ r₁, r.turn compute (workOf i) = some r₁ := by
        refine Run.exists_turn_work hl (Pool.Worker.isActive_of_isReady hready) fun job run hw => ?_
        rw [hw] at hready
        cases hready
      obtain ⟨-, used, extra, hconfined⟩ := hu.confined_work ht
      obtain ⟨hd₁, hagrees⟩ := hu.work_of_done hd ht
      obtain ⟨r', hr', hagrees'⟩ :=
        ih (hu.work ht) hd₁ fun k hk => hconfined.size.symm ▸ hslots.2 k hk
      exact ⟨r', turns_works_cons.2 ⟨r₁, ht, hr'⟩, hagrees.trans hconfined.size hagrees'⟩

/-- **All complete runs of workers agree.** -/
theorem Underway.agrees_of_done (hu : Underway compute n r)
    (h₁ : Run.turns compute (works slots) r = some r₁) (hd₁ : r₁.IsDone)
    (h₂ : Run.turns compute (works slots') r = some r₂) (hd₂ : r₂.IsDone) : Agrees r₁ r₂ := by
  have hu₁ := hu.turns h₁
  have hu₂ := hu.turns h₂
  obtain ⟨-, hsize₁, hslots⟩ := hu.spares h₁
  obtain ⟨-, hsize₂, hslots'⟩ := hu.spares h₂
  -- a run that is done can make the steps of the other one, too, and then the steps are the same
  obtain ⟨r₁', hr₁', hagrees₁⟩ := hu₁.turns_of_done hd₁ fun i hi => hsize₁.symm ▸ hslots' i hi
  obtain ⟨r₂', hr₂', hagrees₂⟩ := hu₂.turns_of_done hd₂ fun i hi => hsize₂.symm ▸ hslots i hi
  have hall₁ := turns_works_append.2 ⟨r₁, h₁, hr₁'⟩
  have hall₂ := turns_works_append.2 ⟨r₂, h₂, hr₂'⟩
  obtain ⟨s, hs, hsame⟩ := Same.perm List.perm_append_comm hu hu hu.same_self hall₁
  obtain rfl : r₂' = s := Option.some_inj.1 (hall₂.symm.trans hs)
  obtain ⟨-, hsize₁', -⟩ := hu₁.spares hr₁'
  obtain ⟨-, hsize₂', -⟩ := hu₂.spares hr₂'
  have hagrees : Agrees r₁ r₂' :=
    hagrees₁.trans hsize₁' (hsame.agrees (hu₁.turns hr₁') (hu₂.turns hr₂'))
  refine hagrees.trans ?_ (hagrees₂.symm hsize₂')
  rw [hsize₂', hsize₂, hsize₁]

/-! ### Coming to an end -/

/-- A worker has no more than a number of steps left until it looks for its next job. -/
def IsWithin (polls : Nat) : Pool.Worker Exchange.Run → Nat → Prop
  | .looking, _ => True
  | .starting, m | .doubting, m => 1 ≤ m
  | .holding _, m => 18 + 2 * polls ≤ m
  | .running _ run, m => ∃ k, Exchange.Nears polls run.rest k ∧ k + 5 ≤ m
  | .finishing f, m => stepsLeft f.next + 1 ≤ m
  | .stopping, _ | .stopped, _ | .died _, _ => False

/-- A bound on the number of steps that a job takes. -/
def toll (polls : Nat) : Nat := 19 + 2 * polls

/-- A worker has no more than a number of steps left until it is done. -/
def Remains (r : Run) (i m : Nat) : Prop :=
  ∃ lane k, r.pool.lanes[i]? = some lane ∧
    IsWithin (r.device.busyPolls (UInt32.ofNat i)) lane.worker k ∧
    lane.queue.length * toll (r.device.busyPolls (UInt32.ofNat i)) + k ≤ m

theorem Underway.remains (hu : Underway compute n r) (hi : i < r.pool.size) :
    ∃ m, Remains r i m := by
  obtain ⟨lane, hl⟩ := Pool.exists_lane hi
  have hworker := Pool.worker?_of_lane hl
  obtain ⟨k, hk⟩ : ∃ k, IsWithin (r.device.busyPolls (UInt32.ofNat i)) lane.worker k := by
    have hactive := hu.active i _ hworker
    cases hw : lane.worker with
    | running job run =>
        obtain ⟨polls, m, hnear⟩ := hu.paced i job run (hworker.trans (by rw [hw]))
        exact ⟨_, _, hnear.renew _, Nat.le_refl _⟩
    | stopping | stopped | died => rw [hw] at hactive; cases hactive
    | looking => exact ⟨0, trivial⟩
    | _ => exact ⟨_, Nat.le_refl _⟩
  exact ⟨_, lane, k, hl, hk, Nat.le_refl _⟩

/-- A step brings a worker nearer to where it looks for its next job, or takes a job off its queue,
unless there is nothing to do. -/
theorem Underway.isWithin_working (hu : Underway compute n r) {queue queue₁ : List Pool.Job}
    {w w₁ : Pool.Worker Exchange.Run} {e : Option Pool.Event} {site : Exchange.Site Simulator}
    {k : Nat} (hw : r.pool.worker? i = some w)
    (h : Pool.Working (executor (driver compute) patience) i r.station.scheduler.shared queue w
      queue₁ w₁ e site)
    (hk : IsWithin (r.device.busyPolls (UInt32.ofNat i)) w k)
    (hnot : ¬(queue = [] ∧ w.isReady = true)) :
    ∃ k₁, IsWithin (site.world.driver.busyPolls (UInt32.ofNat i)) w₁ k₁ ∧
      queue₁.length * toll (r.device.busyPolls (UInt32.ofNat i)) + k₁ <
        queue.length * toll (r.device.busyPolls (UInt32.ofNat i)) + k := by
  have hpolls := ((hu.running_work hw h).1 (UInt32.ofNat i)).polls
  cases h with
  | start | doubt => exact ⟨0, trivial, Nat.add_lt_add_left hk _⟩
  | miss => exact absurd ⟨rfl, rfl⟩ hnot
  | find job queue =>
      -- what the job takes is paid for by its place in the queue
      have htoll : 18 + 2 * r.device.busyPolls (UInt32.ofNat i) <
          toll (r.device.busyPolls (UInt32.ofNat i)) := by
        rw [toll]
        omega
      refine ⟨_, Nat.le_refl _, ?_⟩
      rw [List.length_cons, Nat.succ_mul _ (toll _)]
      exact Nat.lt_add_right k (Nat.add_lt_add_left htoll _)
  | begin _ job =>
      have hnear := Exchange.nears_deviceRound r.station.dispatcher.device (UInt32.ofNat i)
        job.input (r.device.busyPolls (UInt32.ofNat i))
      have hk : 18 + 2 * r.device.busyPolls (UInt32.ofNat i) ≤ k := hk
      refine ⟨_, ⟨_, hnear, Nat.le_refl _⟩, ?_⟩
      omega
  | goOn _ job run run' _ hstep =>
      obtain ⟨m, hnear, hle⟩ := hk
      obtain ⟨m', hnear', -, hlt⟩ := Exchange.Nears.continues hnear (hu.about hw) hstep
      have hlt := hlt (hu.released _)
      exact ⟨m' + 5, ⟨m', hnear', Nat.le_refl _⟩, by omega⟩
  | «return» _ job run outcome _ hstep =>
      obtain ⟨m, -, hle⟩ := hk
      have hleft : stepsLeft (Pool.Finish.begin job outcome).next + 1 = 4 := rfl
      exact ⟨4, Nat.le_of_eq hleft, by omega⟩
  | die _ job run _ hstep => exact absurd hstep (hu.not_died hw _)
  | finish _ f _ _ _ hf =>
      have hk : stepsLeft f.next + 1 ≤ k := hk
      cases hf with
      | wake => exact ⟨0, trivial, Nat.add_lt_add_left hk _⟩
      | _ => exact ⟨_, Nat.le_refl _, Nat.add_lt_add_left hk _⟩
  | stop => exact hk.elim

/-- **Every step of a worker that is not done counts.** -/
theorem Remains.work {m : Nat} (h : Remains r i m) (hu : Underway compute n r)
    (hnot : ¬r.IsDoneAt i) (ht : r.turn compute (workOf i) = some r₁) :
    ∃ m' < m, Remains r₁ i m' := by
  obtain ⟨e, lane, lane₁, hworked, -⟩ := Run.worked_turn hu.admits ht
  obtain ⟨lane₀, k, hl₀, hk, hle⟩ := h
  obtain rfl : lane₀ = lane := Option.some_inj.1 (hl₀.symm.trans hworked.before)
  have hworker := Pool.worker?_of_lane hl₀
  have hbusy : ¬(lane₀.queue = [] ∧ lane₀.worker.isReady = true) := by
    intro hdone
    refine hnot fun lane hl => ?_
    obtain rfl := Option.some_inj.1 (hl.symm.trans hl₀)
    exact hdone
  have hpolls := ((hu.running_work hworker hworked.working).1 (UInt32.ofNat i)).polls
  obtain ⟨k₁, hk₁, hlt⟩ := hu.isWithin_working hworker hworked.working hk hbusy
  refine ⟨_, ?_, lane₁, k₁, hworked.after, hk₁, Nat.le_refl _⟩
  -- the slot is not busier than before, so what remains of the queue costs no more
  have htoll : lane₁.queue.length * toll (r₁.device.busyPolls (UInt32.ofNat i)) ≤
      lane₁.queue.length * toll (r.device.busyPolls (UInt32.ofNat i)) :=
    Nat.mul_le_mul_left _ (Nat.add_le_add_left (Nat.mul_le_mul_left 2 hpolls) 19)
  omega

theorem Underway.exists_work (hu : Underway compute n r) (hi : i < r.pool.size) :
    ∃ r₁, r.turn compute (workOf i) = some r₁ := by
  obtain ⟨lane, hl⟩ := Pool.exists_lane hi
  have hworker := Pool.worker?_of_lane hl
  refine Run.exists_turn_work hl (hu.active i _ hworker) fun job run hw => ?_
  exact Exchange.not_blocked_of_not_held (hu.released _) (hu.about (hworker.trans (by rw [hw])))

/-- **A worker can be brought to the end of its queue**, and all others stay where they are. -/
theorem Underway.exists_doneAt (hu : Underway compute n r) (hi : i < r.pool.size) :
    ∃ count r₁, Run.turns compute (works (List.replicate count i)) r = some r₁ ∧ r₁.IsDoneAt i ∧
      ∀ j ≠ i, r.IsDoneAt j → r₁.IsDoneAt j := by
  obtain ⟨m, hm⟩ := hu.remains hi
  induction m using Nat.strongRecOn generalizing r with
  | ind m ih =>
      by_cases hd : r.IsDoneAt i
      · exact ⟨0, r, rfl, hd, fun _ _ h => h⟩
      · obtain ⟨r₁, ht⟩ := hu.exists_work hi
        obtain ⟨m', hlt, hm'⟩ := hm.work hu hd ht
        obtain ⟨-, used, extra, hconfined⟩ := hu.confined_work ht
        obtain ⟨count, r₂, h₂, hd₂, hothers⟩ :=
          ih m' hlt (hu.work ht) (hconfined.size.symm ▸ hi) hm'
        refine ⟨count + 1, r₂, turns_works_cons.2 ⟨r₁, ht, h₂⟩, hd₂, fun j hj hdj => ?_⟩
        exact hothers j hj (hconfined.isDoneAt hj hdj)

/-- **Every run of workers can be brought to its end.** -/
theorem Underway.exists_done (hu : Underway compute n r) :
    ∃ slots r', Run.turns compute (works slots) r = some r' ∧ r'.IsDone := by
  have hall : ∀ order : List Nat, (∀ i ∈ order, i < r.pool.size) →
      ∃ slots r', Run.turns compute (works slots) r = some r' ∧ ∀ i ∈ order, r'.IsDoneAt i := by
    intro order
    induction order with
    | nil => exact fun _ => ⟨[], r, rfl, fun i hi => absurd hi List.not_mem_nil⟩
    | cons i order ih =>
        intro horder
        rw [List.forall_mem_cons] at horder
        obtain ⟨slots, r', h', hd'⟩ := ih horder.2
        obtain ⟨-, hsize, -⟩ := hu.spares h'
        obtain ⟨count, r₁, h₁, hd₁, hothers⟩ :=
          (hu.turns h').exists_doneAt (hsize.symm ▸ horder.1)
        refine ⟨slots ++ List.replicate count i, r₁, turns_works_append.2 ⟨r', h', h₁⟩, ?_⟩
        rw [List.forall_mem_cons]
        refine ⟨hd₁, fun j hj => ?_⟩
        by_cases hji : j = i
        · exact hji ▸ hd₁
        · exact hothers j hji (hd' j hj)
  obtain ⟨slots, r', h', hd'⟩ := hall (List.range r.pool.size) fun i hi => List.mem_range.1 hi
  obtain ⟨-, hsize, -⟩ := hu.spares h'
  refine ⟨slots, r', h', fun i lane hl => hd' i (List.mem_range.2 ?_) lane hl⟩
  rw [← hsize]
  exact Pool.lt_size_of_lane hl

/-! ### No job is left out -/

theorem Underway.accounted_work (hu : Underway compute n r) {lane : Pool.Lane Exchange.Run}
    (hl : r.pool.lanes[i]? = some lane) (ht : r.turn compute (workOf j) = some r₁) :
    ∃ lane₁, r₁.pool.lanes[i]? = some lane₁ ∧
      Pool.resolved i r₁.history ++ (lane₁.worker.hand ++ lane₁.queue) =
        Pool.resolved i r.history ++ (lane.worker.hand ++ lane.queue) := by
  by_cases hne : i = j
  · subst hne
    obtain ⟨e, lane₀, lane₁, hworked, hhistory⟩ := Run.worked_turn hu.admits ht
    obtain rfl : lane = lane₀ := Option.some_inj.1 (hl.symm.trans hworked.before)
    have hactive := (hu.work ht).active i _ (Pool.worker?_of_lane hworked.after)
    refine ⟨lane₁, hworked.after, ?_⟩
    rw [hhistory, Pool.resolved, Pool.jobsOf_append, List.append_assoc,
      hworked.working.keepsJobs hactive]
  · obtain ⟨-, used, extra, hconfined⟩ := hu.confined_work ht
    refine ⟨lane, (hconfined.lanes i hne).trans hl, ?_⟩
    rw [← Pool.resolved_happened, hconfined.happened i hne, Pool.resolved_happened]

theorem Underway.accounted_turns (hu : Underway compute n r) {lane : Pool.Lane Exchange.Run}
    (hl : r.pool.lanes[i]? = some lane) (h : Run.turns compute (works slots) r = some r') :
    ∃ lane', r'.pool.lanes[i]? = some lane' ∧
      Pool.resolved i r'.history ++ (lane'.worker.hand ++ lane'.queue) =
        Pool.resolved i r.history ++ (lane.worker.hand ++ lane.queue) := by
  induction slots generalizing r lane with
  | nil =>
      obtain rfl : r = r' := Option.some_inj.1 h
      exact ⟨lane, hl, rfl⟩
  | cons j slots ih =>
      obtain ⟨r₁, ht, h⟩ := turns_works_cons.1 h
      obtain ⟨lane₁, hl₁, h₁⟩ := hu.accounted_work hl ht
      obtain ⟨lane', hl', h'⟩ := ih (hu.work ht) hl₁ h
      exact ⟨lane', hl', h'.trans h₁⟩

/-- **Workers that are done have resolved their queues**, in order. -/
theorem Underway.resolved_of_done (hu : Underway compute n r) {lane : Pool.Lane Exchange.Run}
    (hl : r.pool.lanes[i]? = some lane) (hready : lane.worker.isReady = true)
    (h : Run.turns compute (works slots) r = some r') (hd : r'.IsDone) :
    Pool.resolved i r'.history = Pool.resolved i r.history ++ lane.queue := by
  obtain ⟨lane', hl', hjobs⟩ := hu.accounted_turns hl h
  obtain ⟨hempty, hready'⟩ := hd i lane' hl'
  rwa [Pool.Worker.hand_of_isReady hready, Pool.Worker.hand_of_isReady hready', hempty,
    List.append_nil, List.append_nil, List.nil_append] at hjobs

/-! ### One slot after another -/

/-- What there is before workers begin: the device is in session, no slot is held, every fault names
a slot, and each worker is there, has no job, and may have any jobs in its queue. -/
structure Run.IsPoised (r : Run) : Prop where
  session : ∃ n, r.station.dispatcher.device.session = some ⟨token, n⟩
  slots : r.device.slots.length = r.device.setup.bufferCount.toNat
  workers : r.pool.size = r.device.setup.bufferCount.toNat
  released : r.device.anyHeld = false
  named : IsNamed r.device.faults
  admits : r.pool.closed = false
  ready : ∀ i w, r.pool.worker? i = some w → w.isReady = true

theorem Run.IsPoised.not_running (h : r.IsPoised) {job : Pool.Job} {run : Exchange.Run} :
    r.pool.worker? i ≠ some (.running job run) := by
  intro hw
  cases h.ready i _ hw

theorem Run.IsPoised.underway (h : r.IsPoised) : ∃ n, Underway compute n r := by
  obtain ⟨n, hsession⟩ := h.session
  refine ⟨n, hsession, h.slots, h.workers, fun slot => ?_, h.named, h.admits,
    fun i w hw => Pool.Worker.isActive_of_isReady (h.ready i w hw),
    fun _ _ _ hw => absurd hw h.not_running, fun _ _ _ hw => absurd hw h.not_running,
    fun _ _ _ hw => absurd hw h.not_running⟩
  have hnone := List.any_eq_false.1 h.released
  rw [isHeld]
  cases hslot : r.device.slot? slot with
  | none => rfl
  | some t => simpa using hnone t (List.mem_of_getElem? hslot)

/-- A run of a dispatcher that has come up is poised as long as nothing is held, no fault is meant
for all slots, nobody closes the pool, and no worker has a job. -/
theorem RunInv.isPoised {setup : Setup} (hs : RunInv compute setup n r)
    (hheld : r.device.anyHeld = false) (hnamed : IsNamed r.device.faults)
    (hopen : r.pool.closed = false)
    (hready : ∀ i w, r.pool.worker? i = some w → w.isReady = true) : r.IsPoised := by
  have hsetup : r.device.setup = setup := hs.deviceInv.setup
  refine ⟨⟨n, hs.deviceInv.session ?_⟩, ?_, ?_, hheld, hnamed, hopen, hready⟩
  · -- a device that is being closed has a pool that has come to its end
    refine eq_true_of_ne_false fun hlate => ?_
    have hfinished := hs.deviceInv.late hlate
    have hbegun := hs.sound.phased.notBegun_iff.2 hopen
    cases hfinished.symm.trans hbegun
  · rw [hs.slots, hsetup]
  · rw [hsetup]
    exact hs.deviceInv.size

/-- **Every interleaving comes to the same as running the slots one after another.**  The workers of
a poised run make steps in any order.  The registers, the open flag and the calls to close the
device are left alone.  The run can go on until all workers are done.  In whatever order the slots
are taken, the same steps can be made one slot after another: the same happens on every slot, with
the same outcomes but for the device's own account of failures, the slots hold and count the same,
and the same faults and as many overlaps are left; and workers that are done in the one run are done
in the other.  When all are done, the jobs of every queue are resolved, in order, and all runs in
which all are done agree. -/
theorem Run.interleaving_in_turn (hr : r.IsPoised)
    (h : Run.turns compute (works slots) r = some r₁) :
    Spares r.device r₁.device ∧
    (∃ more r₂, Run.turns compute (works (slots ++ more)) r = some r₂ ∧ r₂.IsDone) ∧
    (∀ order : List Nat, order.Perm (List.range r.pool.size) →
      ∃ r₂, Run.turns compute (works (inTurn order slots)) r = some r₂ ∧ Agrees r₁ r₂ ∧
        (r₁.IsDone → r₂.IsDone)) ∧
    (r₁.IsDone →
      (∀ i lane, r.pool.lanes[i]? = some lane →
        Pool.resolved i r₁.history = Pool.resolved i r.history ++ lane.queue) ∧
      ∀ slots' r₂, Run.turns compute (works slots') r = some r₂ → r₂.IsDone → Agrees r₁ r₂) := by
  obtain ⟨n, hu⟩ : ∃ n, Underway compute n r := hr.underway
  obtain ⟨hspares, -, hslots⟩ := hu.spares h
  refine ⟨hspares, ?_, fun order horder => ?_, fun hd => ⟨fun i lane hl => ?_, ?_⟩⟩
  · obtain ⟨more, r₂, h₂, hd₂⟩ := (hu.turns h).exists_done
    exact ⟨more, r₂, turns_works_append.2 ⟨r₁, h, h₂⟩, hd₂⟩
  · obtain ⟨r₂, h₂, hsame⟩ := Same.perm (perm_inTurn horder hslots) hu hu hu.same_self h
    exact ⟨r₂, h₂, hsame.agrees (hu.turns h) (hu.turns h₂), hsame.isDone⟩
  · exact hu.resolved_of_done hl (hr.ready i _ (Pool.worker?_of_lane hl)) h hd
  · exact fun slots' r₂ h₂ hd₂ => hu.agrees_of_done h hd h₂ hd₂

/-! ### Two struck slots -/

namespace Run

/-- One job joins the queue of each slot, and a fault is meant for the message of each. -/
def struckBoth : List Turn :=
  .execute [1] :: .move (.enter 0) :: often 6 .proceed ++
    .execute [2, 3] :: .move (.enter 1) :: often 6 .proceed ++
    [.hook (.failNext ⟨.send, some 1, .driverError⟩),
      .hook (.failNext ⟨.send, some 0, .invalidArgument⟩)]

/-- The run up to there. -/
def afterStruckBoth : Option Run :=
  broughtUpTwo.1.toOption.bind fun d => turns backwards struckBoth (start d broughtUpTwo.2)

/-- Two workers make steps in turn. -/
def alternately : List Nat := (List.replicate 16 [0, 1]).flatten

/-- The queues of the slots, and which of their workers are ready. -/
def lineup (r : Run) : List (List Pool.Job × Bool) :=
  r.pool.lanes.map fun lane => (lane.queue, lane.worker.isReady)

theorem mem_lineup {lane : Pool.Lane Exchange.Run} (hl : r.pool.lanes[i]? = some lane) :
    (lane.queue, lane.worker.isReady) ∈ r.lineup :=
  List.mem_map_of_mem (List.mem_of_getElem? hl)

theorem ready_struckBoth :
    afterStruckBoth.map (fun r => ((r.device.anyHeld, r.device.faults.map Fault.slot),
      r.pool.closed, r.lineup)) = some
      ((false, [some 1, some 0]), false, [([⟨1, [2, 3]⟩], true), ([⟨0, [1]⟩], true)]) := by
  decide +kernel

theorem isPoised_struckBoth (hr : afterStruckBoth = some r) :
    r.IsPoised ∧ r.lineup = [([⟨1, [2, 3]⟩], true), ([⟨0, [1]⟩], true)] := by
  have hstate := ready_struckBoth
  rw [hr, Option.map_some, Option.some_inj, Prod.mk.injEq, Prod.mk.injEq, Prod.mk.injEq] at hstate
  obtain ⟨⟨hheld, hfaults⟩, hopen, hlineup⟩ := hstate
  obtain ⟨d, hd, hrun⟩ := Option.bind_eq_some_iff.1 hr
  have hrunInv := runInv (Dispatcher.comesUp_of_toOption hd) hrun
  refine ⟨hrunInv.isPoised hheld (fun f hf hnone => ?_) hopen fun i w hw => ?_, hlineup⟩
  · have hslot : f.slot ∈ [some 1, some 0] := hfaults ▸ List.mem_map_of_mem hf
    simp [hnone] at hslot
  · obtain ⟨lane, hl, rfl⟩ := Option.map_eq_some_iff.1 hw
    have hlane := hlineup ▸ mem_lineup hl
    simp only [List.mem_cons, Prod.mk.injEq, List.not_mem_nil, or_false] at hlane
    exact hlane.elim And.right And.right

/-- Both jobs fail before either worker asks the device why, and both are told the failure of the
second one. -/
theorem failures_struckBoth :
    (afterStruckBoth.bind (turns backwards (works alternately))).map (fun r =>
      (r.history.filter Pool.Event.isResolution, r.lineup)) = some
      ([.resolved ⟨1, [2, 3]⟩ 0
          (.error (.deviceOperation .invalidArgument 9 "injected Send fault")),
        .resolved ⟨0, [1]⟩ 1 (.error (.deviceOperation .driverError 9 "injected Send fault"))],
        [([], true), ([], true)]) := by
  decide +kernel

/-- One slot after the other, each job is told its own failure. -/
theorem failures_inTurn_struckBoth :
    (afterStruckBoth.bind (turns backwards (works (inTurn [1, 0] alternately)))).map (fun r =>
      r.history.filter Pool.Event.isResolution) = some
      [.resolved ⟨0, [1]⟩ 1 (.error (.deviceOperation .driverError 9 "injected Send fault")),
        .resolved ⟨1, [2, 3]⟩ 0
          (.error (.deviceOperation .invalidArgument 4 "injected Send fault"))] := by
  decide +kernel

/-- The two runs agree, although a job is not told the same by the device. -/
theorem interleaving_in_turn_struckBoth :
    ∃ r r₁ r₂, r.IsPoised ∧ turns backwards (works alternately) r = some r₁ ∧
      turns backwards (works (inTurn [1, 0] alternately)) r = some r₂ ∧ Agrees r₁ r₂ ∧
      r₂.IsDone ∧ Pool.resolved 0 r₁.history = Pool.resolved 0 r.history ++ [⟨1, [2, 3]⟩] ∧
      .resolved ⟨1, [2, 3]⟩ 0 (.error
        (.deviceOperation .invalidArgument 9 "injected Send fault")) ∈ r₁.history ∧
      .resolved ⟨1, [2, 3]⟩ 0 (.error
        (.deviceOperation .invalidArgument 4 "injected Send fault")) ∈ r₂.history := by
  obtain ⟨r₁, h₁, hends⟩ := Option.map_eq_some_iff.1 failures_struckBoth
  obtain ⟨r, hr, h₁⟩ := Option.bind_eq_some_iff.1 h₁
  obtain ⟨hpoised, hlineup⟩ := isPoised_struckBoth hr
  rw [Prod.mk.injEq] at hends
  obtain ⟨hresolved, hlineup₁⟩ := hends
  have hd₁ : r₁.IsDone := by
    intro i lane hl
    have hlane := hlineup₁ ▸ mem_lineup hl
    simpa using hlane
  have horder : [1, 0].Perm (List.range r.pool.size) := by
    have hsize : r.pool.size = r.lineup.length := (List.length_map _).symm
    rw [hsize, hlineup]
    decide
  obtain ⟨-, -, hinTurn, hdone⟩ := interleaving_in_turn hpoised h₁
  obtain ⟨r₂, h₂, hagrees, hd₂⟩ := hinTurn [1, 0] horder
  refine ⟨r, r₁, r₂, hpoised, h₁, h₂, hagrees, hd₂ hd₁, ?_, ?_, ?_⟩
  · obtain ⟨lane, hl, hqueue⟩ := Option.map_eq_some_iff.1 <|
      List.getElem?_map.symm.trans (congrArg (fun lanes => lanes[0]?) hlineup)
    rw [(hdone hd₁).1 0 lane hl, (Prod.mk.inj hqueue).1]
  · exact List.mem_of_mem_filter (hresolved ▸ List.mem_cons_self)
  · obtain ⟨r₂', h₂', hresolved₂⟩ := Option.map_eq_some_iff.1 failures_inTurn_struckBoth
    rw [hr, Option.bind_some, h₂] at h₂'
    obtain rfl := Option.some_inj.1 h₂'
    exact List.mem_of_mem_filter (hresolved₂ ▸ List.mem_cons_of_mem _ List.mem_cons_self)

end Run

end Offload.Station

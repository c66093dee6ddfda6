/-
**Jobs that slip in behind a worker.**

A worker that has found its queue empty looks next whether the pool is closed, and stops if it is.
A job that joins the queue in between is left behind when the pool is closed in between, too.  This
is the only way in which a worker can leave a job behind.

Main definitions:

* `Pool.Lane.stopsEmpty` — a worker that has stopped has emptied its queue before;
* `Station.Run.Overtaken` — the pool was closed between the two looks of a worker, with a job behind
  its back.

Main results:

* `Pool.stopsEmptyAt_of_transition` — a step leaves jobs behind in this way only;
* `Station.Run.stopsEmptyAt_or_overtaken` — **so no run leaves jobs behind in any other way**.
-/

import Offload.Proofs.Dispatcher.TearDown

set_option autoImplicit false
set_option relaxedAutoImplicit false

/-! ### The steps of a pool -/

namespace Offload.Pool

variable {ρ S : Type} {exec : Executor ρ S} {s s' : Scheduler ρ S} {e : Option Event}
  {move : Move} {slot : Nat}

/-- A worker that has stopped, or is about to, has been told so by a closed pool and has emptied its
queue before. -/
def Lane.stopsEmpty (closed : Bool) (lane : Lane ρ) : Bool :=
  match lane.worker with
  | .doubting => !closed || lane.queue.isEmpty
  | .stopping | .stopped => closed && lane.queue.isEmpty
  | _ => true

/-- If the worker of the slot has stopped, it has left nothing in the queue. -/
def StopsEmptyAt (slot : Nat) (p : Pool ρ) : Prop :=
  ∀ lane, p.lanes[slot]? = some lane → lane.stopsEmpty p.closed = true

theorem StopsEmptyAt.of_modify {p p' : Pool ρ} {j : Nat} {change : Lane ρ → Lane ρ}
    (hp : p.StopsEmptyAt slot) (hlanes : p'.lanes = p.lanes.modify j change)
    (hclosed : p'.closed = p.closed)
    (hchange : ∀ lane, p.lanes[j]? = some lane → lane.stopsEmpty p.closed = true →
      (change lane).stopsEmpty p.closed = true) : p'.StopsEmptyAt slot := by
  intro lane' hl'
  rw [hclosed]
  rw [hlanes] at hl'
  rcases lane_of_modifyLane hl' with ⟨-, hl⟩ | ⟨rfl, lane, hl, rfl⟩
  · exact hp lane' hl
  · exact hchange lane hl (hp lane hl)

theorem StopsEmptyAt.of_setWorker {p p' : Pool ρ} {j : Nat} {worker : Worker ρ}
    (hp : p.StopsEmptyAt slot) (hlanes : p'.lanes = (p.setWorker j worker).lanes)
    (hclosed : p'.closed = p.closed)
    (hworker : ∀ lane, p.lanes[j]? = some lane → lane.stopsEmpty p.closed = true →
      ({ lane with worker } : Lane ρ).stopsEmpty p.closed = true) : p'.StopsEmptyAt slot :=
  hp.of_modify hlanes hclosed hworker

/-- A worker that has a job has not stopped. -/
theorem Lane.stopsEmpty_afterFinish (closed : Bool) (lane : Lane ρ) (f : Option Finish) :
    ({ lane with worker := .afterFinish f } : Lane ρ).stopsEmpty closed = true := by
  cases f <;> rfl

/-- **A step leaves no job behind**, unless it closes the pool while a worker is between its two
looks and a job has joined the queue since the first one. -/
theorem stopsEmptyAt_of_transition (ht : Scheduler.Transition exec s move e s')
    (hphased : s.pool.Phased) (hp : s.pool.StopsEmptyAt slot) :
    s'.pool.StopsEmptyAt slot ∨ move = .close ∧ s'.pool.closed = true ∧
      ∃ lane, s.pool.lanes[slot]? = some lane ∧ lane.worker = .doubting ∧ lane.queue ≠ [] := by
  cases ht with
  | close hsub hopen =>
      by_cases h : ∃ lane, s.pool.lanes[slot]? = some lane ∧ lane.worker = .doubting ∧
          lane.queue ≠ []
      · exact Or.inr ⟨rfl, rfl, h⟩
      · refine Or.inl fun lane hl => ?_
        have hstops := hp lane hl
        rw [hopen] at hstops
        show lane.stopsEmpty true = true
        cases hw : lane.worker with
        | doubting =>
            have hq : lane.queue = [] := by
              by_contra hq
              exact h ⟨lane, hl, hw, hq⟩
            simp [Lane.stopsEmpty, hw, hq]
        | stopping | stopped => simp [Lane.stopsEmpty, hw] at hstops
        | _ => simp [Lane.stopsEmpty, hw]
  | lock | refuse | enter | glanceFree | glanceBusy | scanFree | scanBusy | scanOut
  | countSubmitted | closeAgain | join | joined | drainNext | drained => exact Or.inl hp
  | enlist | deepen => exact Or.inl (hp.of_modify rfl rfl fun _ _ hstops => hstops)
  | accept job hsub =>
      -- nobody submits to a closed pool
      have hopen : s.pool.closed = false := by
        cases hclosed : s.pool.closed with
        | false => rfl
        | true => cases hphased.entering hclosed _ hsub
      refine Or.inl (hp.of_modify rfl rfl fun lane _ hstops => ?_)
      rw [hopen] at hstops ⊢
      cases hw : lane.worker <;> simp_all [Lane.stopsEmpty]
  | drainFind _ lane job queue _ hl hq =>
      refine Or.inl (hp.of_modify rfl rfl fun lane' hl' hstops => ?_)
      obtain rfl : lane = lane' := Option.some_inj.1 (hl.symm.trans hl')
      cases hw : lane.worker <;> simp_all [Lane.stopsEmpty]
  | find _ _ _ _ hl => exact Or.inl (hp.of_modify rfl rfl fun _ _ _ => rfl)
  | miss _ _ hl hw hq =>
      refine Or.inl (hp.of_setWorker rfl rfl fun lane hl' _ => ?_)
      cases hl.symm.trans hl'
      simp [Lane.stopsEmpty, hq]
  | doubtClosed _ _ hl hw hclosed =>
      refine Or.inl (hp.of_setWorker rfl rfl fun lane hl' hstops => ?_)
      cases hl.symm.trans hl'
      simp_all [Lane.stopsEmpty]
  | stop _ _ hl hw =>
      refine Or.inl (hp.of_setWorker rfl rfl fun lane hl' hstops => ?_)
      cases hl.symm.trans hl'
      simpa [Lane.stopsEmpty, hw] using hstops
  | start | reject | begin | goOn | «return» | die | doubtOpen =>
      exact Or.inl (hp.of_setWorker rfl rfl fun _ _ _ => rfl)
  | finish j lane f f' e t _ _ hf =>
      obtain ⟨change, -, hfin⟩ := Scheduler.laneFinish_of_finishing hf
      exact Or.inl (hp.of_modify (hfin.lanes_setWorker _) hfin.closed
        fun _ _ _ => Lane.stopsEmpty_afterFinish _ _ _)
  | drainFinish j f f' e t _ hf =>
      obtain ⟨change, -, hfin⟩ := Scheduler.laneFinish_of_finishing hf
      exact Or.inl (hp.of_modify hfin.lanes hfin.closed fun _ _ hstops => hstops)

end Offload.Pool

/-! ### Runs -/

namespace Offload.Station

open Native Simulator

variable {compute : UInt32 → Bytes → Bytes} {setup : Setup} {n i : Nat} {r r' : Run} {t : Turn}
  {ts : List Turn}

/-- The worker of the slot has found its queue empty and is about to look whether the pool is
closed, a job has joined its queue since, and the teardown is about to close the pool. -/
def Run.IsOvertaking (r : Run) (i : Nat) : Prop :=
  r.station.dispatcher.teardown = .stopping ∧
    ∃ lane, r.pool.lanes[i]? = some lane ∧ lane.worker = .doubting ∧ lane.queue ≠ []

/-- In the course of the turns the pool is closed behind the back of the worker of the slot. -/
def Run.Overtaken (compute : UInt32 → Bytes → Bytes) (i : Nat) (ts : List Turn) (r : Run) : Prop :=
  ∃ ts₁ ts₂ r₁, ts = ts₁ ++ .move .wind :: ts₂ ∧ turns compute ts₁ r = some r₁ ∧ r₁.IsOvertaking i

theorem Run.Overtaken.cons (ht : r.turn compute t = some r') (h : Overtaken compute i ts r') :
    Overtaken compute i (t :: ts) r := by
  obtain ⟨ts₁, ts₂, r₁, rfl, hr₁, hlate⟩ := h
  exact ⟨t :: ts₁, ts₂, r₁, rfl, (foldlM_cons_of_eq_some ht).trans hr₁, hlate⟩

/-- **A turn leaves no job behind**, unless it overtakes a worker. -/
theorem Run.stopsEmptyAt_turn (hs : RunInv compute setup n r) (hp : r.pool.StopsEmptyAt i)
    (ht : r.turn compute t = some r') :
    r'.pool.StopsEmptyAt i ∨ t = .move .wind ∧ r.IsOvertaking i ∧ r'.pool.closed = true := by
  cases Run.turned_of_turn ht with
  | execute input e s hstep =>
      cases hstep with
      | turnAway | takeIn => exact Or.inl hp
      | pool _ _ _ _ _ _ hd => cases hd
  | move move e s _ hstep =>
      cases hstep with
      | pool _ _ _ _ _ q hd hq =>
          rcases Pool.stopsEmptyAt_of_transition hq hs.sound.phased hp with h | ⟨hmove, hclosed, h⟩
          · exact Or.inl h
          · cases hmove
            cases hd with
            | stop hteardown => exact Or.inr ⟨rfl, ⟨hteardown, h⟩, hclosed⟩
      | _ => exact Or.inl hp
  | hook | operate | look | take => exact Or.inl hp

/-- **A run leaves no job behind**, unless it overtakes a worker. -/
theorem Run.stopsEmptyAt_or_overtaken (hs : RunInv compute setup n r) (hp : r.pool.StopsEmptyAt i)
    (hr : turns compute ts r = some r') :
    r'.pool.StopsEmptyAt i ∨ Overtaken compute i ts r ∧ r'.pool.closed = true := by
  induction ts generalizing r with
  | nil =>
      obtain rfl : r = r' := Option.some_inj.1 hr
      exact Or.inl hp
  | cons t ts ih =>
      obtain ⟨r₁, ht, hr₁⟩ := Option.bind_eq_some_iff.1 hr
      rcases Run.stopsEmptyAt_turn hs hp ht with hp₁ | ⟨rfl, hlate, hclosed⟩
      · exact (ih (hs.turn ht) hp₁ hr₁).imp_right fun h => ⟨h.1.cons ht, h.2⟩
      · refine Or.inr ⟨⟨[], ts, r, rfl, rfl, hlate⟩, ?_⟩
        exact foldlM_induction (motive := fun r => r.pool.closed = true) hr₁ hclosed
          fun _ _ _ hclosed ht => (closed_turn ht hclosed).1

theorem Run.stopsEmptyAt_start {d : Dispatcher} {w : World Simulator} (hd : d.IsUp setup) :
    (start d w).pool.StopsEmptyAt i := by
  intro lane hl
  have hl' : d.pool.lanes[i]? = some lane := hl
  rw [hd.pool] at hl'
  obtain rfl := List.eq_of_mem_replicate (List.mem_of_getElem? hl')
  rfl

end Offload.Station

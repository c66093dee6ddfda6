/-
**Two runs seen from one slot.**

Two runs are abreast on a slot when its worker stands at the same place in both, with the same jobs,
and calls about the slot cannot tell the states of the device apart.  The step of the worker then
comes to the same in both, and the steps of all other workers are not seen.

Main definitions:

* `Pool.Event.blurred`, `Pool.happened` — events without the device's own account of a failure, and
  those of one slot;
* `Station.SameStand` — workers that stand at the same place;
* `Station.Underway` — **what holds as long as workers only make steps**;
* `Station.Abreast` — **two runs that are abreast on a slot**.

Main results:

* `Station.Abreast.work` — **the step of the worker comes to the same in both runs**;
* `Station.Abreast.aside` — **the steps of other workers are not seen**;
* `Station.Underway.work` — the invariant.
-/

import Offload.Proofs.Device.Lockstep
import Offload.Proofs.Device.Slotwise
import Offload.Proofs.Dispatcher.Progress
import Offload.Proofs.Pool.Working

set_option autoImplicit false
set_option relaxedAutoImplicit false

namespace Offload

open Native Simulator

/-! ### Outcomes but for the account of a failure -/

namespace Pool

/-- An event without the device's own account of a failure. -/
def Event.blurred : Event → Event
  | .returned job slot outcome => .returned job slot (Outcome.blurred outcome)
  | .resolved job slot outcome => .resolved job slot (Outcome.blurred outcome)
  | e => e

/-- What happened on a slot, without the device's own account of failures. -/
def happened (slot : Nat) (h : History) : History :=
  (h.filter fun e => e.slot? = some slot).map Event.blurred

theorem happened_append (slot : Nat) (h h' : History) :
    happened slot (h ++ h') = happened slot h ++ happened slot h' := by
  simp [happened]

theorem happened_of_slot?_ne {slot : Nat} {e : Option Event}
    (he : ∀ e', e = some e' → e'.slot? ≠ some slot) : happened slot e.toList = [] := by
  cases e with
  | none => rfl
  | some e => simp [happened, he e rfl]

theorem happened_toList {slot : Nat} {e e' : Option Event}
    (h : e'.map Event.blurred = e.map Event.blurred)
    (he : ∀ e₁, e = some e₁ → e₁.slot? = some slot)
    (he' : ∀ e₁, e' = some e₁ → e₁.slot? = some slot) :
    happened slot e'.toList = happened slot e.toList := by
  cases e with
  | none =>
      obtain rfl : e' = none := by simpa using h
      rfl
  | some e =>
      obtain ⟨e', rfl, hsame⟩ := Option.map_eq_some_iff.1 h
      simp [happened, he e rfl, he' e' rfl, hsame]

/-- The account of a failure does not tell which jobs are resolved. -/
theorem resolved_happened (slot : Nat) (h : History) :
    resolved slot (happened slot h) = resolved slot h := by
  have hjob : Event.job ∘ Event.blurred = Event.job := funext fun e => by cases e <;> rfl
  rw [resolved, resolved, jobsOf, jobsOf, happened, List.filter_map, List.filter_filter,
    List.map_map, hjob]
  refine congrArg (List.map Event.job) (List.filter_congr fun e _ => ?_)
  cases e <;> simp [Event.blurred, Event.slot?]

/-- What is left of finishing a job, whoever has to be woken. -/
def FinishStep.blurred : FinishStep → FinishStep
  | .wake _ => .wake none
  | next => next

/-- A job that is being finished, whoever has to be woken, without the account of a failure. -/
def Finish.blurred (f : Finish) : Finish := ⟨f.job, Outcome.blurred f.outcome, f.next.blurred⟩

theorem laneFinish_blurred {slot : Nat} {f f' : Finish} {g g' : Option Finish}
    {e e' : Option Event} {change change' : Nat → Nat} (h : f'.blurred = f.blurred)
    (hf : LaneFinish slot f g e change) (hf' : LaneFinish slot f' g' e' change') :
    g'.map Finish.blurred = g.map Finish.blurred ∧ e'.map Event.blurred = e.map Event.blurred := by
  cases hf <;> cases hf' <;>
    simp_all [Finish.blurred, FinishStep.blurred, Event.blurred]

end Pool

namespace Station

variable {compute : UInt32 → Bytes → Bytes} {n i j : Nat} {r s r₁ s₁ t : Run}

/-! ### One worker -/

/-- Workers that stand at the same place, with the same job. -/
inductive SameStand : Pool.Worker Exchange.Run → Pool.Worker Exchange.Run → Prop
  | ready (w : Pool.Worker Exchange.Run) (hw : w.isReady = true) : SameStand w w
  | holding (job : Pool.Job) : SameStand (.holding job) (.holding job)
  | running (job : Pool.Job) (run run' : Exchange.Run) (h : run.Alike run') :
      SameStand (.running job run) (.running job run')
  | finishing (f f' : Pool.Finish) (h : f'.blurred = f.blurred) :
      SameStand (.finishing f) (.finishing f')

theorem SameStand.isActive {w w' : Pool.Worker Exchange.Run} (h : SameStand w w') :
    w'.isActive = true := by
  cases h with
  | ready _ hw => exact Pool.Worker.isActive_of_isReady hw
  | _ => rfl

theorem sameStand_afterFinish {f f' : Option Pool.Finish}
    (h : f'.map Pool.Finish.blurred = f.map Pool.Finish.blurred) :
    SameStand (.afterFinish f) (.afterFinish f') := by
  cases f with
  | none =>
      obtain rfl : f' = none := by simpa using h
      exact .ready _ rfl
  | some f =>
      obtain ⟨f', rfl, hsame⟩ := Option.map_eq_some_iff.1 h
      exact .finishing f f' hsame

theorem SameStand.symm {w w' : Pool.Worker Exchange.Run} (h : SameStand w w') : SameStand w' w := by
  cases h with
  | ready w hw => exact .ready w hw
  | holding job => exact .holding job
  | running job run run' h => exact .running job run' run h.symm
  | finishing f f' h => exact .finishing f' f h.symm

theorem SameStand.trans {w w' w'' : Pool.Worker Exchange.Run} (h : SameStand w w')
    (h' : SameStand w' w'') : SameStand w w'' := by
  cases h with
  | ready w hw => exact h'
  | holding job => exact h'
  | running job run run' h =>
      cases h' with
      | ready _ hw => cases hw
      | running _ _ run'' h' => exact .running job run run'' (h.trans h')
  | finishing f f' h =>
      cases h' with
      | ready _ hw => cases hw
      | finishing _ f'' h' => exact .finishing f f'' (h'.trans h)

/-- What comes of two steps of a worker. -/
structure SameStep (i : Nat) (site site' site₁ site₁' : Exchange.Site Simulator)
    (queue queue' : List Pool.Job) (w w' : Pool.Worker Exchange.Run)
    (e e' : Option Pool.Event) : Prop where
  queue : queue' = queue
  stand : SameStand w w'
  event : e'.map Pool.Event.blurred = e.map Pool.Event.blurred
  sites : Exchange.InStep (UInt32.ofNat i) site site' site₁ site₁'

theorem sameStep_of_lockstep {site site' site₁ site₁' : Exchange.Site Simulator}
    {queue queue₁ queue₁' : List Pool.Job} {job : Pool.Job} {run run' : Exchange.Run}
    {w₁ w₁' : Pool.Worker Exchange.Run} {e e' : Option Pool.Event}
    (hworking : Pool.Working (executor (driver compute) patience) i site queue (.running job run)
      queue₁ w₁ e site₁)
    (hworking' : Pool.Working (executor (driver compute) patience) i site' queue (.running job run')
      queue₁' w₁' e' site₁')
    (hquiet : Exchange.InStep (UInt32.ofNat i) site site' site site')
    (hlockstep : Exchange.Lockstep (UInt32.ofNat i) site site'
      (Exchange.step (driver compute) i run site) (Exchange.step (driver compute) i run' site')) :
    SameStep i site site' site₁ site₁' queue₁ queue₁' w₁ w₁' e e' := by
  generalize hstep : Exchange.step (driver compute) i run site = next at hlockstep
  generalize hstep' : Exchange.step (driver compute) i run' site' = next' at hlockstep
  cases hlockstep with
  | continues _ _ _ _ hrun hsites =>
      obtain ⟨rfl, rfl, rfl, rfl⟩ := hworking.of_continues hstep
      obtain ⟨rfl, rfl, rfl, rfl⟩ := hworking'.of_continues hstep'
      exact ⟨rfl, .running job _ _ hrun, rfl, hsites⟩
  | returned _ _ hsame =>
      obtain ⟨rfl, rfl, rfl, rfl⟩ := hworking.of_returned hstep
      obtain ⟨rfl, rfl, rfl, rfl⟩ := hworking'.of_returned hstep'
      refine ⟨rfl, .finishing _ _ ?_, ?_, hquiet⟩
      · simp [Pool.Finish.begin, Pool.Finish.blurred, hsame]
      · simp [Pool.Event.blurred, hsame]

/-- **The steps of workers that stand at the same place come to the same.** -/
theorem sameStep_of_working {site site' site₁ site₁' : Exchange.Site Simulator}
    {queue queue₁ queue₁' : List Pool.Job} {w w' w₁ w₁' : Pool.Worker Exchange.Run}
    {e e' : Option Pool.Event}
    (hworking : Pool.Working (executor (driver compute) patience) i site queue w queue₁ w₁ e site₁)
    (hworking' : Pool.Working (executor (driver compute) patience) i site' queue w' queue₁' w₁' e'
      site₁')
    (hstand : SameStand w w') (hdevice : site'.device = site.device)
    (hlevel : Level (UInt32.ofNat i) site.world.driver site'.world.driver)
    (hlockstep : ∀ job run run', w = .running job run → run.Alike run' →
      Exchange.Lockstep (UInt32.ofNat i) site site' (Exchange.step (driver compute) i run site)
        (Exchange.step (driver compute) i run' site')) :
    SameStep i site site' site₁ site₁' queue₁ queue₁' w₁ w₁' e e' := by
  have hquiet : Exchange.InStep (UInt32.ofNat i) site site' site site' :=
    Exchange.inStep_of_driver_eq hlevel rfl rfl rfl rfl
  cases hstand with
  | ready w hw =>
      cases hworking with
      | start =>
          cases hworking' with
          | start =>
              exact ⟨rfl, .ready _ rfl, rfl,
                Exchange.inStep_of_driver_eq hlevel rfl rfl rfl rfl⟩
      | miss => cases hworking' with | miss => exact ⟨rfl, .ready _ rfl, rfl, hquiet⟩
      | find job => cases hworking' with | find => exact ⟨rfl, .holding job, rfl, hquiet⟩
      | doubt => cases hworking' with | doubt => exact ⟨rfl, .ready _ rfl, rfl, hquiet⟩
      | _ => cases hw
  | holding job =>
      cases hworking with
      | begin =>
          cases hworking' with
          | begin =>
              refine ⟨rfl, ?_, rfl, hquiet⟩
              have halike := Exchange.alike_begin site.device (UInt32.ofNat i) job.input
              have hbegin : (Exchange.begin i job.input site').1 =
                  (Exchange.begin i job.input site).1 := by
                rw [Exchange.begin, Exchange.begin, hdevice]
              refine .running job _ _ ?_
              show Exchange.Run.Alike _ (Exchange.begin i job.input site').1
              rw [hbegin]
              exact halike
  | running job run run' h =>
      exact sameStep_of_lockstep hworking hworking' hquiet (hlockstep job run run' rfl h)
  | finishing f f' h =>
      cases hworking with
      | finish _ _ _ _ _ hf =>
          cases hworking' with
          | finish _ _ _ _ _ hf' =>
              obtain ⟨hnext, hevent⟩ := Pool.laneFinish_blurred h hf hf'
              exact ⟨rfl, sameStand_afterFinish hnext, hevent, hquiet⟩

/-! ### A step of a worker, in a run -/

/-- The next step of the worker of a slot. -/
abbrev workOf (i : Nat) : Turn := .move (.work i)

theorem Run.worked_turn (hopen : r.pool.closed = false) (ht : r.turn compute (workOf i) = some r₁) :
    ∃ e lane lane', Pool.Worked (executor (driver compute) patience) i r.station.scheduler
      r₁.station.scheduler e lane lane' ∧ r₁.history = r.history ++ e.toList := by
  obtain ⟨⟨station, e⟩, hstep, rfl⟩ := Option.map_eq_some_iff.1 ht
  obtain ⟨q, hq, rfl⟩ := poolStep_eq hstep
  obtain ⟨lane, lane', h⟩ := Pool.worked_of_transition hopen hq
  exact ⟨e, lane, lane', ⟨h.before, h.after, h.working, h.others, h.size, h.closed⟩, rfl⟩

theorem Run.exists_turn_work {lane : Pool.Lane Exchange.Run} (hl : r.pool.lanes[i]? = some lane)
    (hactive : lane.worker.isActive = true)
    (hblocked : ∀ job run, lane.worker = .running job run →
      Exchange.step (driver compute) i run r.station.scheduler.shared ≠ .blocked) :
    ∃ r₁, r.turn compute (workOf i) = some r₁ := by
  have hstep : (r.station.scheduler.step (executor (driver compute) patience)
      (.work i)).isSome = true := Pool.isSome_work hl hactive hblocked
  refine Option.isSome_iff_exists.1 ?_
  simpa [Run.turn, Move.isExecution, step, poolStep] using hstep

/-! ### What holds while workers make their steps -/

/-- What holds as long as workers only make steps: the device is in session, every slot has a worker
and is not held, every fault names a slot, the pool is open, no worker has been stopped, and the
exchanges that are running keep to their slots, do not go by the account of a failure and are near
their ends. -/
structure Underway (compute : UInt32 → Bytes → Bytes) (n : Nat) (r : Run) : Prop where
  session : r.station.dispatcher.device.session = some ⟨token, n⟩
  slots : r.device.slots.length = r.device.setup.bufferCount.toNat
  workers : r.pool.size = r.device.setup.bufferCount.toNat
  released : ∀ slot, r.device.isHeld slot = false
  named : IsNamed r.device.faults
  admits : r.pool.closed = false
  active : ∀ i w, r.pool.worker? i = some w → w.isActive = true
  alike : ∀ i job run, r.pool.worker? i = some (.running job run) → run.Alike run
  keeps : ∀ i job run, r.pool.worker? i = some (.running job run) →
    run.rest.Meets (Exchange.slotSpec compute (UInt32.ofNat i))
      (fun end' _ => Exchange.IsOpenEnd end') ()
  paced : r.IsPaced

/-- Two runs that are abreast on a slot. -/
structure Abreast (i : Nat) (r s : Run) : Prop where
  device : s.station.dispatcher.device = r.station.dispatcher.device
  level : Level (UInt32.ofNat i) r.device s.device
  lanes : ∃ lane lane', r.pool.lanes[i]? = some lane ∧ s.pool.lanes[i]? = some lane' ∧
    lane'.queue = lane.queue ∧ SameStand lane.worker lane'.worker
  happened : Pool.happened i s.history = Pool.happened i r.history

/-- A step of the worker of a slot is confined to the slot, but for what it takes from what all
slots share. -/
structure Confined (i : Nat) (used : Option Operation) (extra : Nat) (r r₁ : Run) : Prop where
  device : r₁.station.dispatcher.device = r.station.dispatcher.device
  pays : Pays (UInt32.ofNat i) used extra r.device r₁.device
  lanes : ∀ k, k ≠ i → r₁.pool.lanes[k]? = r.pool.lanes[k]?
  happened : ∀ k, k ≠ i → Pool.happened k r₁.history = Pool.happened k r.history
  size : r₁.pool.size = r.pool.size
  closed : r₁.pool.closed = r.pool.closed

/-- What the step of a worker shows is on its slot. -/
theorem confined_of_worked {e : Option Pool.Event} {lane lane' : Pool.Lane Exchange.Run}
    {used : Option Operation} {extra : Nat}
    (h : Pool.Worked (executor (driver compute) patience) i r.station.scheduler
      r₁.station.scheduler e lane lane')
    (hhistory : r₁.history = r.history ++ e.toList)
    (hdevice : r₁.station.dispatcher.device = r.station.dispatcher.device)
    (hpays : Pays (UInt32.ofNat i) used extra r.device r₁.device) :
    Confined i used extra r r₁ := by
  refine ⟨hdevice, hpays, h.others, fun k hk => ?_, h.size, h.closed⟩
  rw [hhistory, Pool.happened_append, Pool.happened_of_slot?_ne, List.append_nil]
  intro e' he hslot
  exact hk (Option.some_inj.1 (hslot.symm.trans (h.working.slot?_eq e' he)))

namespace Underway

theorem toNat_ofNat (hu : Underway compute n r) (hi : i < r.pool.size) :
    (UInt32.ofNat i).toNat = i := by
  have hlt : i < r.device.setup.bufferCount.toNat := hu.workers ▸ hi
  have hbound := r.device.setup.bufferCount.toNat_lt
  rw [UInt32.toNat_ofNat', Nat.mod_eq_of_lt (by omega)]

theorem ofNat_ne (hu : Underway compute n r) (hi : i < r.pool.size) (hj : j < r.pool.size)
    (hne : i ≠ j) : UInt32.ofNat i ≠ UInt32.ofNat j := by
  intro h
  have := congrArg UInt32.toNat h
  rw [hu.toNat_ofNat hi, hu.toNat_ofNat hj] at this
  exact hne this

theorem slot?_ne_none (hu : Underway compute n r) (hi : i < r.pool.size) :
    r.device.slot? (UInt32.ofNat i) ≠ none := by
  have hlt : i < r.device.slots.length := by rw [hu.slots, ← hu.workers]; exact hi
  rw [slot?, hu.toNat_ofNat hi, List.getElem?_eq_getElem hlt]
  simp

theorem about (hu : Underway compute n r) {job : Pool.Job} {run : Exchange.Run}
    (hw : r.pool.worker? i = some (.running job run)) (o : Op)
    (next : o.Answer → Program (Option (Outcome Bytes))) (hrest : run.rest = .step o next) :
    Exchange.IsAbout (UInt32.ofNat i) o := by
  have hmeets := hu.keeps i job run hw
  rw [hrest] at hmeets
  exact hmeets.1

theorem abreast_self (hu : Underway compute n r) (hi : i < r.pool.size) : Abreast i r r := by
  obtain ⟨lane, hl⟩ := Pool.exists_lane hi
  have hworker := Pool.worker?_of_lane hl
  refine ⟨rfl, .refl _ hu.named, ⟨lane, lane, hl, hl, rfl, ?_⟩, rfl⟩
  cases hw : lane.worker with
  | starting | looking | doubting => exact .ready _ rfl
  | holding job => exact .holding job
  | running job run => exact .running job run run (hu.alike i job run (hworker.trans (by rw [hw])))
  | finishing f => exact .finishing f f rfl
  | stopping | stopped | died =>
      have hactive := hu.active i _ hworker
      rw [hw] at hactive
      cases hactive

/-- The steps of an exchange on a run that is abreast. -/
theorem lockstep (hu : Underway compute n r) (h : Abreast i r s) {lane : Pool.Lane Exchange.Run}
    (hl : r.pool.lanes[i]? = some lane) {job : Pool.Job} {run run' : Exchange.Run}
    (hw : lane.worker = .running job run) (halike : run.Alike run') :
    Exchange.Lockstep (UInt32.ofNat i) r.station.scheduler.shared s.station.scheduler.shared
      (Exchange.step (driver compute) i run r.station.scheduler.shared)
      (Exchange.step (driver compute) i run' s.station.scheduler.shared) := by
  have hworker : r.pool.worker? i = some (.running job run) := by
    rw [Pool.worker?_of_lane hl, hw]
  have hi := Pool.lt_size_of_lane hl
  exact Exchange.lockstep_step halike h.level h.device (hu.about hworker) (hu.slot?_ne_none hi)
    (hu.released _)

end Underway

namespace Abreast

theorem size_lt (h : Abreast i r s) : i < r.pool.size := by
  obtain ⟨lane, -, hl, -⟩ := h.lanes
  exact Pool.lt_size_of_lane hl

/-- **The step of the worker comes to the same in both runs**, and costs the same. -/
theorem work (hr : Underway compute n r) (hs : Underway compute n s) (h : Abreast i r s)
    (ht : r.turn compute (workOf i) = some r₁) :
    ∃ s₁, s.turn compute (workOf i) = some s₁ ∧ Abreast i r₁ s₁ ∧
      ∃ used extra, Confined i used extra r r₁ ∧ Confined i used extra s s₁ := by
  obtain ⟨e, lane, lane₁, hworked, hhistory⟩ := Run.worked_turn hr.admits ht
  obtain ⟨lane₀, lane', hl₀, hl', hqueue, hstand⟩ := h.lanes
  obtain rfl : lane₀ = lane := Option.some_inj.1 (hl₀.symm.trans hworked.before)
  have hlockstep := fun (job : Pool.Job) (run run' : Exchange.Run)
    (hw : lane₀.worker = .running job run) (halike : run.Alike run') =>
      hr.lockstep h hl₀ hw halike
  -- the other worker can make a step, too: its job is not blocked
  obtain ⟨s₁, hs₁⟩ : ∃ s₁, s.turn compute (workOf i) = some s₁ := by
    refine Run.exists_turn_work hl' hstand.isActive fun job run' hw' hblocked => ?_
    rw [hw'] at hstand
    generalize hw : lane₀.worker = w at hstand
    cases hstand with
    | ready _ hready => cases hready
    | running _ run _ halike => exact (hlockstep job run run' hw halike).ne_blocked.2 hblocked
  obtain ⟨e', lane'₀, lane₁', hworked', hhistory'⟩ := Run.worked_turn hs.admits hs₁
  obtain rfl : lane'₀ = lane' := Option.some_inj.1 (hworked'.before.symm.trans hl')
  have hworking' := hworked'.working
  rw [hqueue] at hworking'
  have hsame := sameStep_of_working hworked.working hworking' hstand h.device h.level hlockstep
  obtain ⟨used, extra, hpays, hpays'⟩ := hsame.sites.pays
  refine ⟨s₁, hs₁, ⟨?_, hsame.sites.level, ⟨lane₁, lane₁', hworked.after, hworked'.after,
    hsame.queue, hsame.stand⟩, ?_⟩, used, extra,
    confined_of_worked hworked hhistory hsame.sites.device hpays,
    confined_of_worked hworked' hhistory' hsame.sites.device' hpays'⟩
  · exact hsame.sites.device'.trans (h.device.trans hsame.sites.device.symm)
  · rw [hhistory, hhistory', Pool.happened_append, Pool.happened_append, h.happened,
      Pool.happened_toList hsame.event hworked.working.slot?_eq hworking'.slot?_eq]

/-- **The steps of other workers are not seen.** -/
theorem aside (hr : Underway compute n r) (h : Abreast i r s) (hne : i ≠ j)
    {used : Option Operation} {extra : Nat} (hj : j < r.pool.size)
    (hconfined : Confined j used extra r r₁) :
    Abreast i r₁ s := by
  obtain ⟨lane, lane', hl, hlanes⟩ := h.lanes
  have hlevel : Level (UInt32.ofNat i) r.device r₁.device :=
    hconfined.pays.level (hr.ofNat_ne hj h.size_lt (Ne.symm hne)) hr.named
  refine ⟨h.device.trans hconfined.device.symm, hlevel.symm.trans h.level,
    ⟨lane, lane', ?_, hlanes⟩, h.happened.trans (hconfined.happened i hne).symm⟩
  rw [hconfined.lanes i hne, hl]

theorem symm (h : Abreast i r s) : Abreast i s r := by
  obtain ⟨lane, lane', hl, hl', hqueue, hstand⟩ := h.lanes
  exact ⟨h.device.symm, h.level.symm, ⟨lane', lane, hl', hl, hqueue.symm, hstand.symm⟩,
    h.happened.symm⟩

theorem trans (h : Abreast i r s) (h' : Abreast i s t) : Abreast i r t := by
  obtain ⟨lane, lane', hl, hl', hqueue, hstand⟩ := h.lanes
  obtain ⟨lane'₀, lane'', hl'₀, hl'', hqueue', hstand'⟩ := h'.lanes
  obtain rfl : lane'₀ = lane' := Option.some_inj.1 (hl'₀.symm.trans hl')
  exact ⟨h'.device.trans h.device, h.level.trans h'.level,
    ⟨lane, lane'', hl, hl'', hqueue'.trans hqueue, hstand.trans hstand'⟩,
    h'.happened.trans h.happened⟩

end Abreast

/-! ### The invariant -/

theorem Underway.confined_work (hu : Underway compute n r)
    (ht : r.turn compute (workOf i) = some r₁) :
    i < r.pool.size ∧ ∃ used extra, Confined i used extra r r₁ := by
  obtain ⟨e, lane, lane₁, hworked, -⟩ := Run.worked_turn hu.admits ht
  have hi : i < r.pool.size := Pool.lt_size_of_lane hworked.before
  obtain ⟨-, -, -, used, extra, hconfined, -⟩ := (hu.abreast_self hi).work hu hu ht
  exact ⟨hi, used, extra, hconfined⟩

theorem Confined.worker?_eq {used : Option Operation} {extra k : Nat}
    (h : Confined i used extra r r₁) (hk : k ≠ i) : r₁.pool.worker? k = r.pool.worker? k := by
  rw [Pool.worker?, Pool.worker?, h.lanes k hk]

/-- The job of a worker does not take it along. -/
theorem Underway.not_died (hu : Underway compute n r) {job : Pool.Job} {run : Exchange.Run}
    (hw : r.pool.worker? i = some (.running job run)) (site : Exchange.Site Simulator) :
    Exchange.step (driver compute) i run r.station.scheduler.shared ≠ .died site := by
  obtain ⟨lane, hl, hlane⟩ := Option.map_eq_some_iff.1 hw
  have habreast := hu.abreast_self (Pool.lt_size_of_lane hl)
  exact (hu.lockstep habreast hl hlane (hu.alike i job run hw)).ne_died

theorem Underway.running_work (hu : Underway compute n r) {queue queue₁ : List Pool.Job}
    {w w₁ : Pool.Worker Exchange.Run} {e : Option Pool.Event} {site : Exchange.Site Simulator}
    (hw : r.pool.worker? i = some w)
    (h : Pool.Working (executor (driver compute) patience) i r.station.scheduler.shared queue w
      queue₁ w₁ e site) :
    (∀ slot, Eases slot r.device site.world.driver) ∧
      ∀ job run, w₁ = .running job run →
        run.rest.Meets (Exchange.slotSpec compute (UInt32.ofNat i))
          (fun end' _ => Exchange.IsOpenEnd end') () ∧
        ∃ polls m, Exchange.Nears polls run.rest m := by
  cases h with
  | begin _ job =>
      refine ⟨fun _ => .refl _ _, ?_⟩
      rintro _ _ ⟨⟩
      exact ⟨Exchange.slotwise_deviceRound hu.session job.input, 0, _,
        Exchange.nears_deviceRound _ _ _ 0⟩
  | goOn _ job run run' _ hstep =>
      refine ⟨fun _ => eases_of_continues hstep, ?_⟩
      rintro _ _ ⟨⟩
      obtain ⟨polls, m, hnear⟩ := hu.paced i job run hw
      obtain ⟨m', hnear', -⟩ := (hnear.renew _).continues (hu.about hw) hstep
      exact ⟨Exchange.slotwise_continues hu.session (hu.keeps i job run hw) hstep, _, m', hnear'⟩
  | «return» _ job run outcome _ hstep =>
      obtain rfl := (Exchange.eq_of_returned hstep).1
      exact ⟨fun _ => .refl _ _, fun _ _ h => by cases h⟩
  | die _ job run _ hstep => exact absurd hstep (hu.not_died hw _)
  | finish _ _ f' => exact ⟨fun _ => .refl _ _, fun _ _ h => by cases f' <;> cases h⟩
  | start | miss | find | doubt | stop => exact ⟨fun _ => .refl _ _, fun _ _ h => by cases h⟩

/-- **Every step of a worker keeps the invariant.** -/
theorem Underway.work (hu : Underway compute n r) (ht : r.turn compute (workOf i) = some r₁) :
    Underway compute n r₁ := by
  obtain ⟨hi, used, extra, hconfined⟩ := hu.confined_work ht
  obtain ⟨e, lane, lane₁, hworked, -⟩ := Run.worked_turn hu.admits ht
  obtain ⟨r₁', hr₁', habreast, -⟩ := (hu.abreast_self hi).work hu hu ht
  obtain rfl : r₁ = r₁' := Option.some_inj.1 (ht.symm.trans hr₁')
  obtain ⟨lane₀, lane₁', hl₀, hl₁', -, hstand⟩ := habreast.lanes
  obtain rfl : lane₁ = lane₀ := Option.some_inj.1 (hworked.after.symm.trans hl₀)
  obtain rfl : lane₁ = lane₁' := Option.some_inj.1 (hl₀.symm.trans hl₁')
  have hpays := hconfined.pays
  obtain ⟨heases, hrunning⟩ := hu.running_work (Pool.worker?_of_lane hworked.before) hworked.working
  -- a worker is the one that has made the step, or stands where it stood
  have hworker {k : Nat} {w : Pool.Worker Exchange.Run} (hw : r₁.pool.worker? k = some w) :
      r.pool.worker? k = some w ∨ k = i ∧ lane₁.worker = w := by
    by_cases hk : k = i
    · subst hk
      exact Or.inr ⟨rfl, Option.some_inj.1 ((Pool.worker?_of_lane hl₀).symm.trans hw)⟩
    · exact Or.inl ((hconfined.worker?_eq hk).symm.trans hw)
  refine ⟨?_, ?_, ?_, ?_, ?_, ?_, ?_, ?_, ?_, ?_⟩
  · rw [hconfined.device, hu.session]
  · rw [hpays.touches.length, hpays.touches.setup, hu.slots]
  · rw [hconfined.size, hpays.touches.setup, hu.workers]
  · intro slot
    refine Bool.eq_false_iff.2 fun h => ?_
    exact Bool.false_ne_true ((hu.released slot).symm.trans ((heases slot).held h))
  · rw [hpays.faults]
    exact isNamed_spent hu.named
  · rw [hconfined.closed, hu.admits]
  · intro k w hw
    rcases hworker hw with hw | ⟨rfl, rfl⟩
    · exact hu.active k w hw
    · exact hstand.isActive
  · intro k job run hw
    rcases hworker hw with hw | ⟨rfl, hlane⟩
    · exact hu.alike k job run hw
    · rw [hlane] at hstand
      cases hstand with
      | ready _ h => cases h
      | running _ _ _ h => exact h
  · intro k job run hw
    rcases hworker hw with hw | ⟨rfl, hlane⟩
    · exact hu.keeps k job run hw
    · exact (hrunning job run hlane).1
  · intro k job run hw
    rcases hworker hw with hw | ⟨rfl, hlane⟩
    · exact hu.paced k job run hw
    · exact (hrunning job run hlane).2

end Station

end Offload

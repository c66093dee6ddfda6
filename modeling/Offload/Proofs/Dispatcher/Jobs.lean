/-
**The jobs of a run, and the calls made for them.**

A job runs on the slot that it was accepted on, once, and the calls that are recorded for it are its
own.  As long as the operations of the running jobs are about their slots, no step of the pool
touches more than one slot, and none closes the device or takes a worker with it.

Main definitions:

* `Station.KeepsToSlots` — the running jobs keep to their slots.

Main results:

* `Station.Run.IsSound.new_of_begin` — a job that begins to run is new;
* `Station.Run.acts_self`, `Station.Run.acts_of_ne` — whose calls a step records;
* `Station.meets_continues` — an exchange that goes on keeps what it is to end with;
* `Station.KeepsToSlots.touches` — **a step of the pool touches one slot at most**.
-/

import Mathlib.Algebra.Group.Nat.Defs
import Offload.Proofs.Dispatcher.DeviceInvariant

set_option autoImplicit false
set_option relaxedAutoImplicit false

namespace Offload

open Native Simulator

namespace Station

variable {compute : UInt32 → Bytes → Bytes} {setup : Setup} {n : Nat} {r r' : Run} {i j : Nat}
  {job job' : Pool.Job} {run : Exchange.Run}

/-! ### Slots of the pool -/

theorem DeviceInv.lt_of_worker? (hu : DeviceInv setup n r.station) {w : Pool.Worker Exchange.Run}
    (hw : r.pool.worker? i = some w) : i < setup.bufferCount.toNat ∧ i < 2 ^ 32 := by
  obtain ⟨lane, hl, -⟩ := Option.map_eq_some_iff.1 hw
  have hlt : i < setup.bufferCount.toNat := by
    rw [← hu.size]
    exact Pool.lt_size_of_lane hl
  exact ⟨hlt, Nat.lt_trans hlt setup.bufferCount.toNat_lt⟩

theorem DeviceInv.ofNat_lt (hu : DeviceInv setup n r.station) {w : Pool.Worker Exchange.Run}
    (hw : r.pool.worker? i = some w) : UInt32.ofNat i < setup.bufferCount := by
  obtain ⟨hlt, hi⟩ := hu.lt_of_worker? hw
  rwa [UInt32.lt_iff_toNat_lt, UInt32.toNat_ofNat_of_lt' hi]

/-- As long as a worker lives the device is open. -/
theorem DeviceInv.early_of_alive (hu : DeviceInv setup n r.station) (hs : r.IsSound)
    {w : Pool.Worker Exchange.Run} (hw : r.pool.worker? i = some w)
    (halive : w.hasEnded = false) : r.station.dispatcher.teardown.isEarly = true := by
  cases hearly : r.station.dispatcher.teardown.isEarly with
  | true => rfl
  | false =>
      obtain ⟨lane, hl, rfl⟩ := Option.map_eq_some_iff.1 hw
      have hended := hs.phased.joined i lane hl
        (by rw [show r.station.scheduler.pool.closing = _ from hu.late hearly]; rfl)
      exact absurd (halive.symm.trans hended) Bool.false_ne_true

namespace Run

/-! ### Running jobs -/

namespace IsSound

/-- A running job is the last one that was begun on its slot. -/
theorem begun_eq (hs : r.IsSound) (hw : r.pool.worker? i = some (.running job run)) :
    Pool.begun i r.history = Pool.ended i r.history ++ [job] := by
  obtain ⟨lane, hl, hlane⟩ := Option.map_eq_some_iff.1 hw
  have hc := (hs.custody i lane hl).begun_eq
  rwa [hlane] at hc

theorem mem_begun (hs : r.IsSound) (hw : r.pool.worker? i = some (.running job run)) :
    job ∈ Pool.begun i r.history := by
  rw [hs.begun_eq hw]
  exact List.mem_append_right _ (List.mem_singleton_self _)

theorem accepted_of_running (hs : r.IsSound)
    (hw : r.pool.worker? i = some (.running job run)) :
    Pool.Event.accepted job i ∈ r.history :=
  hs.accepted_of_mem (Pool.mem_begun.1 (hs.mem_begun hw)) rfl

theorem ne_of_running (hs : r.IsSound) (hw : r.pool.worker? i = some (.running job run))
    (hne : i ≠ j) (hj : job' ∈ Pool.begun j r.history) : job ≠ job' := by
  rintro rfl
  have hacc := hs.accepted_of_mem (Pool.mem_begun.1 hj) rfl
  exact hne (hs.accepted_inj (hs.accepted_of_running hw) hacc rfl).2

theorem ne_of_ended (hs : r.IsSound) (hw : r.pool.worker? i = some (.running job run))
    (hj : job' ∈ Pool.ended i r.history) : job ≠ job' := by
  rintro rfl
  obtain ⟨lane, -, hc⟩ := hs.custody_of_accepted (hs.accepted_of_running hw)
  have hn := (hs.nodup_accepted i).sublist hc.begun_prefix_accepted.sublist
  rw [hs.begun_eq hw] at hn
  exact List.disjoint_of_nodup_append hn hj (List.mem_singleton_self _)

/-- A slot whose worker has a job in hand that it has not begun is running nothing else. -/
theorem begun_eq_ended (hs : r.IsSound) (hw : r.pool.worker? i = some (.holding job)) :
    Pool.begun i r.history = Pool.ended i r.history := by
  obtain ⟨lane, hl, hlane⟩ := Option.map_eq_some_iff.1 hw
  have hc := (hs.custody i lane hl).begun_eq
  rw [hlane] at hc
  simpa [Pool.Worker.inProgress] using hc

theorem mem_begun_of_returned (hs : r.IsSound) {outcome : Outcome Bytes}
    (h : Pool.Event.returned job i outcome ∈ r.history) : job ∈ Pool.begun i r.history := by
  obtain ⟨lane, -, hc⟩ := hs.custody_of_accepted (hs.accepted_of_mem h rfl)
  exact Pool.mem_begun.2 (hc.begun_of_returned h)

/-- A job that begins to run is new. -/
theorem new_of_begin (hs : r.IsSound) (hs' : r'.IsSound)
    (hh : r'.history = r.history ++ [.begun job i]) :
    Pool.Event.accepted job i ∈ r.history ∧ ∀ j, Pool.Event.begun job j ∉ r.history := by
  have hmem : Pool.Event.begun job i ∈ r'.history := by
    rw [hh]
    exact List.mem_append_right _ (List.mem_singleton_self _)
  have hacc' : Pool.Event.accepted job i ∈ r'.history := hs'.accepted_of_mem hmem rfl
  have hacc : Pool.Event.accepted job i ∈ r.history := by
    rw [hh] at hacc'
    simpa using hacc'
  refine ⟨hacc, ?_⟩
  intro j hj
  -- begun twice it would be twice among the first jobs accepted
  obtain ⟨-, rfl⟩ := hs.accepted_inj (hs.accepted_of_mem hj rfl) hacc rfl
  obtain ⟨lane, -, hc⟩ := hs'.custody_of_accepted hacc'
  have hbegun : Pool.begun j r'.history = Pool.begun j r.history ++ [job] := by
    rw [hh]
    exact Pool.jobsOf_concat_of rfl rfl
  have hnodup := (hs'.nodup_accepted j).sublist hc.begun_prefix_accepted.sublist
  rw [hbegun] at hnodup
  exact List.disjoint_of_nodup_append hnodup (Pool.mem_begun.2 hj) (List.mem_singleton_self _)

end IsSound

/-! ### The calls of a job -/

variable {acts : List Exchange.Act}

/-- A job has made the calls that are recorded for it. -/
theorem acts_self (h : r'.deeds = r.deeds ++ acts.map fun act => ⟨job, act⟩) :
    r'.acts job = r.acts job ++ acts := by
  have hall : (acts.map fun act => (⟨job, act⟩ : Deed)).filter (fun d => d.job = job) =
      acts.map fun act => ⟨job, act⟩ := List.filter_eq_self.2 (by simp)
  rw [Run.acts, h, List.filter_append, List.map_append, hall, List.map_map]
  simp [Run.acts, Function.comp_def]

/-- Calls that are recorded for one job are none of another one's. -/
theorem acts_of_ne (h : r'.deeds = r.deeds ++ acts.map fun act => ⟨job, act⟩) (hne : job ≠ job') :
    r'.acts job' = r.acts job' := by
  have hnone : (acts.map fun act => (⟨job, act⟩ : Deed)).filter (fun d => d.job = job') = [] := by
    rw [List.filter_eq_nil_iff]
    simpa using fun _ _ => hne
  rw [Run.acts, h, List.filter_append, hnone, List.append_nil, Run.acts]

theorem acts_congr (h : r'.deeds = r.deeds) : r'.acts job = r.acts job := by
  rw [Run.acts, h, Run.acts]

/-- When calls are recorded for jobs that were begun, there are none for any other job. -/
theorem acts_eq_nil (hdeeds : ∀ d ∈ r.deeds, ∃ i, Pool.Event.begun d.job i ∈ r.history)
    (h : ∀ j, Pool.Event.begun job j ∉ r.history) : r.acts job = [] := by
  rw [Run.acts, List.map_eq_nil_iff, List.filter_eq_nil_iff]
  intro d hd hjob
  obtain ⟨j, hj⟩ := hdeeds d hd
  have heq : d.job = job := by simpa using hjob
  exact h j (heq ▸ hj)

end Run

theorem workDeeds_of_running (compute : UInt32 → Bytes → Bytes) {s : Station Simulator} {slot : Nat}
    (hw : s.dispatcher.pool.worker? slot = some (.running job run)) :
    s.workDeeds compute slot = (actsOf compute run s.world).map fun act => ⟨job, act⟩ := by
  rw [workDeeds, hw]

theorem workDeeds_of_not_running (compute : UInt32 → Bytes → Bytes) {s : Station Simulator}
    {slot : Nat}
    (hw : ∀ job run, s.dispatcher.pool.worker? slot ≠ some (.running job run)) :
    s.workDeeds compute slot = [] := by
  unfold workDeeds
  split
  · next job run h => exact absurd h (hw job run)
  · rfl

section

variable {l : Ledger} {move : Move} {poolMove : Pool.Move} {arrivals : List Pool.Job}
  {teardown : Dispatcher.Teardown}

theorem deedsOf_of_running (compute : UInt32 → Bytes → Bytes)
    (hd : Driving (r.withLedger l).station move poolMove arrivals teardown)
    (hmove : poolMove = .work i) (hw : r.pool.worker? i = some (.running job run)) :
    r.station.deedsOf compute move =
      (actsOf compute run r.station.world).map fun act => ⟨job, act⟩ := by
  subst hmove
  cases hd with
  | work => exact workDeeds_of_running compute hw

theorem deedsOf_of_not_running (compute : UInt32 → Bytes → Bytes)
    (hd : Driving (r.withLedger l).station move poolMove arrivals teardown)
    (hnot : ∀ i job run, poolMove = .work i → r.pool.worker? i ≠ some (.running job run)) :
    r.station.deedsOf compute move = [] := by
  cases hd with
  | work slot => exact workDeeds_of_not_running compute fun job run => hnot slot job run rfl
  | _ => rfl

end

theorem running_of_mem_deedsOf {s : Station Simulator} {d : Deed} {move : Move}
    (hd : d ∈ s.deedsOf compute move) :
    ∃ slot run, s.dispatcher.pool.worker? slot = some (.running d.job run) := by
  cases move with
  | work slot =>
      have hmem : d ∈ s.workDeeds compute slot := hd
      unfold workDeeds at hmem
      split at hmem
      · next job run hw =>
          obtain ⟨act, -, rfl⟩ := List.mem_map.1 hmem
          exact ⟨slot, run, hw⟩
      · cases hmem
  | _ => cases hd

theorem actsOf_of_returned {site site' : Exchange.Site Simulator} {outcome : Outcome Bytes}
    (hstep : Exchange.step (driver compute) i run site = .returned outcome site') :
    actsOf compute run site.world = [] := by
  rw [actsOf, (Exchange.eq_of_returned hstep).2]

end Station

/-! ### Operations about one slot -/

namespace Exchange

theorem touches_answered {slot : UInt32} {o : Op} (ho : IsAbout slot o)
    (compute : UInt32 → Bytes → Bytes) (late : Bool) (w : World Simulator) :
    Touches (some slot) false w.driver (answered (driver compute) late o w).2.driver := by
  cases o with
  | call c =>
      have htouch := touches_reply compute late c (s := w.driver)
      rw [toggles_of_slot? ho.2, ho.2] at htouch
      rw [(answered_call compute late c w).2]
      exact htouch
  | store region data =>
      have hregion : region.slot = slot := ho
      have htouch : Touches (some region.slot) false w.driver (w.driver.store region data) :=
        touches_modifySlot _ _ _
      rw [hregion] at htouch
      cases late <;> exact htouch
  | lastError | lastErrorText | fetch | log => cases late <;> exact .refl _ _ _

theorem trapped?_eq_none {slot : UInt32} {o : Op} (ho : IsAbout slot o)
    (compute : UInt32 → Bytes → Bytes) {w : World Simulator}
    (hslot : (w.driver.content? slot.toNat).isSome = true) :
    (driver compute).trapped? o w = none := by
  obtain ⟨t, ht⟩ := Option.isSome_iff_exists.1 hslot
  cases o with
  | call c =>
      rw [Driver.trapped?, show (driver compute).traps c w.driver = none from
        traps_eq_none c ho.2 ht]
      rfl
  | _ => rfl

end Exchange

namespace Station

/-- **An exchange that goes on keeps what it is to end with**, whatever that is: a round that has
ended without a result has to be fit to begin again. -/
theorem meets_continues {compute : UInt32 → Bytes → Bytes} {k : Exchange.Task} {i : Nat}
    {run run' : Exchange.Run} {site site' : Exchange.Site Simulator} {acts : List Exchange.Act}
    {Q : Option (Outcome Bytes) → Exchange.Look → Prop} (hslot : k.slot.toNat = i)
    (hmeets : run.rest.Meets (Exchange.opSpec compute k) Q (site.world.driver.sight i, acts))
    (hstep : Exchange.step (driver compute) i run site = .continues run' site')
    (hagain : Q none (site.world.driver.sight i, acts) →
      (Exchange.deviceRound site.device (UInt32.ofNat i) run.input).Meets
        (Exchange.opSpec compute k) Q (site.world.driver.sight i, acts)) :
    run'.input = run.input ∧ run'.rest.Meets (Exchange.opSpec compute k) Q
      (site'.world.driver.sight i, acts ++ actsOf compute run site.world) := by
  cases Exchange.stepped_of_step hstep with
  | again hrest =>
      -- the slot was not ready, so the round begins again
      rw [hrest] at hmeets
      rw [actsOf, hrest, List.append_nil]
      exact ⟨rfl, hagain hmeets⟩
  | answer o next hrest hreturns =>
      rw [hrest] at hmeets
      have hacts : actsOf compute run site.world = Exchange.acted run.entered o
          (Exchange.answered (driver compute) run.entered o site.world).1 site.world.driver := by
        rw [actsOf, hrest]
        exact if_pos hreturns
      have hnext := (hmeets.2.2 site.world run.entered (by rw [hslot])).2
      rw [hslot] at hnext
      rw [hacts]
      exact ⟨rfl, hnext⟩
  | enter o next hrest hreturns hblocked =>
      -- a wait begins to block: the call is recorded when it returns
      have hnone : actsOf compute run site.world = [] := by
        rw [actsOf, hrest]
        exact if_neg (by simp [hreturns])
      rw [hnone, List.append_nil]
      exact ⟨rfl, hmeets⟩

/-- The running jobs keep to their slots, which exist. -/
def KeepsToSlots (s : Station Simulator) : Prop :=
  ∀ i job run, s.dispatcher.pool.worker? i = some (.running job run) →
    i < 2 ^ 32 ∧ (s.world.driver.content? i).isSome = true ∧
      ∀ o next, run.rest = .step o next → Exchange.IsAbout (UInt32.ofNat i) o

namespace KeepsToSlots

variable {compute : UInt32 → Bytes → Bytes} {s : Station Simulator} {i : Nat} {job : Pool.Job}
  {run run' : Exchange.Run} {site : Exchange.Site Simulator}

theorem about (hk : KeepsToSlots s) (hw : s.dispatcher.pool.worker? i = some (.running job run))
    (o : Op) (next : o.Answer → Program (Option (Outcome Bytes))) (hrest : run.rest = .step o next) :
    Exchange.IsAbout (UInt32.ofNat i) o := (hk i job run hw).2.2 o next hrest

/-- No running job takes its worker with it. -/
theorem not_died (hk : KeepsToSlots s) (hw : s.dispatcher.pool.worker? i = some (.running job run))
    (site : Exchange.Site Simulator) :
    Exchange.step (driver compute) i run s.scheduler.shared ≠ .died site := by
  intro hdied
  cases Exchange.stepped_of_step hdied with
  | die o next world hrest hentered htrap =>
      obtain ⟨hlt, hsome, -⟩ := hk i job run hw
      have hsome' : (s.world.driver.content? (UInt32.ofNat i).toNat).isSome = true := by
        rwa [UInt32.toNat_ofNat_of_lt' hlt]
      have hnone := Exchange.trapped?_eq_none (hk.about hw o next hrest) compute hsome'
      exact absurd (hnone.symm.trans htrap) (by simp)

theorem touches_continues (hk : KeepsToSlots s)
    (hw : s.dispatcher.pool.worker? i = some (.running job run))
    (hstep : Exchange.step (driver compute) i run s.scheduler.shared = .continues run' site) :
    site.device = s.dispatcher.device ∧
      Touches (some (UInt32.ofNat i)) false s.world.driver site.world.driver := by
  cases Exchange.stepped_of_step hstep with
  | again | enter => exact ⟨rfl, .refl _ _ _⟩
  | answer o next hrest hreturns =>
      exact ⟨rfl, Exchange.touches_answered (hk.about hw o next hrest) compute _ _⟩

theorem sight_continues (hk : KeepsToSlots s)
    (hw : s.dispatcher.pool.worker? i = some (.running job run))
    (hstep : Exchange.step (driver compute) i run s.scheduler.shared = .continues run' site)
    {j : Nat} (hj : i ≠ j) : site.world.driver.sight j = s.world.driver.sight j := by
  refine (hk.touches_continues hw hstep).2.sight_eq ?_
  rw [Option.map_some, UInt32.toNat_ofNat_of_lt' (hk i job run hw).1]
  exact fun h => hj (Option.some_inj.1 h)

/-- **A step of the pool touches one slot at most**, and leaves the dispatcher's device alone. -/
theorem touches (hk : KeepsToSlots s) {move : Pool.Move} {e : Option Pool.Event}
    {q : Pool.Scheduler Exchange.Run (Exchange.Site Simulator)}
    (hq : Pool.Scheduler.Transition (executor (driver compute) patience) s.scheduler move e q) :
    q.shared.device = s.dispatcher.device ∧
      ∃ slot, Touches slot false s.world.driver q.shared.world.driver := by
  obtain ⟨hdevice, hdriver⟩ | ⟨slot, job, run, hw, ⟨run', hstep⟩ | hstep⟩ :=
    Exchange.still_or_running hq
  · rw [hdriver]
    exact ⟨hdevice, none, .refl _ _ _⟩
  · obtain ⟨hdevice, htouch⟩ := hk.touches_continues hw hstep
    exact ⟨hdevice, _, htouch⟩
  · exact absurd hstep (hk.not_died hw _)

/-- The steps of the pool leave the device open, and its setup alone. -/
theorem keepsOpen (hk : KeepsToSlots s) : KeepsOpen compute s := by
  intro move e q hq
  obtain ⟨hdevice, slot, htouch⟩ := hk.touches hq
  exact ⟨hdevice, htouch.setup, htouch.isOpen rfl⟩

end KeepsToSlots

end Station

end Offload

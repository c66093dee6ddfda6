/-
**A dispatcher and its device through a run.**

The device of a dispatcher is open until its pool has come to an end, only jobs that fit its regions
are admitted, and what opens and closes it leaves the slots alone: every operation that a dispatcher
is brought up with installs its sink or takes it away, or concerns the device as a whole, logging or
the last failure.

Main definitions:

* `Dispatcher.Teardown.isEarly` — the teardown has not begun to close the device;
* `Station.DeviceInv` — **the invariant of the dispatcher**;
* `Station.Run.Fits` — the jobs of a run fit the regions.

Main results:

* `Device.meets_close` — closing a device concerns no slot;
* `Dispatcher.every_bringUpDevice` — opening the device of a dispatcher and setting it up;
* `Dispatcher.slotless_bringUp` — **bringing a dispatcher up is about no slot**;
* `Station.DeviceInv.transition` — a step keeps the invariant, provided that it leaves the device
  open;
* `Station.Run.Fits.turn` — every turn admits jobs that fit only.
-/

import Offload.Proofs.Device.Kinds
import Offload.Proofs.Dispatcher.Run
import Offload.Proofs.Pool.Running

set_option autoImplicit false
set_option relaxedAutoImplicit false

namespace Offload

open Native Simulator

/-! ### Closing a device -/

namespace Simulator

/-- A program of operations that are about no slot. -/
def slotlessSpec : OpSpec Unit := fun o Q v => IsSlotless o ∧ ∀ x, Q x v

/-- A condition that holds of all there is. -/
abbrev anything {α V : Type} : α → V → Prop := fun _ _ => True

theorem admitsSlotless_isSlotless : AdmitsSlotless IsSlotless :=
  ⟨⟨trivial, trivial, fun _ _ => trivial⟩, fun _ hc => hc⟩

end Simulator

/-- **Closing a device concerns no slot.** -/
theorem Device.meets_close (d : Device) : d.close.Meets slotlessSpec anything () :=
  d.every_close admitsSlotless_isSlotless

/-! ### Bringing a dispatcher up -/

namespace Dispatcher

variable {P : Op → Prop}

theorem every_setUp (hP : AdmitsSlotless P) (device : Device) : (setUp device).run.Every P := by
  refine every_action_bind
    (device.every_withSession fun _ _ => Device.every_slotless hP rfl) fun _ => ?_
  refine every_action_bind
    (device.every_withSession fun s _ => Device.every_setPcieEnabled hP s true) fun _ => ?_
  have hbuilt (line : String) : (liftM (Pool.build device.capabilities.bufferCount.toNat) >>=
      fun pool => liftM (logLine .info line) >>= fun _ => pure pool :
      Action (Pool Exchange.Run)).run.Every P :=
    every_action_bind trivial fun pool =>
      every_action_bind (every_lift (every_logLine hP.toAdmitsReports)) fun _ => trivial
  dsimp only
  split
  · exact every_action_bind trivial fun _ => hbuilt _
  · exact hbuilt _

/-- Opening the device of a dispatcher and setting it up, or closing it again. -/
theorem every_bringUpDevice (hP : AdmitsSlotless P) (library : Option String) (config : Config) :
    (bringUpDevice library config).run.Every P := by
  unfold bringUpDevice
  cases openParams config with
  | error e => exact every_lift_throw (every_noteUnloaded hP.toAdmitsReports library)
  | ok params =>
      refine every_action_bind (Device.every_bringUp hP library _ params) fun device => ?_
      refine every_outcome_bind (every_setUp hP device) fun r => ?_
      cases r with
      | ok pool => trivial
      | error e => exact every_action_bind (every_lift (device.every_close hP)) fun _ => trivial

theorem slotless_installSink (sink : Option Log.Sink) :
    (installSink sink).Every IsSlotless := by
  cases sink with
  | none => trivial
  | some sink => exact every_perform trivial

theorem slotless_removeSink (sink : Option Log.Sink) :
    (removeSink sink).Every IsSlotless := by
  cases sink with
  | none => trivial
  | some sink => exact every_perform trivial

/-- **Bringing a dispatcher up is about no slot.** -/
theorem slotless_bringUp (library : Option String) (config : Config) :
    (bringUp library config).run.Every IsSlotless := by
  refine every_action_bind (every_lift (slotless_installSink config.sink)) fun _ => ?_
  refine every_outcome_bind
    (every_bringUpDevice admitsSlotless_isSlotless library config) fun r => ?_
  cases r with
  | ok built => trivial
  | error e => exact every_lift_throw (slotless_removeSink config.sink)

end Dispatcher

/-! ### The pool at its end -/

namespace Pool

variable {ρ S : Type} {exec : Executor ρ S} {s s' : Scheduler ρ S} {move : Move} {e : Option Event}

theorem finished_of_transition (hp : Phased s.pool) (ht : Scheduler.Transition exec s move e s')
    (hf : s.pool.closing = .finished) : s'.pool.closing = .finished := by
  cases ht with
  | finish slot lane f f' e t hl hw hfin =>
      obtain ⟨change, -, h⟩ := Scheduler.laneFinish_of_finishing hfin
      rw [closing_setWorker, h.closing, hf]
  | close hsub hopen =>
      rw [hp.notBegun_iff.2 hopen] at hf
      cases hf
  | join _ _ hc | joined _ hc | drainFinish _ _ _ _ _ hc | drainFind _ _ _ _ hc
  | drainNext _ _ hc =>
      rw [hf] at hc
      cases hc
  | drained => rfl
  | _ => exact hf

theorem hasEnded_of_finished (hp : Phased s.pool) (hf : s.pool.closing = .finished) {i : Nat}
    {w : Worker ρ} (hw : s.pool.worker? i = some w) : w.hasEnded = true := by
  obtain ⟨lane, hl, rfl⟩ := Option.map_eq_some_iff.1 hw
  exact hp.joined i lane hl (by rw [hf]; rfl)

theorem not_running_of_finished (hp : Phased s.pool) (hf : s.pool.closing = .finished) (i : Nat)
    (job : Job) (run : ρ) : s.pool.worker? i ≠ some (.running job run) := by
  intro hw
  cases hasEnded_of_finished hp hf hw

end Pool

/-! ### The invariant of the dispatcher -/

/-- The teardown has not begun to close the device. -/
def Dispatcher.Teardown.isEarly : Dispatcher.Teardown → Bool
  | .notBegun | .announcing | .stopping | .waiting => true
  | .closing _ | .releasing | .finished => false

namespace Station

/-- What holds of a dispatcher through a run: it has one worker for each slot, the device is open
until the pool has come to its end, and what closes it is about no slot. -/
structure DeviceInv (setup : Setup) (bufferSize : Nat) (s : Station Simulator) : Prop where
  size : s.dispatcher.pool.size = setup.bufferCount.toNat
  setup : s.world.driver.setup = setup
  session : s.dispatcher.teardown.isEarly = true →
    s.dispatcher.device.session = some ⟨token, bufferSize⟩
  isOpen : s.dispatcher.teardown.isEarly = true → s.world.driver.isOpen = true
  untorn : s.dispatcher.tornDown = false →
    s.dispatcher.teardown = .notBegun ∧ s.dispatcher.bufferSize = bufferSize
  late : s.dispatcher.teardown.isEarly = false → s.dispatcher.pool.closing = .finished
  closing : ∀ rest, s.dispatcher.teardown = .closing rest →
    rest.Meets slotlessSpec anything ()

/-- The steps of the pool leave the device open, and its setup alone. -/
def KeepsOpen (compute : UInt32 → Bytes → Bytes) (s : Station Simulator) : Prop :=
  ∀ move e r, Pool.Scheduler.Transition (executor (driver compute) patience) s.scheduler move e r →
    r.shared.device = s.dispatcher.device ∧ r.shared.world.driver.setup = s.world.driver.setup ∧
      r.shared.world.driver.isOpen = s.world.driver.isOpen

variable {compute : UInt32 → Bytes → Bytes} {setup : Setup} {n : Nat} {s s' : Station Simulator}
  {move : Move} {e : Option Pool.Event}

theorem DeviceInv.start {d : Dispatcher} {w : World Simulator} (hd : d.IsUp setup)
    (hsetup : w.driver.setup = setup) (hopen : w.driver.isOpen = true) :
    DeviceInv setup d.bufferSize (Run.start d w).station where
  size := by simp [Run.start, hd.pool, Pool.fresh, Pool.size]
  setup := hsetup
  session _ := hd.session
  isOpen _ := hopen
  untorn _ := ⟨hd.teardown, rfl⟩
  late h := by
    have hd' : (Run.start d w).station.dispatcher.teardown = .notBegun := hd.teardown
    rw [hd'] at h
    cases h
  closing rest h := by
    have hd' : (Run.start d w).station.dispatcher.teardown = .notBegun := hd.teardown
    rw [hd'] at h
    cases h

theorem DeviceInv.torn (hu : DeviceInv setup n s) (h : s.dispatcher.teardown ≠ .notBegun) :
    s.dispatcher.tornDown = true := by
  cases ht : s.dispatcher.tornDown with
  | true => rfl
  | false => exact absurd (hu.untorn ht).1 h

theorem DeviceInv.still (hu : DeviceInv setup n s) (hd : s'.dispatcher = s.dispatcher)
    (houtline : s'.world.driver.outline = s.world.driver.outline) : DeviceInv setup n s' := by
  obtain ⟨world, ledger, dispatcher⟩ := s'
  obtain rfl : dispatcher = s.dispatcher := hd
  have hsetup : world.driver.setup = s.world.driver.setup := congrArg Outline.setup houtline
  have hopen : world.driver.isOpen = s.world.driver.isOpen := congrArg Outline.isOpen houtline
  exact ⟨hu.size, hsetup.trans hu.setup, hu.session, fun h => hopen.trans (hu.isOpen h), hu.untorn,
    hu.late, hu.closing⟩

/-- Once the device is being closed little is left to hold. -/
theorem DeviceInv.ofLate (hu : DeviceInv setup n s) (hlate : s'.dispatcher.teardown.isEarly = false)
    (hpool : s'.dispatcher.pool = s.dispatcher.pool) (hend : s.dispatcher.pool.closing = .finished)
    (hsetup : s'.world.driver.setup = setup) (htorn : s'.dispatcher.tornDown = true)
    (hclosing : ∀ rest, s'.dispatcher.teardown = .closing rest →
      rest.Meets slotlessSpec anything ()) : DeviceInv setup n s' where
  size := hpool ▸ hu.size
  setup := hsetup
  session h := absurd (hlate.symm.trans h) Bool.false_ne_true
  isOpen h := absurd (hlate.symm.trans h) Bool.false_ne_true
  untorn h := absurd (h.symm.trans htorn) Bool.false_ne_true
  late _ := hpool ▸ hend
  closing := hclosing

/-- A step of the pool does not begin to close the device: stopping and waiting are both early. -/
theorem Driving.isEarly_eq {σ : Type} {s : Station σ} {poolMove : Pool.Move}
    {arrivals : List Pool.Job} {teardown : Dispatcher.Teardown}
    (hd : Driving s move poolMove arrivals teardown) :
    teardown.isEarly = s.dispatcher.teardown.isEarly := by
  rcases hd.teardown_eq with rfl | ⟨hstopping, rfl⟩
  · rfl
  · rw [hstopping]
    rfl

/-- A step of the pool keeps the invariant, provided that it leaves the device open. -/
theorem DeviceInv.driven (hu : DeviceInv setup n s) (hp : Pool.Phased s.dispatcher.pool)
    (hkeeps : KeepsOpen compute s) {poolMove : Pool.Move} {arrivals : List Pool.Job}
    {teardown : Dispatcher.Teardown} {r : Pool.Scheduler Exchange.Run (Exchange.Site Simulator)}
    (hd : Driving s move poolMove arrivals teardown)
    (hr : Pool.Scheduler.Transition (executor (driver compute) patience) s.scheduler poolMove e r) :
    DeviceInv setup n (s.driven r e arrivals teardown) := by
  obtain ⟨hdevice, hsetup, hopen⟩ := hkeeps _ _ _ hr
  have hearly : teardown.isEarly = s.dispatcher.teardown.isEarly := hd.isEarly_eq
  refine ⟨(Pool.size_of_transition hr).trans hu.size, hsetup.trans hu.setup, ?_, ?_, ?_, ?_, ?_⟩
  · intro h
    exact (congrArg Device.session hdevice).trans (hu.session (hearly ▸ h))
  · intro h
    exact hopen.trans (hu.isOpen (hearly ▸ h))
  · intro h
    obtain ⟨hnot, hsize⟩ := hu.untorn h
    refine ⟨hd.teardown_eq_notBegun hnot, ?_⟩
    rw [← hsize, Dispatcher.bufferSize, Dispatcher.bufferSize]
    exact congrArg (fun d : Device => d.capabilities.bufferSize.toNat) hdevice
  · intro h
    exact Pool.finished_of_transition hp hr (hu.late (hearly ▸ h))
  · intro rest h
    rcases hd.teardown_eq with rfl | ⟨-, rfl⟩
    · exact hu.closing rest h
    · cases h

/-- **A step keeps the invariant of the dispatcher**, provided that the steps of the pool leave the
device open. -/
theorem DeviceInv.transition (hu : DeviceInv setup n s) (hp : Pool.Phased s.dispatcher.pool)
    (hkeeps : KeepsOpen compute s)
    (ht : Transition (driver compute) patience s move e s') : DeviceInv setup n s' := by
  cases ht with
  | turnAway | takeIn =>
      exact ⟨hu.size, hu.setup, hu.session, hu.isOpen, hu.untorn, hu.late, hu.closing⟩
  | pool _ _ _ _ _ _ hd hr => exact hu.driven hp hkeeps hd hr
  | tearDownAgain => exact hu
  | tearDown h =>
      have hearly : s.dispatcher.teardown.isEarly = true := by rw [(hu.untorn h).1]; rfl
      exact ⟨hu.size, hu.setup, fun _ => hu.session hearly, fun _ => hu.isOpen hearly, by simp,
        by simp [Dispatcher.Teardown.isEarly], by simp⟩
  | announce router h =>
      have hearly : s.dispatcher.teardown.isEarly = true := by rw [h]; rfl
      exact ⟨hu.size, hu.setup, fun _ => hu.session hearly, fun _ => hu.isOpen hearly,
        fun htorn => absurd (hu.untorn htorn).1 (by simp [h]),
        by simp [winding, Dispatcher.Teardown.isEarly], by simp [winding]⟩
  | endSession h hclosing =>
      refine hu.ofLate rfl rfl hclosing hu.setup (hu.torn (by simp [h])) ?_
      intro rest h'
      cases h'
      exact Device.meets_close _
  | closing o next h =>
      obtain ⟨ho, hnext⟩ := hu.closing _ h
      have hend : s.dispatcher.pool.closing = .finished := hu.late (by rw [h]; rfl)
      refine hu.ofLate rfl rfl hend ?_ (hu.torn (by simp [h])) fun rest h' => ?_
      · exact (contents_answer compute ho s.world).1.trans hu.setup
      · cases h'
        exact hnext _
  | closed was device h =>
      have hend : s.dispatcher.pool.closing = .finished := hu.late (by rw [h]; rfl)
      exact hu.ofLate rfl rfl hend hu.setup (hu.torn (by simp [h])) (by simp [winding])
  | release router h =>
      have hend : s.dispatcher.pool.closing = .finished := hu.late (by rw [h]; rfl)
      exact hu.ofLate rfl rfl hend hu.setup (hu.torn (by simp [h])) (by simp [winding])

/-! ### The jobs that are admitted -/

/-- The jobs of a run fit regions of a given size. -/
structure Run.Fits (n : Nat) (r : Run) : Prop where
  arrivals : ∀ job ∈ r.station.dispatcher.arrivals, Padding.paddedLength job.input.length ≤ n
  holder : ∀ job ∈ r.pool.submission.toList.map (·.job),
    Padding.paddedLength job.input.length ≤ n
  accepted : ∀ job i, Pool.Event.accepted job i ∈ r.history →
    Padding.paddedLength job.input.length ≤ n

theorem Run.Fits.still {r r' : Run} (hf : r.Fits n)
    (hd : r'.station.dispatcher = r.station.dispatcher) (hh : r'.history = r.history) :
    r'.Fits n := by
  obtain ⟨⟨world, ledger, dispatcher⟩, history, deeds, taken⟩ := r'
  obtain rfl : dispatcher = r.station.dispatcher := hd
  obtain rfl : history = r.history := hh
  exact ⟨hf.arrivals, hf.holder, hf.accepted⟩

theorem paddedLength_le_of_admission {d : Dispatcher} {input : Bytes}
    (h : d.admission input = .ok ()) :
    d.tornDown = false ∧ Padding.paddedLength input.length ≤ d.bufferSize := by
  unfold Dispatcher.admission at h
  split at h
  · cases h
  · split at h
    · cases h
    · next hsize =>
        split at h
        · cases h
        · next htorn => exact ⟨by simpa using htorn, Nat.le_of_not_lt hsize⟩

/-- **A step of a station admits jobs that fit only.** -/
theorem Run.Fits.transition {r : Run} {deeds : List Deed} {l : Ledger} (hf : r.Fits n)
    (hu : DeviceInv setup n r.station)
    (ht : Transition (driver compute) patience (r.withLedger l).station move e s) :
    (r.after s e deeds).Fits n := by
  have hsame : ∀ job i, Pool.Event.accepted job i ∈ r.history ++ [] →
      Padding.paddedLength job.input.length ≤ n := by
    simpa using hf.accepted
  cases ht with
  | turnAway job err =>
      refine ⟨hf.arrivals, hf.holder, ?_⟩
      intro job' i h
      exact hf.accepted job' i (by simpa [after] using h)
  | takeIn job h =>
      obtain ⟨htorn, hle⟩ := paddedLength_le_of_admission h
      have hsize : r.station.dispatcher.bufferSize = n := (hu.untorn htorn).2
      refine ⟨?_, hf.holder, hsame⟩
      intro job' h'
      rcases List.mem_append.1 h' with h' | h'
      · exact hf.arrivals job' h'
      · rw [List.mem_singleton.1 h', ← hsize]
        exact hle
  | pool _ poolMove arrivals teardown _ q hd hq =>
      have hentry : ∀ job ∈ poolMove.entry, Padding.paddedLength job.input.length ≤ n := by
        cases hd with
        | enter job hjob =>
            intro job' h
            rw [List.mem_singleton.1 h]
            exact hf.arrivals job hjob
        | _ => simp [Pool.Move.entry]
      have harrivals : ∀ job ∈ arrivals, Padding.paddedLength job.input.length ≤ n := by
        cases hd with
        | enter job hjob => exact fun job' h => hf.arrivals job' (List.mem_of_mem_erase h)
        | _ => exact hf.arrivals
      -- whoever holds the lock now or gives it back had it before, or has just taken it
      have hheld := Pool.held_of_transition (h := []) hq
      have hall : ∀ job ∈ Pool.held e.toList q.pool.submission,
          Padding.paddedLength job.input.length ≤ n := by
        intro job h
        rw [← List.nil_append e.toList, hheld] at h
        rcases List.mem_append.1 h with h | h
        · exact hf.holder job h
        · exact hentry job h
      refine ⟨harrivals, fun job h => hall job (List.mem_append_right _ h), ?_⟩
      intro job i h
      rcases List.mem_append.1 h with h | h
      · exact hf.accepted job i h
      · refine hall job (List.mem_append_left _ ?_)
        exact List.mem_map.2 ⟨_, List.mem_filter.2 ⟨h, rfl⟩, rfl⟩
  | _ => exact ⟨hf.arrivals, hf.holder, hsame⟩

/-- **A turn admits jobs that fit only.** -/
theorem Run.Fits.turn {r r' : Run} {t : Turn} (hf : r.Fits n) (hu : DeviceInv setup n r.station)
    (ht : r.turn compute t = some r') : r'.Fits n := by
  rcases Run.turn_cases ht with ⟨l, move, e, s, hstep, rfl⟩ | hstill
  · exact hf.transition hu hstep
  · exact hf.still hstill.dispatcher hstill.history

theorem Run.Fits.start {d : Dispatcher} (hd : d.IsUp setup) (w : World Simulator) :
    (Run.start d w).Fits n := by
  refine ⟨?_, ?_, fun job i h => absurd h List.not_mem_nil⟩
  · simp [Run.start, hd.arrivals]
  · simp [Run.start, Run.pool, hd.pool, Pool.fresh]

/-- Where a message fits, the size of the regions is known: where nothing is known of it none does. -/
theorem size_eq_of_paddedLength_le {length : Nat} (hn : n = setup.bufferSize.toNat ∨ n = 0)
    (h : Padding.paddedLength length ≤ n) : n = setup.bufferSize.toNat := by
  have hpos := Padding.paddedLength_pos length
  exact hn.resolve_right (by omega)

theorem Run.Fits.size_eq {r : Run} {job : Pool.Job} {i : Nat} (hf : r.Fits n)
    (hn : n = setup.bufferSize.toNat ∨ n = 0) (hacc : Pool.Event.accepted job i ∈ r.history) :
    n = setup.bufferSize.toNat ∧ (Padding.pad job.input).length ≤ setup.bufferSize.toNat := by
  have hfits := hf.accepted job i hacc
  have hsize := size_eq_of_paddedLength_le hn hfits
  exact ⟨hsize, by rwa [Padding.length_pad, ← hsize]⟩

theorem Run.not_running_start {d : Dispatcher} (hd : d.IsUp setup) (w : World Simulator) (i : Nat)
    (job : Pool.Job) (run : Exchange.Run) :
    (Run.start d w).pool.worker? i ≠ some (.running job run) := by
  have hpool : (Run.start d w).pool = Pool.fresh setup.bufferCount.toNat := hd.pool
  rw [hpool]
  exact Pool.not_running_fresh i job run

theorem Run.content?_start {d : Dispatcher} {w : World Simulator} {i : Nat}
    (hup : d.ComesUp compute setup w) (hi : i < setup.bufferCount.toNat) :
    (Run.start d w).device.content? i =
      some (Slot.idle (List.replicate setup.bufferSize.toNat 0)).content := by
  have hopened : (Run.start d w).device.outline.contents =
      (Simulator.fresh setup).outline.contents := by
    show w.driver.outline.contents = _
    rw [hup.isUp.2]
    rfl
  rw [content?_eq_outline, hopened, ← content?_eq_outline]
  simp [content?, Simulator.fresh, hi]

end Station

end Offload

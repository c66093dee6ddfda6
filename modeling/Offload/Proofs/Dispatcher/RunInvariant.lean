/-
**What holds of every run.**

Nothing is assumed here about what the device computes.  In every run jobs keep to their slots, no
worker dies, and no job that has been begun ends with the error of a closed device.

Main definitions:

* `Station.RunInv` — **the invariant**.

Main results:

* `Station.RunInv.turn` — every turn keeps the invariant;
* `Station.Run.runInv` — **every run of a dispatcher that has come up has it**.
-/

import Offload.Proofs.Device.Slotwise
import Offload.Proofs.Dispatcher.SlotTurn

set_option autoImplicit false
set_option relaxedAutoImplicit false

namespace Offload.Station

open Native Simulator

/-- What holds in every state of every run: the pool is sound, the device is open as long as jobs
run and has as many slots as it says, running jobs keep to their slots and end as on an open device,
calls are made for jobs that were begun, and no worker dies. -/
structure RunInv (compute : UInt32 → Bytes → Bytes) (setup : Setup) (n : Nat) (r : Run) :
    Prop where
  sound : r.IsSound
  deviceInv : DeviceInv setup n r.station
  slots : r.device.slots.length = setup.bufferCount.toNat
  running : ∀ i job run, r.pool.worker? i = some (.running job run) →
    run.rest.Meets (Exchange.slotSpec compute (UInt32.ofNat i))
      (fun end' _ => Exchange.IsOpenEnd end') ()
  ends : ∀ job i outcome, Pool.Event.returned job i outcome ∈ r.history → outcome ≠ .error .closed
  deeds : ∀ d ∈ r.deeds, ∃ i, Pool.Event.begun d.job i ∈ r.history
  alive : ∀ job i, Pool.Event.died job i ∉ r.history

variable {compute : UInt32 → Bytes → Bytes} {setup : Setup} {n : Nat} {r r' : Run} {i : Nat}
  {job : Pool.Job} {run : Exchange.Run}

namespace RunInv

/-! ### Running jobs -/

theorem content_isSome (hs : RunInv compute setup n r) (hi : i < setup.bufferCount.toNat) :
    (r.device.content? i).isSome = true := by
  rw [← hs.slots] at hi
  simp [content?, hi]

theorem keepsToSlots (hs : RunInv compute setup n r) (l : Ledger) :
    KeepsToSlots (r.withLedger l).station := by
  intro i job run hw
  obtain ⟨hlt, hi⟩ := hs.deviceInv.lt_of_worker? hw
  refine ⟨hi, hs.content_isSome hlt, ?_⟩
  intro o next hrest
  have hmeets := hs.running i job run hw
  rw [hrest] at hmeets
  exact hmeets.1

theorem slotInv (hs : RunInv compute setup n r) : SlotInv setup n r :=
  ⟨hs.sound, hs.deviceInv, hs.keepsToSlots r.station.ledger⟩

theorem session_eq (hs : RunInv compute setup n r) {w : Pool.Worker Exchange.Run}
    (hw : r.pool.worker? i = some w) (halive : w.hasEnded = false) :
    r.station.dispatcher.device.session = some ⟨token, n⟩ :=
  hs.slotInv.session_eq hw halive

theorem running_continues (hs : RunInv compute setup n r) {run' : Exchange.Run}
    {site : Exchange.Site Simulator} (hw : r.pool.worker? i = some (.running job run))
    (hstep : Exchange.step (driver compute) i run r.station.scheduler.shared =
      .continues run' site) :
    run'.rest.Meets (Exchange.slotSpec compute (UInt32.ofNat i))
      (fun end' _ => Exchange.IsOpenEnd end') () :=
  Exchange.slotwise_continues (hs.session_eq hw rfl) (hs.running i job run hw) hstep

/-! ### Every turn keeps the invariant -/

variable {t : Turn}

theorem running_turn (hs : RunInv compute setup n r) (ht : r.turn compute t = some r')
    (hw : r'.pool.worker? i = some (.running job run)) :
    run.rest.Meets (Exchange.slotSpec compute (UInt32.ofNat i))
      (fun end' _ => Exchange.IsOpenEnd end') () := by
  cases hs.slotInv.slotTurn ht i with
  | aside _ _ _ _ _ hrunning => exact hs.running i job run (hrunning job run hw).1
  | begin job' hw₀ hw' =>
      cases hw'.symm.trans hw
      exact Exchange.slotwise_deviceRound (hs.session_eq hw₀ rfl) _
  | goOn _ _ _ _ hw₀ hw' hstep =>
      cases hw'.symm.trans hw
      exact hs.running_continues hw₀ hstep
  | «return» _ _ _ _ _ hw' => cases hw'.symm.trans hw

/-- No job returns as on a closed device. -/
theorem ends_turn (hs : RunInv compute setup n r) (ht : r.turn compute t = some r')
    {outcome : Outcome Bytes} (h : Pool.Event.returned job i outcome ∈ r'.history) :
    outcome ≠ .error .closed := by
  cases hs.slotInv.slotTurn ht i with
  | aside _ hhistory => exact hs.ends job i outcome (hhistory _ h rfl (Or.inr rfl))
  | begin _ _ _ _ hhistory =>
      rw [hhistory] at h
      exact hs.ends job i outcome (by simpa using h)
  | goOn _ _ _ _ _ _ _ _ hhistory =>
      rw [hhistory] at h
      exact hs.ends job i outcome h
  | «return» job' run' outcome' hw hrest _ _ hhistory =>
      rw [hhistory] at h
      rcases List.mem_append.1 h with h | h
      · exact hs.ends job i outcome h
      · cases List.mem_singleton.1 h
        have hmeets := hs.running i job run' hw
        rw [hrest] at hmeets
        exact fun hclosed => hmeets (congrArg some hclosed)

/-- **Every turn keeps the invariant.** -/
theorem turn (hs : RunInv compute setup n r) (ht : r.turn compute t = some r') :
    RunInv compute setup n r' where
  sound := hs.sound.turn ht
  deviceInv := hs.slotInv.deviceInv_turn ht
  slots := (hs.slotInv.length_turn ht).trans hs.slots
  running _ _ _ hw := hs.running_turn ht hw
  ends _ _ _ h := hs.ends_turn ht h
  deeds := hs.slotInv.deeds_turn ht hs.deeds
  alive := hs.slotInv.alive_turn ht hs.alive

theorem startOn {d : Dispatcher} {w : World Simulator} (hd : d.IsUp setup)
    (hsetup : w.driver.setup = setup) (hopen : w.driver.isOpen = true)
    (hslots : w.driver.slots.length = setup.bufferCount.toNat) :
    RunInv compute setup d.bufferSize (Run.start d w) where
  sound := Run.isSound_start hd w
  deviceInv := DeviceInv.start hd hsetup hopen
  slots := hslots
  running i job run hrun := absurd hrun (Run.not_running_start hd w i job run)
  ends _ _ _ h := absurd h List.not_mem_nil
  deeds _ h := absurd h List.not_mem_nil
  alive _ _ := List.not_mem_nil

theorem comesUpOn {s : Simulator} {d : Dispatcher} {w : World Simulator}
    (hup : d.ComesUpOn compute s w) (hslots : s.slots.length = s.setup.bufferCount.toNat) :
    RunInv compute s.setup d.bufferSize (Run.start d w) := by
  obtain ⟨hd, hw⟩ := hup.isUp
  have hcontents : w.driver.outline.contents = s.outline.contents := by
    rw [hw]
    rfl
  refine startOn hd (congrArg Outline.setup hw) (congrArg Outline.isOpen hw) ?_
  rw [SlotInv.length_slots, hcontents, ← SlotInv.length_slots]
  exact hslots

theorem start {d : Dispatcher} {w : World Simulator} (hup : d.ComesUp compute setup w) :
    RunInv compute setup d.bufferSize (Run.start d w) :=
  comesUpOn hup.comesUpOn (by simp [Simulator.fresh])

end RunInv

/-- **Every run of a dispatcher that has come up has the invariant.** -/
theorem Run.runInv {d : Dispatcher} {w : World Simulator} {ts : List Turn}
    (hup : d.ComesUp compute setup w) (hr : turns compute ts (start d w) = some r) :
    RunInv compute setup d.bufferSize r :=
  foldlM_induction hr (RunInv.start hup) fun _ _ _ hs ht => hs.turn ht

theorem RunInv.turns {ts : List Turn} (hs : RunInv compute setup n r)
    (hr : Run.turns compute ts r = some r') : RunInv compute setup n r' :=
  foldlM_induction hr hs fun _ _ _ hs ht => hs.turn ht

end Offload.Station

/-
**The invariant of dispatchers on the simulated device.**

Main definitions:

* `Station.AnswerInv` — **what holds in every state of every run**.

Main results:

* `Station.AnswerInv.turn` — every turn keeps the invariant;
* `Station.Run.answerInv` — every run of a dispatcher that has come up has it.
-/

import Offload.Proofs.Dispatcher.Progress
import Offload.Proofs.Dispatcher.Served

set_option autoImplicit false
set_option relaxedAutoImplicit false

namespace Offload.Station

open Native Simulator

/-- What holds in every state of every run: the pool is sound, the device is open as long as jobs
run, all jobs fit, every slot holds what it should, clean jobs return what they should, calls are
made for jobs that were begun, and no worker dies. -/
structure AnswerInv (compute : UInt32 → Bytes → Bytes) (setup : Setup) (n : Nat) (r : Run) :
    Prop where
  sound : r.IsSound
  deviceInv : DeviceInv setup n r.station
  fits : r.Fits n
  served : ∀ i, i < setup.bufferCount.toNat → Served compute setup r i
  outcomes : ∀ job i outcome, Pool.Event.returned job i outcome ∈ r.history →
    Exchange.isClean (r.acts job) = true →
    outcome = Exchange.answer compute setup (UInt32.ofNat i) (Padding.pad job.input)
  deeds : ∀ d ∈ r.deeds, ∃ i, Pool.Event.begun d.job i ∈ r.history
  alive : ∀ job i, Pool.Event.died job i ∉ r.history

variable {compute : UInt32 → Bytes → Bytes} {setup : Setup} {n : Nat} {r r' : Run}
  {i : Nat} {job : Pool.Job} {run : Exchange.Run}

namespace AnswerInv

/-! ### What the invariant says about running jobs -/

theorem slotInv (hs : AnswerInv compute setup n r) : SlotInv setup n r := by
  refine ⟨hs.sound, hs.deviceInv, fun i job run hw => ?_⟩
  obtain ⟨hlt, hi⟩ := hs.deviceInv.lt_of_worker? hw
  obtain ⟨t, ht, -⟩ := (hs.served i hlt).content
  have hcontent : r.station.world.driver.content? i = some t := ht
  exact ⟨hi, by rw [hcontent]; rfl, ((hs.served i hlt).exchange job run hw).about⟩

/-- Where a job was accepted, the size of the regions is known. -/
theorem size_eq (hs : AnswerInv compute setup n r) (hn : n = setup.bufferSize.toNat ∨ n = 0)
    (hacc : Pool.Event.accepted job i ∈ r.history) :
    n = setup.bufferSize.toNat ∧ (Padding.pad job.input).length ≤ setup.bufferSize.toNat :=
  hs.fits.size_eq hn hacc

theorem session_eq (hs : AnswerInv compute setup n r) (hn : n = setup.bufferSize.toNat ∨ n = 0)
    (hacc : Pool.Event.accepted job i ∈ r.history) {w : Pool.Worker Exchange.Run}
    (hw : r.pool.worker? i = some w) (halive : w.hasEnded = false) :
    r.station.dispatcher.device.session = some ⟨token, setup.bufferSize.toNat⟩ :=
  hs.slotInv.session_of_fits hs.fits hn hacc hw halive

/-- No calls have been made for a job that was not begun. -/
theorem acts_eq_nil (hs : AnswerInv compute setup n r)
    (h : ∀ j, Pool.Event.begun job j ∉ r.history) : r.acts job = [] :=
  Run.acts_eq_nil hs.deeds h

/-! ### What a turn does to a slot -/

theorem served_of_begin (hs : AnswerInv compute setup n r) (hn : n = setup.bufferSize.toNat ∨ n = 0)
    (hcompute : ∀ slot message, (compute slot message).length < 2 ^ 32) (hsound' : r'.IsSound)
    (hw : r.pool.worker? i = some (.holding job))
    (hw' : r'.pool.worker? i = some (.running job
      (Exchange.begin i job.input r.station.scheduler.shared).1))
    (hdevice : r'.device = r.device) (hhistory : r'.history = r.history ++ [.begun job i])
    (hdeeds : r'.deeds = r.deeds) : Served compute setup r' i := by
  have hlt := (hs.deviceInv.lt_of_worker? hw).1
  obtain ⟨hacc, hnew⟩ := hs.sound.new_of_begin hsound' hhistory
  have hacts (job : Pool.Job) : r'.acts job = r.acts job := Run.acts_congr hdeeds
  have hnone : r'.acts job = [] := (hacts job).trans (hs.acts_eq_nil hnew)
  have hbegun : Pool.begun i r'.history = Pool.begun i r.history ++ [job] := by
    rw [hhistory]
    exact Pool.jobsOf_concat_of rfl rfl
  have hended : Pool.ended i r'.history = Pool.ended i r.history := by
    rw [hhistory]
    exact Pool.jobsOf_concat_of_not (by simp)
  obtain ⟨t, ht, hin, hout, hsent⟩ := (hs.served i hlt).content
  rw [← Run.sentBy_congr fun job _ => hacts job] at hsent
  refine ⟨⟨t, by rw [hdevice, ht], hin, hout, ?_⟩, fun job' run h => ?_⟩
  · rw [hbegun, Run.sentBy_append, Run.sentBy_singleton, hnone, hsent]
    simp [Exchange.hasSent]
  · obtain ⟨rfl, rfl⟩ : job = job' ∧
        (Exchange.begin i job.input r.station.scheduler.shared).1 = run := by
      simpa using hw'.symm.trans h
    -- whatever earlier jobs have left in the slot, the whole exchange is still to come
    refine ⟨rfl, ⟨setup, UInt32.ofNat i, r'.sentBy (Pool.ended i r'.history),
      Padding.pad job.input, hs.deviceInv.ofNat_lt hw, (hs.size_eq hn hacc).2⟩, rfl, rfl, rfl, rfl,
      ?_⟩
    refine Exchange.meets_deviceRound (t := t) (hcompute _ _) rfl (hs.session_eq hn hacc hw rfl)
      ⟨?_, hin, hout, ?_⟩ ?_
    · rw [hdevice, hs.slotInv.sight_eq hw rfl, ht]
    · rw [hnone, hsent, hs.sound.begun_eq_ended hw, hended]
      simp [Exchange.hasSent]
    · rw [hnone]
      rfl

theorem served_of_goOn (hs : AnswerInv compute setup n r) (hn : n = setup.bufferSize.toNat ∨ n = 0)
    (hcompute : ∀ slot message, (compute slot message).length < 2 ^ 32) {run' : Exchange.Run}
    {site : Exchange.Site Simulator} (hw : r.pool.worker? i = some (.running job run))
    (hw' : r'.pool.worker? i = some (.running job run'))
    (hstep : Exchange.step (driver compute) i run r.station.scheduler.shared =
      .continues run' site)
    (hdevice : r'.device = site.world.driver) (hhistory : r'.history = r.history)
    (hdeeds : r'.deeds =
      r.deeds ++ (actsOf compute run r.station.world).map fun act => ⟨job, act⟩) :
    Served compute setup r' i := by
  obtain ⟨hlt, hi⟩ := hs.deviceInv.lt_of_worker? hw
  have hex : InExchange compute setup r' i job run' :=
    ((hs.served i hlt).exchange job run hw).continues hcompute hi
      (hs.session_eq hn (hs.sound.accepted_of_running hw) hw rfl) hstep hdevice (by rw [hhistory])
      (Run.acts_self hdeeds)
      fun job' h => Run.acts_of_ne hdeeds (hs.sound.ne_of_ended hw h)
  refine ⟨hex.content ?_, fun job' run h => ?_⟩
  · rw [hhistory, hs.sound.begun_eq hw]
  · obtain ⟨rfl, rfl⟩ : job = job' ∧ run' = run := by simpa using hw'.symm.trans h
    exact hex

theorem served_of_return (hs : AnswerInv compute setup n r) {outcome : Outcome Bytes}
    (hw : r.pool.worker? i = some (.running job run))
    (hw' : r'.pool.worker? i = some (.finishing (.begin job outcome)))
    (hdevice : r'.device = r.device)
    (hhistory : r'.history = r.history ++ [.returned job i outcome]) (hdeeds : r'.deeds = r.deeds) :
    Served compute setup r' i := by
  have hbegun : Pool.begun i r'.history = Pool.begun i r.history := by
    rw [hhistory]
    exact Pool.jobsOf_concat_of_not (by simp)
  obtain ⟨t, ht, hin, hout, hsent⟩ := (hs.served i (hs.deviceInv.lt_of_worker? hw).1).content
  refine ⟨⟨t, ?_, hin, hout, ?_⟩, fun job' run h => ?_⟩
  · rw [hdevice, ht]
  · rw [hsent, hbegun]
    exact (Run.sentBy_congr fun job _ => Run.acts_congr hdeeds).symm
  · rw [hw'] at h
    cases h

/-- **A turn keeps the invariant of every slot.** -/
theorem served_turn (hs : AnswerInv compute setup n r) (hn : n = setup.bufferSize.toNat ∨ n = 0)
    (hcompute : ∀ slot message, (compute slot message).length < 2 ^ 32) {t : Turn}
    (ht : r.turn compute t = some r') (hi : i < setup.bufferCount.toNat) :
    Served compute setup r' i := by
  cases hs.slotInv.slotTurn ht i with
  | aside hcontent _ hbegun hended hacts hrunning =>
      refine (hs.served i hi).still hcontent hbegun hended hacts fun job run hw' => ?_
      obtain ⟨hw, hsight⟩ := hrunning job run hw'
      exact ⟨hw, hsight, hs.sound.begun_eq hw⟩
  | begin job hw hw' hdevice hhistory hdeeds =>
      exact hs.served_of_begin hn hcompute (hs.sound.turn ht) hw hw' hdevice hhistory hdeeds
  | goOn job run run' site hw hw' hstep hdevice hhistory hdeeds =>
      exact hs.served_of_goOn hn hcompute hw hw' hstep hdevice hhistory hdeeds
  | «return» job run outcome hw _ hw' hdevice hhistory hdeeds =>
      exact hs.served_of_return hw hw' hdevice hhistory hdeeds

/-- After a turn clean jobs have returned what they should. -/
theorem outcomes_turn (hs : AnswerInv compute setup n r) {t : Turn}
    (ht : r.turn compute t = some r') {outcome : Outcome Bytes}
    (h : Pool.Event.returned job i outcome ∈ r'.history)
    (hclean : Exchange.isClean (r'.acts job) = true) :
    outcome = Exchange.answer compute setup (UInt32.ofNat i) (Padding.pad job.input) := by
  cases hs.slotInv.slotTurn ht i with
  | aside _ hhistory _ _ hacts =>
      have hold := hhistory _ h rfl (Or.inr rfl)
      rw [hacts job (hs.sound.mem_begun_of_returned hold)] at hclean
      exact hs.outcomes job i outcome hold hclean
  | begin _ _ _ _ hhistory hdeeds =>
      rw [hhistory] at h
      rw [Run.acts_congr hdeeds] at hclean
      exact hs.outcomes job i outcome (by simpa using h) hclean
  | goOn job' _ _ _ hw _ _ _ hhistory hdeeds =>
      rw [hhistory] at h
      -- a job that has returned is not the one that goes on
      have hne : job' ≠ job := hs.sound.ne_of_ended hw (Pool.mem_jobsOf.2 ⟨_, h, rfl, rfl, rfl⟩)
      rw [Run.acts_of_ne hdeeds hne] at hclean
      exact hs.outcomes job i outcome h hclean
  | «return» job' run' outcome' hw hrest _ _ hhistory hdeeds =>
      rw [hhistory] at h
      rw [Run.acts_congr hdeeds] at hclean
      rcases List.mem_append.1 h with h | h
      · exact hs.outcomes job i outcome h hclean
      · cases List.mem_singleton.1 h
        have hserved := hs.served i (hs.deviceInv.lt_of_worker? hw).1
        exact (hserved.exchange job run' hw).returned hrest hclean

/-! ### Every turn -/

/-- **Every turn keeps the invariant.** -/
theorem turn (hs : AnswerInv compute setup n r) (hn : n = setup.bufferSize.toNat ∨ n = 0)
    (hcompute : ∀ slot message, (compute slot message).length < 2 ^ 32) {t : Turn}
    (ht : r.turn compute t = some r') : AnswerInv compute setup n r' where
  sound := hs.sound.turn ht
  deviceInv := hs.slotInv.deviceInv_turn ht
  fits := hs.fits.turn hs.deviceInv ht
  served _ hi := hs.served_turn hn hcompute ht hi
  outcomes _ _ _ h hclean := hs.outcomes_turn ht h hclean
  deeds := hs.slotInv.deeds_turn ht hs.deeds
  alive := hs.slotInv.alive_turn ht hs.alive

/-- **A dispatcher that has come up has the invariant.** -/
theorem start {d : Dispatcher} {w : World Simulator} (hup : d.ComesUp compute setup w) :
    AnswerInv compute setup d.bufferSize (Run.start d w) := by
  obtain ⟨hd, hw⟩ := hup.isUp
  have hdeviceInv := DeviceInv.start hd (congrArg Outline.setup hw) (congrArg Outline.isOpen hw)
  refine ⟨Run.isSound_start hd w, hdeviceInv, .start hd w, fun i hi => ⟨?_, ?_⟩, ?_, ?_, ?_⟩
  · rw [Run.content?_start hup hi]
    exact ⟨_, rfl, by simp [Slot.content, Slot.idle], by simp [Slot.content, Slot.idle], rfl⟩
  · exact fun job run hrun => absurd hrun (Run.not_running_start hd w i job run)
  · exact fun job i outcome h => absurd h List.not_mem_nil
  · exact fun d h => absurd h List.not_mem_nil
  · exact fun job i => List.not_mem_nil

end AnswerInv

/-- **Every run of a dispatcher that has come up has the invariant.** -/
theorem Run.answerInv {d : Dispatcher} {w : World Simulator} {ts : List Turn}
    (hcompute : ∀ slot message, (compute slot message).length < 2 ^ 32)
    (hup : d.ComesUp compute setup w) (hr : turns compute ts (start d w) = some r) :
    AnswerInv compute setup d.bufferSize r :=
  foldlM_induction hr (AnswerInv.start hup) fun _ _ _ hs ht => hs.turn hup.isUp.1.size hcompute ht

/-! ### Begun jobs come to their end -/

theorem Run.IsPaced.turn (hp : r.IsPaced) (hs : AnswerInv compute setup n r) {t : Turn}
    (ht : r.turn compute t = some r') : r'.IsPaced :=
  hs.slotInv.isPaced_turn hp ht

theorem AnswerInv.due (hs : AnswerInv compute setup n r) (hp : r.IsPaced)
    (hbegun : Pool.Event.begun job i ∈ r.history) :
    Due r i job (Exchange.effort (r.device.busyPolls (UInt32.ofNat i))) :=
  hs.slotInv.due hs.alive hp hbegun

/-- The worker of a job that is due can go on, unless its slot is held. -/
theorem Due.isSome_turn (hd : Due r i job n) {size : Nat} (hs : AnswerInv compute setup size r)
    (hheld : r.device.isHeld (UInt32.ofNat i) = false) :
    (∃ outcome, Pool.Event.resolved job i outcome ∈ r.history) ∨
      (r.turn compute (.move (.work i))).isSome = true :=
  hd.isSome_turn_work hs.slotInv hheld

/-- A job that is due is resolved in the end. -/
theorem resolved_of_turns {ts : List Turn} (hd : Due r i job n) {size : Nat}
    (hs : AnswerInv compute setup size r) (hsize : size = setup.bufferSize.toNat ∨ size = 0)
    (hcompute : ∀ slot message, (compute slot message).length < 2 ^ 32)
    (hheld : r.device.isHeld (UInt32.ofNat i) = false) (hr : Run.turns compute ts r = some r')
    (hh : ∀ t ∈ ts, t.hinders i = false) (hn : n ≤ ts.countP (Turn.isWork i)) :
    ∃ outcome, Pool.Event.resolved job i outcome ∈ r'.history :=
  hd.resolved_of_turns (fun _ hs => hs.slotInv) (fun _ _ _ hs ht => hs.turn hsize hcompute ht) hs
    hheld hr hh hn

end Offload.Station

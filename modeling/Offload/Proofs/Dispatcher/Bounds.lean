/-
**One bound, looked at four times.**

Whether a message fits the regions is looked at when its job is admitted, when its length is turned
into a number of 32 bits, when it is stored, and by the device when it is sent.  What is looked at is
not the same thing each time: the dispatcher goes by what it has been told of the size of the regions
when it came up, which may be nothing.  But a job that has been admitted passes the other checks
whatever happens, and no call made for it is one that the device has a reason to refuse.

Main definitions:

* `Station.Run.Admitted` — the jobs that have been admitted;
* `Station.Stores`, `Station.Permitted` — what the checks below say of a message and of a call;
* `Station.Reported` — the length of an output as the device has reported it to a job.

Main results:

* `Station.TranscriptInv.length_le` — an admitted message fits the regions as they are;
* `Station.TranscriptInv.permitted` — the device has no reason to refuse the next call of a job;
* `Station.TranscriptInv.reported` — **a bound is exceeded by outputs only**;
* `Station.Run.bounds_agree` — **all of it, in every run**.
-/

import Offload.Proofs.Dispatcher.RoundTrip
import Offload.Proofs.Dispatcher.JobTranscripts
import Offload.Proofs.Simulator.Obliges

set_option autoImplicit false
set_option relaxedAutoImplicit false

namespace Offload.Station

open Native Simulator

/-! ### What the checks say -/

/-- A run has admitted a job: it waits for the lock of the pool, holds it, or has been accepted. -/
def Run.Admitted (r : Run) (job : Pool.Job) : Prop :=
  job ∈ r.station.dispatcher.arrivals ∨ job ∈ r.pool.submission.toList.map (·.job) ∨
    ∃ i, Pool.Event.accepted job i ∈ r.history

/-- In a session a message can be stored in whatever view of its input region a slot gives. -/
def Stores (session : Session) (slot : UInt32) (message : Bytes) : Prop :=
  ∀ (σ : Type) (D : Driver σ) (w w' : World σ) (view : View),
    (D.run (session.inputView slot).run w).1 = .ok view →
      (D.run (view.copyIn message).run w').1 = .ok ()

/-- The device has no reason to refuse a call made for the job that runs on slot number `i`: the slot
exists, and a message that is sent is the padded one, which fits. -/
structure Permitted (compute : UInt32 → Bytes → Bytes) (setup : Setup) (r : Run) (i : Nat)
    (job : Pool.Job) (late : Bool) (c : Call) : Prop where
  slot : c.slot? = some (UInt32.ofNat i)
  slot_toNat : (UInt32.ofNat i).toNat = i
  slot_lt : UInt32.ofNat i < setup.bufferCount
  length : ∀ handle slot length, c = .send handle slot length →
    length.toNat = Padding.paddedLength job.input.length ∧ length ≤ setup.bufferSize
  obliges : Obliges compute late c r.device

/-- In the run from `r₀` the device has reported an output of this length to the job on slot number
`i`, which has waited for it. -/
def Reported (compute : UInt32 → Bytes → Bytes) (r₀ : Run) (ts : List Turn) (i : Nat)
    (job : Pool.Job) (n : Nat) : Prop :=
  ∃ length : UInt32, length.toNat = n ∧
    HasHeard compute r₀ ts i job
      (.reply (.value length : Reply (.wait (some token) (UInt32.ofNat i))))

variable {compute : UInt32 → Bytes → Bytes} {setup : Setup} {n : Nat} {r₀ r : Run}
  {ts : List Turn} {i : Nat} {job : Pool.Job} {run : Exchange.Run}

/-- A length that a job has heard is one that the device has reported. -/
theorem HasHeard.reported {reply : Reply (.wait (some token) (UInt32.ofNat i))} {requested : Nat}
    (h : HasHeard compute r₀ ts i job (.reply reply))
    (hstored : reply.stored.map UInt32.toNat = some requested) :
    Reported compute r₀ ts i job requested := by
  obtain ⟨length, hlength, rfl⟩ := Option.map_eq_some_iff.1 hstored
  have hvalue : reply = .value length := by
    obtain ⟨_, _, r, -, -, run, -, -, -, -, hanswer⟩ := h
    have hreply : (Simulator.reply compute run.entered (.wait (some token) (UInt32.ofNat i))
        r.device).1 = reply :=
      (Exchange.answered_call compute run.entered _ r.station.world).1.symm.trans hanswer
    rcases wait_cases compute run.entered (some token) (UInt32.ofNat i) r.device with
      ⟨status, hplain⟩ | ⟨value, hvalue⟩
    · rw [← hreply, hplain] at hlength
      cases hlength
    · rw [← hreply, hvalue] at hlength ⊢
      cases hlength
      rfl
  exact ⟨length, rfl, hvalue ▸ h⟩

namespace TranscriptInv

/-- **An admitted message fits the regions as they are**, whatever the dispatcher has been told of
their size. -/
theorem length_le (hc : TranscriptInv compute setup n r₀ ts r)
    (hn : n = setup.bufferSize.toNat ∨ n = 0) (h : r.Admitted job) :
    (Padding.pad job.input).length ≤ setup.bufferSize.toNat := by
  have hfits : Padding.paddedLength job.input.length ≤ n := by
    rcases h with h | h | ⟨i, h⟩
    · exact hc.fits.arrivals job h
    · exact hc.fits.holder job h
    · exact hc.fits.accepted job i h
  rwa [Padding.length_pad, ← size_eq_of_paddedLength_le hn hfits]

theorem admitted_of_running (hc : TranscriptInv compute setup n r₀ ts r)
    (hw : r.pool.worker? i = some (.running job run)) : r.Admitted job :=
  Or.inr (Or.inr ⟨i, hc.runInv.sound.accepted_of_running hw⟩)

/-- **The device has no reason to refuse the next call of a job.** -/
theorem permitted (hc : TranscriptInv compute setup n r₀ ts r)
    (hn : n = setup.bufferSize.toNat ∨ n = 0) (hw : r.pool.worker? i = some (.running job run))
    {c : Call} {next : Reply c → Program (Option (Outcome Bytes))}
    (hrest : run.rest = .step (.call c) next) :
    Permitted compute setup r i job run.entered c := by
  have hs := hc.runInv
  have hfits := hc.length_le hn (hc.admitted_of_running hw)
  obtain ⟨-, T, -, hmeets⟩ := hc.running i job run hw
  rw [hrest] at hmeets
  obtain ⟨hhandle, hslot, hlength⟩ :=
    Exchange.about_of_mem_script (Exchange.mem_script_of_meets hmeets)
  obtain ⟨hcount, hi⟩ := hs.deviceInv.lt_of_worker? hw
  have hnumber : (UInt32.ofNat i).toNat = i := UInt32.toNat_ofNat_of_lt' hi
  have hlt : UInt32.ofNat i < setup.bufferCount := hs.deviceInv.ofNat_lt hw
  have hsend : ∀ handle slot length, c = .send handle slot length →
      length.toNat = Padding.paddedLength job.input.length ∧ length ≤ setup.bufferSize := by
    intro handle slot length heq
    obtain ⟨-, hexact, hle⟩ := Exchange.messageLength_of_le hfits
    rw [hlength handle slot length heq, ← Padding.length_pad]
    exact ⟨hexact, hle⟩
  obtain ⟨t, ht⟩ := Option.isSome_iff_exists.1 (hs.content_isSome hcount)
  have hsetup : r.device.setup = setup := hs.deviceInv.setup
  have hopen : r.device.isOpen = true :=
    hs.deviceInv.isOpen (hs.deviceInv.early_of_alive hs.sound hw rfl)
  refine ⟨hslot, hnumber, hlt, hsend, obliges_reply run.entered c hopen hhandle hslot
    (hsetup ▸ hlt) ?_ (by rw [hnumber]; exact ht)⟩
  rw [hsetup]
  exact fun handle slot length heq => (hsend handle slot length heq).2

/-- **A bound is exceeded by outputs only.**  A job that is resolved with the error of a bound has been
told by the device of an output that does not fit the regions. -/
theorem reported (hc : TranscriptInv compute setup n r₀ ts r)
    (hn : n = setup.bufferSize.toNat ∨ n = 0) {requested capacity : Nat}
    (h : Pool.Event.resolved job i (.error (.bufferBounds requested capacity)) ∈ r.history) :
    capacity = setup.bufferSize.toNat ∧ setup.bufferSize.toNat < requested ∧
      Reported compute r₀ ts i job requested := by
  have hsound := hc.runInv.sound
  have hacc := hsound.accepted_of_mem h rfl
  have hfits := hc.length_le hn (Or.inr (Or.inr ⟨i, hacc⟩))
  -- it has run, since a job that has not is resolved with another error
  obtain ⟨lane, -, hcustody⟩ := hsound.custody_of_accepted hacc
  rcases hcustody.resolved_due job _ h with hreturned | ⟨hclosed, -⟩
  · obtain ⟨T, hheard, hconducted⟩ := (hc.returned i job _ hreturned).conducted
    obtain ⟨hcapacity, hlong, reply, hreply, hstored⟩ := hconducted.bufferBounds hfits
    exact ⟨hcapacity, hlong, (hheard _ hreply).reported hstored⟩
  · cases hclosed

end TranscriptInv

/-! ### Every run -/

namespace Run

/-- **Admission agrees with the checks further down**, in every run of a dispatcher that has come up
on a simulated device.  The length of the message of a job that has been admitted is given to the
device as it is.  While the job runs its message can be stored in the input region of its slot, and
whatever call is made for it next, the slot is one of the device's, a message that is sent is not too
long, and the device answers as the injected faults say or with success.  A job that is resolved with
the error of a bound has been told of an output that does not fit the regions, and the error tells the
length of that output and the size of the regions. -/
theorem bounds_agree {s : Simulator} {d : Dispatcher} {w : World Simulator}
    (hslots : s.slots.length = s.setup.bufferCount.toNat) (hup : d.ComesUpOn compute s w)
    (hr : turns compute ts (start d w) = some r) :
    (∀ job, r.Admitted job → ∃ length : UInt32,
      Exchange.messageLength (Padding.pad job.input) = .ok length ∧
        length.toNat = Padding.paddedLength job.input.length ∧ length ≤ s.setup.bufferSize) ∧
    (∀ i job run, r.pool.worker? i = some (.running job run) → run.input = job.input ∧
      (∃ session, r.station.dispatcher.device.session = some session ∧
        Stores session (UInt32.ofNat i) (Padding.pad job.input)) ∧
      ∀ c next, run.rest = .step (.call c) next →
        Permitted compute s.setup r i job run.entered c) ∧
    ∀ job i requested capacity,
      Pool.Event.resolved job i (.error (.bufferBounds requested capacity)) ∈ r.history →
        capacity = s.setup.bufferSize.toNat ∧ s.setup.bufferSize.toNat < requested ∧
          Reported compute (start d w) ts i job requested := by
  have hd := hup.isUp.1
  have hc := (TranscriptInv.startOn hd (.comesUpOn hup hslots)).turns hd.size hr
  refine ⟨fun job h => ?_, fun i job run hw => ⟨(hc.running i job run hw).1, ?_, ?_⟩,
    fun job i _ _ h => hc.reported hd.size h⟩
  · have hfits := hc.length_le hd.size h
    obtain ⟨hlength, hexact, hle⟩ := Exchange.messageLength_of_le hfits
    exact ⟨_, hlength, hexact.trans (Padding.length_pad _), hle⟩
  · have hfits := hc.length_le hd.size (hc.admitted_of_running hw)
    have hacc := hc.runInv.sound.accepted_of_running hw
    exact ⟨_, hc.session_eq hd.size hacc hw rfl,
      fun σ D w w' view hview => Session.copyIn_inputView D hview hfits w'⟩
  · exact fun c next hrest => hc.permitted hd.size hw hrest

/-- A dispatcher on a device with one slot of 64 bytes that answers a message with the message and
the message again. -/
def verbose : Outcome Dispatcher × World Simulator :=
  (driver Exchange.twice).run (Dispatcher.bringUp none .standard).run
    ⟨Simulator.fresh oneSlot, default⟩

/-- A job runs on it that is struck when it gives its output back. -/
def overflown : List Turn :=
  .execute [1] :: .move (.enter 0) :: often 6 .proceed ++
    .hook (.failNext ⟨.discard, some 0, .driverError⟩) :: often 22 (.work 0)

theorem history_overflown :
    (verbose.1.toOption.bind fun d => turns Exchange.twice overflown (start d verbose.2)).map
      Run.history = some [.accepted ⟨0, [1]⟩ 0, .begun ⟨0, [1]⟩ 0,
        .returned ⟨0, [1]⟩ 0 (.error (.bufferBounds 128 64)),
        .resolved ⟨0, [1]⟩ 0 (.error (.bufferBounds 128 64))] := by
  decide +kernel

/-- The job is admitted, its message is given to the device with 64 bytes, and the device has reported
an output of 128 bytes to it. -/
theorem bounds_agree_overflown :
    ∃ d w r, d.ComesUpOn Exchange.twice (Simulator.fresh oneSlot) w ∧
      turns Exchange.twice overflown (start d w) = some r ∧ r.Admitted ⟨0, [1]⟩ ∧
      Exchange.messageLength (Padding.pad [1]) = .ok 64 ∧
      Reported Exchange.twice (start d w) overflown 0 ⟨0, [1]⟩ 128 := by
  obtain ⟨r, hr, hhistory⟩ := Option.map_eq_some_iff.1 history_overflown
  obtain ⟨d, hd, hr⟩ := Option.bind_eq_some_iff.1 hr
  have hup : d.ComesUpOn Exchange.twice (Simulator.fresh oneSlot) verbose.2 :=
    (Dispatcher.comesUp_of_toOption hd).comesUpOn
  have hadmitted : r.Admitted ⟨0, [1]⟩ := Or.inr (Or.inr ⟨0, by simp [hhistory]⟩)
  obtain ⟨hadmission, -, hresolved⟩ := bounds_agree (by decide) hup hr
  refine ⟨d, verbose.2, r, hup, hr, hadmitted, ?_, ?_⟩
  · obtain ⟨length, hlength, hexact, -⟩ := hadmission _ hadmitted
    rw [hlength, show length = 64 from UInt32.toNat_inj.1 hexact]
  · exact (hresolved ⟨0, [1]⟩ 0 128 64 (by simp [hhistory])).2.2

end Run

end Offload.Station

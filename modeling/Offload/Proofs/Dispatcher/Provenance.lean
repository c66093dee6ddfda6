/-
**Whose answer a job brings back.**

A job brings back the answer to its own message, or nothing at all, or what an earlier job of its
slot has left there: an earlier job that has sent its message and ended without waiting for the
output leaves its answer behind, and a later job whose call to send its own message has timed out
takes that answer for its own.  Nothing is assumed here about what the device computes.

Main definitions:

* `Station.answerTo` — the answer to a job;
* `Station.LeftBy` — what the earlier jobs of a slot have left there;
* `Station.Provenance` — where the bytes that a job has brought back come from;
* `Station.Accounted` — **the invariant of one slot**.

Main results:

* `Station.Accounting.turn` — every turn keeps the invariant;
* `Station.Run.answer_provenance` — **where the bytes come from, in every run**;
* `Station.Run.not_own_struckTwice` — a run in which a job brings back the answer to another one.
-/

import Offload.Proofs.Device.Leftover
import Offload.Proofs.Dispatcher.RoundTrip
import Offload.Proofs.Dispatcher.RunInvariant

set_option autoImplicit false
set_option relaxedAutoImplicit false

namespace Offload.Station

open Native Simulator

/-! ### What is left in a slot -/

variable (compute : UInt32 → Bytes → Bytes) (setup : Setup)

/-- The answer to a job, as the driver reports it. -/
def answerTo (i : Nat) (job : Pool.Job) : Bytes :=
  Exchange.deliverable compute (UInt32.ofNat i) (Padding.pad job.input)

/-- An answer that is pending in a slot is the answer to a job that has sent its message and ended
without waiting for the output; as much of it as fits is in the output region. -/
def LeftBy (r : Run) (i : Nat) (t : Content) : Prop :=
  ∀ length, t.pending = some length → ∃ job ∈ Pool.ended i r.history,
    Exchange.hasSent (r.acts job) = true ∧ Exchange.hasWaited (r.acts job) = false ∧
      (length.toNat ≤ setup.bufferSize.toNat →
        t.output.take length.toNat = answerTo compute i job)

/-- Where the bytes that a job has brought back come from. -/
inductive Provenance (r : Run) (i : Nat) (job : Pool.Job) (bytes : Bytes) : Prop
  /-- It has sent its message, and they are the answer to it. -/
  | own (hsent : Exchange.hasSent (r.acts job) = true) (h : bytes = answerTo compute i job)
  /-- There are none: a call of the job has timed out. -/
  | nothing (h : bytes = []) (htimedOut : Exchange.hasTimedOut (r.acts job) = true)
  /-- They are the answer to an earlier job of the slot, which had sent its message and not waited
  for the output.  The job has not sent its own message: its call to do so has timed out. -/
  | leftover (earlier : Pool.Job) (horder : [earlier, job].Sublist (Pool.ended i r.history))
      (hmissed : Exchange.hasMissed (r.acts job) = true)
      (hnot : Exchange.hasSent (r.acts job) = false)
      (hsent : Exchange.hasSent (r.acts earlier) = true)
      (hwaited : Exchange.hasWaited (r.acts earlier) = false)
      (h : bytes = answerTo compute i earlier)

/-! ### The invariant of one slot -/

/-- A job that is running, and whose answer will be explained. -/
structure Explicable (r : Run) (i : Nat) (job : Pool.Job) (run : Exchange.Run) : Prop where
  input : run.input = job.input
  meets : ∃ (k : Exchange.Task) (t₀ : Content), k.setup = setup ∧ k.slot = UInt32.ofNat i ∧
    k.message = Padding.pad job.input ∧ LeftBy compute setup r i t₀ ∧
    run.rest.Meets (Exchange.opSpec compute k) (k.Leaves compute t₀)
      (r.device.sight i, r.acts job)

/-- What holds of a slot through a run: while no job runs on it, what is pending in it was left by
an earlier job; the answer of its running job will be explained; and where the bytes come from that
its jobs have brought back. -/
structure Accounted (r : Run) (i : Nat) : Prop where
  idle : i < setup.bufferCount.toNat → Pool.begun i r.history = Pool.ended i r.history →
    ∃ t, r.device.content? i = some t ∧ t.input.length = setup.bufferSize.toNat ∧
      t.output.length = setup.bufferSize.toNat ∧ LeftBy compute setup r i t
  running : ∀ job run, r.pool.worker? i = some (.running job run) →
    Explicable compute setup r i job run
  results : ∀ job bytes, Pool.Event.returned job i (.ok bytes) ∈ r.history →
    Provenance compute r i job bytes

variable {compute setup} {n : Nat} {r r' : Run} {i : Nat} {job : Pool.Job} {run : Exchange.Run}
  {t t' : Content} {bytes : Bytes}

theorem LeftBy.later (hl : LeftBy compute setup r i t)
    (hended : Pool.ended i r.history ⊆ Pool.ended i r'.history)
    (hacts : ∀ job ∈ Pool.ended i r.history, r'.acts job = r.acts job) :
    LeftBy compute setup r' i t := by
  intro length hpending
  obtain ⟨job, hjob, hsent, hwaited, h⟩ := hl length hpending
  exact ⟨job, hended hjob, by rw [hacts job hjob, hsent], by rw [hacts job hjob, hwaited], h⟩

theorem Provenance.later (hp : Provenance compute r i job bytes)
    (hjob : job ∈ Pool.ended i r.history)
    (hended : (Pool.ended i r.history).Sublist (Pool.ended i r'.history))
    (hacts : ∀ job ∈ Pool.ended i r.history, r'.acts job = r.acts job) :
    Provenance compute r' i job bytes := by
  have hown := hacts job hjob
  cases hp with
  | own hsent h => exact .own (by rw [hown, hsent]) h
  | nothing h htimedOut => exact .nothing h (by rw [hown, htimedOut])
  | leftover earlier horder hmissed hnot hsent hwaited h =>
      have hearlier := hacts earlier (horder.subset List.mem_cons_self)
      exact .leftover earlier (horder.trans hended) (by rw [hown, hmissed]) (by rw [hown, hnot])
        (by rw [hearlier, hsent]) (by rw [hearlier, hwaited]) h

theorem mem_ended {outcome : Outcome Bytes}
    (h : Pool.Event.returned job i outcome ∈ r.history) : job ∈ Pool.ended i r.history :=
  Pool.mem_jobsOf.2 ⟨_, h, rfl, rfl, rfl⟩

/-! ### Jobs that end -/

variable {k : Exchange.Task} {t₀ : Content} {v : Exchange.Look}

/-- A job that ends leaves its own answer pending, or what it has found in its slot, or nothing. -/
theorem LeftBy.ended (hl : LeftBy compute k.setup r i t₀) (hleft : k.Left compute t₀ v t)
    (hanswer : Exchange.deliverable compute k.slot k.message = answerTo compute i job)
    (hended : Pool.ended i r'.history = Pool.ended i r.history ++ [job])
    (hv : v.2 = r.acts job) (hacts : ∀ job, r'.acts job = r.acts job) :
    LeftBy compute k.setup r' i t := by
  intro length hpending
  rw [hleft.pending] at hpending
  cases hwaited : Exchange.hasWaited v.2 with
  | true => simp [hwaited] at hpending
  | false =>
      cases hsent : Exchange.hasSent v.2 with
      | true =>
          -- the job leaves its own answer behind
          obtain rfl : k.reported compute = length := by simpa [hwaited, hsent] using hpending
          have hjob : job ∈ Pool.ended i r'.history := by
            rw [hended]
            exact List.mem_append_right _ (List.mem_singleton_self _)
          refine ⟨job, hjob, by rw [hacts, ← hv, hsent], by rw [hacts, ← hv, hwaited], ?_⟩
          intro hle
          rw [← hanswer]
          exact hleft.take_output hsent hle
      | false =>
          -- and otherwise what it has found
          have hpending₀ : t₀.pending = some length := by simpa [hwaited, hsent] using hpending
          have houtput : t.output = t₀.output := by rw [hleft.output, if_neg (by simp [hsent])]
          rw [houtput]
          refine hl.later ?_ (fun job _ => hacts job) length hpending₀
          rw [hended]
          exact List.subset_append_left _ _

/-- The bytes that a job has brought back are explained by its calls and by what was left in its
slot. -/
theorem Provenance.ended (hl : LeftBy compute k.setup r i t₀)
    (hexplains : k.Explains compute t₀ (r.acts job) bytes)
    (hanswer : Exchange.deliverable compute k.slot k.message = answerTo compute i job)
    (hended : Pool.ended i r'.history = Pool.ended i r.history ++ [job])
    (hacts : ∀ job, r'.acts job = r.acts job) : Provenance compute r' i job bytes := by
  cases hexplains with
  | own hsent h => exact .own (by rw [hacts, hsent]) (h.trans hanswer)
  | nothing h htimedOut => exact .nothing h (by rw [hacts, htimedOut])
  | found hmissed hsent length hpending hle h =>
      obtain ⟨earlier, hearlier, hsent', hwaited', houtput⟩ := hl length hpending
      refine .leftover earlier ?_ (by rw [hacts, hmissed]) (by rw [hacts, hsent])
        (by rw [hacts, hsent']) (by rw [hacts, hwaited']) (h.trans (houtput hle))
      rw [hended]
      exact (List.singleton_sublist.2 hearlier).append (List.Sublist.refl [job])

/-! ### What a turn does to a slot -/

/-- What holds in every state of every run. -/
structure Accounting (compute : UInt32 → Bytes → Bytes) (setup : Setup) (n : Nat) (r : Run) :
    Prop where
  runInv : RunInv compute setup n r
  fits : r.Fits n
  slots : ∀ i, Accounted compute setup r i

namespace Accounting

theorem session_eq (ha : Accounting compute setup n r) (hn : n = setup.bufferSize.toNat ∨ n = 0)
    (hacc : Pool.Event.accepted job i ∈ r.history) {w : Pool.Worker Exchange.Run}
    (hw : r.pool.worker? i = some w) (halive : w.hasEnded = false) :
    r.station.dispatcher.device.session = some ⟨token, setup.bufferSize.toNat⟩ :=
  ha.runInv.slotInv.session_of_fits ha.fits hn hacc hw halive

theorem ended_subset_begun (ha : Accounting compute setup n r) :
    ∀ job ∈ Pool.ended i r.history, job ∈ Pool.begun i r.history := by
  intro job hjob
  obtain ⟨e, he, -, hslot, rfl⟩ := Pool.mem_jobsOf.1 hjob
  obtain ⟨lane, -, hc⟩ := ha.runInv.sound.custody_of_accepted
    (ha.runInv.sound.accepted_of_mem he hslot)
  rw [hc.begun_eq]
  exact List.mem_append_left _ hjob

theorem accounted_aside (ha : Accounting compute setup n r)
    (hcontent : r'.device.content? i = r.device.content? i)
    (hhistory : ∀ e ∈ r'.history, e.slot? = some i → e.isStart = true ∨ e.isEnd = true →
      e ∈ r.history)
    (hbegun : Pool.begun i r'.history = Pool.begun i r.history)
    (hended : Pool.ended i r'.history = Pool.ended i r.history)
    (hacts : ∀ job ∈ Pool.begun i r.history, r'.acts job = r.acts job)
    (hrunning : ∀ job run, r'.pool.worker? i = some (.running job run) →
      r.pool.worker? i = some (.running job run) ∧ r'.device.sight i = r.device.sight i) :
    Accounted compute setup r' i := by
  have hold : ∀ job ∈ Pool.ended i r.history, r'.acts job = r.acts job := fun job h =>
    hacts job (ha.ended_subset_begun job h)
  have hsub : Pool.ended i r.history ⊆ Pool.ended i r'.history := by
    rw [hended]
    exact List.Subset.refl _
  refine ⟨?_, ?_, ?_⟩
  · intro hlt hidle
    rw [hbegun, hended] at hidle
    obtain ⟨t, ht, hin, hout, hl⟩ := (ha.slots i).idle hlt hidle
    exact ⟨t, hcontent.trans ht, hin, hout, hl.later hsub hold⟩
  · intro job run hw'
    obtain ⟨hw, hsight⟩ := hrunning job run hw'
    obtain ⟨hinput, k, t₀, hsetup, hslot, hmessage, hl, hmeets⟩ := (ha.slots i).running job run hw
    refine ⟨hinput, k, t₀, hsetup, hslot, hmessage, hl.later hsub hold, ?_⟩
    rw [hsight, hacts job (ha.runInv.sound.mem_begun hw)]
    exact hmeets
  · intro job bytes h
    have h := hhistory _ h rfl (Or.inr rfl)
    exact ((ha.slots i).results job bytes h).later (mem_ended h) (by rw [hended]) hold

/-- A job that begins to run finds in its slot what earlier jobs have left there. -/
theorem accounted_begin (ha : Accounting compute setup n r)
    (hn : n = setup.bufferSize.toNat ∨ n = 0) (hsound' : r'.IsSound)
    (hw : r.pool.worker? i = some (.holding job))
    (hw' : r'.pool.worker? i = some (.running job
      (Exchange.begin i job.input r.station.scheduler.shared).1))
    (hdevice : r'.device = r.device) (hhistory : r'.history = r.history ++ [.begun job i])
    (hdeeds : r'.deeds = r.deeds) : Accounted compute setup r' i := by
  have hs := ha.runInv
  have hlt := (hs.deviceInv.lt_of_worker? hw).1
  obtain ⟨hacc, hnew⟩ := hs.sound.new_of_begin hsound' hhistory
  have hacts (job : Pool.Job) : r'.acts job = r.acts job := Run.acts_congr hdeeds
  have hnone : r'.acts job = [] := (hacts job).trans (Run.acts_eq_nil hs.deeds hnew)
  have hended : Pool.ended i r'.history = Pool.ended i r.history := by
    rw [hhistory]
    exact Pool.jobsOf_concat_of_not (by simp)
  obtain ⟨t, ht, hin, hout, hl⟩ := (ha.slots i).idle hlt (hs.sound.begun_eq_ended hw)
  refine ⟨fun _ hidle => ?_, fun job' run h => ?_, fun job' bytes h => ?_⟩
  · -- the slot is not idle
    have hrunning := hsound'.begun_eq hw'
    rw [hidle] at hrunning
    simp at hrunning
  · obtain ⟨rfl, rfl⟩ : job = job' ∧
        (Exchange.begin i job.input r.station.scheduler.shared).1 = run := by
      simpa using hw'.symm.trans h
    have hl' : LeftBy compute setup r' i t := by
      refine hl.later ?_ fun job _ => hacts job
      rw [hended]
      exact List.Subset.refl _
    refine ⟨rfl, ⟨setup, UInt32.ofNat i, t.sent, Padding.pad job.input, hs.deviceInv.ofNat_lt hw,
      (ha.fits.size_eq hn hacc).2⟩, t, rfl, rfl, rfl, hl', ?_⟩
    rw [hnone]
    refine Exchange.leaves_deviceRound rfl (ha.session_eq hn hacc hw rfl)
      ⟨⟨?_, hin, hout, ?_⟩, ?_, ?_⟩ rfl rfl
    · rw [hdevice, hs.slotInv.sight_eq hw rfl, ht]
    · exact (List.append_nil _).symm
    · rfl
    · rfl
  · rw [hhistory] at h
    have h : Pool.Event.returned job' i (.ok bytes) ∈ r.history := by simpa using h
    exact ((ha.slots i).results job' bytes h).later (mem_ended h) (by rw [hended])
      fun job _ => hacts job

theorem accounted_goOn (ha : Accounting compute setup n r)
    (hn : n = setup.bufferSize.toNat ∨ n = 0) {run' : Exchange.Run}
    {site : Exchange.Site Simulator} (hsound' : r'.IsSound)
    (hw : r.pool.worker? i = some (.running job run))
    (hw' : r'.pool.worker? i = some (.running job run'))
    (hstep : Exchange.step (driver compute) i run r.station.scheduler.shared =
      .continues run' site)
    (hdevice : r'.device = site.world.driver) (hhistory : r'.history = r.history)
    (hdeeds : r'.deeds =
      r.deeds ++ (actsOf compute run r.station.world).map fun act => ⟨job, act⟩) :
    Accounted compute setup r' i := by
  have hs := ha.runInv
  have hi := (hs.deviceInv.lt_of_worker? hw).2
  have hold : ∀ job' ∈ Pool.ended i r.history, r'.acts job' = r.acts job' := fun job' h =>
    Run.acts_of_ne hdeeds (hs.sound.ne_of_ended hw h)
  refine ⟨fun _ hidle => ?_, fun job' run'' h => ?_, fun job' bytes h => ?_⟩
  · have hrunning := hsound'.begun_eq hw'
    rw [hidle] at hrunning
    simp at hrunning
  · obtain ⟨rfl, rfl⟩ : job = job' ∧ run' = run'' := by simpa using hw'.symm.trans h
    obtain ⟨hinput, k, t₀, hsetup, hslot, hmessage, hl, hmeets⟩ := (ha.slots i).running job run hw
    have hslot' : k.slot.toNat = i := by rw [hslot, UInt32.toNat_ofNat_of_lt' hi]
    have hsession := ha.session_eq hn (hs.sound.accepted_of_running hw) hw rfl
    obtain ⟨hinput', hmeets'⟩ := meets_continues hslot' hmeets hstep (by
      rintro ⟨hleft, hsent, hwaited⟩
      rw [hinput, ← hslot]
      refine Exchange.leaves_deviceRound hmessage.symm ?_ hleft hsent hwaited
      rw [Exchange.Task.session, hsetup]
      exact hsession)
    refine ⟨hinput'.trans hinput, k, t₀, hsetup, hslot, hmessage, hl.later ?_ hold, ?_⟩
    · rw [hhistory]
      exact List.Subset.refl _
    · rw [hdevice, Run.acts_self hdeeds]
      exact hmeets'
  · rw [hhistory] at h
    exact ((ha.slots i).results job' bytes h).later (mem_ended h) (by rw [hhistory]) hold

/-- A job that returns leaves its answer in its slot, if it has sent its message and not waited for
the output. -/
theorem accounted_return (ha : Accounting compute setup n r) {outcome : Outcome Bytes}
    (hw : r.pool.worker? i = some (.running job run)) (hrest : run.rest = .done (some outcome))
    (hw' : r'.pool.worker? i = some (.finishing (.begin job outcome)))
    (hdevice : r'.device = r.device)
    (hhistory : r'.history = r.history ++ [.returned job i outcome]) (hdeeds : r'.deeds = r.deeds) :
    Accounted compute setup r' i := by
  have hacts (job : Pool.Job) : r'.acts job = r.acts job := Run.acts_congr hdeeds
  have hended : Pool.ended i r'.history = Pool.ended i r.history ++ [job] := by
    rw [hhistory]
    exact Pool.jobsOf_concat_of rfl rfl
  have hsub : (Pool.ended i r.history).Sublist (Pool.ended i r'.history) := by
    rw [hended]
    exact List.sublist_append_left _ _
  obtain ⟨hinput, k, t₀, rfl, hslot, hmessage, hl, hmeets⟩ := (ha.slots i).running job run hw
  rw [hrest] at hmeets
  obtain ⟨t, hleft, hexplains⟩ := hmeets
  have hanswer : Exchange.deliverable compute k.slot k.message = answerTo compute i job := by
    rw [hslot, hmessage]
    rfl
  refine ⟨fun _ _ => ⟨t, ?_, hleft.kept.input, hleft.kept.output,
    hl.ended hleft hanswer hended rfl hacts⟩, fun job' run' h => ?_, fun job' bytes h => ?_⟩
  · rw [hdevice]
    exact congrArg Sight.content? hleft.kept.sight
  · rw [hw'] at h
    cases h
  · rw [hhistory] at h
    rcases List.mem_append.1 h with h | h
    · exact ((ha.slots i).results job' bytes h).later (mem_ended h) hsub fun job _ => hacts job
    · cases List.mem_singleton.1 h
      exact .ended hl (hexplains bytes rfl) hanswer hended hacts

/-- **A turn keeps the invariant of every slot.** -/
theorem accounted_turn (ha : Accounting compute setup n r)
    (hn : n = setup.bufferSize.toNat ∨ n = 0) {t : Turn} (ht : r.turn compute t = some r')
    (i : Nat) : Accounted compute setup r' i := by
  have hsound' := ha.runInv.sound.turn ht
  cases ha.runInv.slotInv.slotTurn ht i with
  | aside hcontent hhistory hbegun hended hacts hrunning =>
      exact ha.accounted_aside hcontent hhistory hbegun hended hacts hrunning
  | begin job hw hw' hdevice hhistory hdeeds =>
      exact ha.accounted_begin hn hsound' hw hw' hdevice hhistory hdeeds
  | goOn job run run' site hw hw' hstep hdevice hhistory hdeeds =>
      exact ha.accounted_goOn hn hsound' hw hw' hstep hdevice hhistory hdeeds
  | «return» job run outcome hw hrest hw' hdevice hhistory hdeeds =>
      exact ha.accounted_return hw hrest hw' hdevice hhistory hdeeds

/-- **Every turn keeps the invariant.** -/
theorem turn (ha : Accounting compute setup n r) (hn : n = setup.bufferSize.toNat ∨ n = 0)
    {t : Turn} (ht : r.turn compute t = some r') : Accounting compute setup n r' where
  runInv := ha.runInv.turn ht
  fits := ha.fits.turn ha.runInv.deviceInv ht
  slots i := ha.accounted_turn hn ht i

theorem start {d : Dispatcher} {w : World Simulator} (hup : d.ComesUp compute setup w) :
    Accounting compute setup d.bufferSize (Run.start d w) := by
  obtain ⟨hd, hw⟩ := hup.isUp
  refine ⟨RunInv.start hup, .start hd w, fun i => ⟨fun hi _ => ?_, ?_, ?_⟩⟩
  · rw [Run.content?_start hup hi]
    exact ⟨_, rfl, by simp [Slot.content, Slot.idle], by simp [Slot.content, Slot.idle],
      by rintro _ ⟨⟩⟩
  · exact fun job run hrun => absurd hrun (Run.not_running_start hd w i job run)
  · exact fun job bytes h => absurd h List.not_mem_nil

/-- Where the bytes come from that a job is resolved with. -/
theorem provenance_of_resolved (ha : Accounting compute setup n r)
    (hres : Pool.Event.resolved job i (.ok bytes) ∈ r.history) :
    Provenance compute r i job bytes := by
  have hsound := ha.runInv.sound
  obtain ⟨lane, -, hc⟩ := hsound.custody_of_accepted (hsound.accepted_of_mem hres rfl)
  rcases hc.resolved_due job _ hres with hreturned | ⟨hclosed, -⟩
  · exact (ha.slots i).results job bytes hreturned
  · cases hclosed

end Accounting

/-! ### Every run -/

namespace Run

/-- **Every run of a dispatcher that has come up has the invariant.** -/
theorem accounting {d : Dispatcher} {w : World Simulator} {ts : List Turn}
    (hup : d.ComesUp compute setup w) (hr : turns compute ts (start d w) = some r) :
    Accounting compute setup d.bufferSize r :=
  foldlM_induction hr (Accounting.start hup) fun _ _ _ ha ht => ha.turn hup.isUp.1.size ht

/-- **Where the bytes of an answer come from**, in every run of a dispatcher on a fresh device.  A
job that is resolved with bytes has sent its message and brings back the answer to it; or it brings
back nothing, and one of its calls has timed out; or its call to send its message has timed out, it
has sent nothing, and it brings back the answer to an earlier job of its slot, which had sent its
message and ended without waiting for the output.  So it is with the bytes that a caller takes out of
the completion of the job. -/
theorem answer_provenance {d : Dispatcher} {w : World Simulator} {ts : List Turn}
    (hup : d.ComesUp compute setup w) (hr : turns compute ts (start d w) = some r) :
    ∀ job i, Pool.Event.accepted job i ∈ r.history →
      (∀ bytes, Pool.Event.resolved job i (.ok bytes) ∈ r.history →
        Provenance compute r i job bytes) ∧
      (r.station.ledger.isResolved job.ticket = true → job.ticket ∉ r.taken →
        ∀ bytes, (r.station.ledger.take job.ticket).1 = .ok bytes →
          Provenance compute r i job bytes) := by
  have ha := accounting hup hr
  intro job i hacc
  refine ⟨fun bytes => ha.provenance_of_resolved, ?_⟩
  intro hres hnot bytes htake
  have hsound := ha.runInv.sound
  obtain ⟨outcome, hres⟩ := Pool.mem_resolved.1 ((hsound.isResolved_iff hacc).1 hres)
  have hholds : r.station.ledger.Holds r.taken job.ticket outcome :=
    hsound.ticketed.holds job i outcome hres
  rw [hholds.take_eq hnot] at htake
  rw [htake] at hres
  exact ha.provenance_of_resolved hres

/-! ### The answer to another job -/

/-- Two jobs on one slot.  The first one is struck when it waits for its output, and the second one
when it sends its message: the device has an answer ready, but not to this message. -/
def struckTwice : List Turn :=
  .execute [1] :: .move (.enter 0) :: often 6 .proceed ++
    .execute [2, 3] :: .move (.enter 1) :: often 8 .proceed ++
    .hook (.failNext ⟨.wait, some 0, .driverError⟩) :: often 14 (.work 0) ++
    .hook (.failNext ⟨.send, some 0, .waitTimeout⟩) :: often 20 (.work 0)

/-- The run. -/
def afterStruckTwice : Option Run :=
  broughtUp.1.toOption.bind fun d => turns backwards struckTwice (start d broughtUp.2)

theorem history_struckTwice :
    afterStruckTwice.map Run.history = some
      [.accepted ⟨0, [1]⟩ 0, .accepted ⟨1, [2, 3]⟩ 0, .begun ⟨0, [1]⟩ 0,
        .returned ⟨0, [1]⟩ 0 (.error (.deviceOperation .driverError 9 "injected Wait fault")),
        .resolved ⟨0, [1]⟩ 0 (.error (.deviceOperation .driverError 9 "injected Wait fault")),
        .begun ⟨1, [2, 3]⟩ 0, .returned ⟨1, [2, 3]⟩ 0 (.ok [0, 0, 0, 1]),
        .resolved ⟨1, [2, 3]⟩ 0 (.ok [0, 0, 0, 1])] := by
  decide +kernel

/-- The second job is resolved with the answer to the first one, which is neither the answer to its
own message nor nothing. -/
theorem not_own_struckTwice :
    ∃ d w r, d.ComesUp backwards oneSlot w ∧ turns backwards struckTwice (start d w) = some r ∧
      Pool.Event.resolved ⟨1, [2, 3]⟩ 0 (.ok (backwards 0 (Padding.pad [1]))) ∈ r.history ∧
      backwards 0 (Padding.pad [1]) ≠ backwards 0 (Padding.pad [2, 3]) ∧
      backwards 0 (Padding.pad [1]) ≠ [] := by
  obtain ⟨r, hr, hhistory⟩ := Option.map_eq_some_iff.1 history_struckTwice
  obtain ⟨d, hd, hr⟩ := Option.bind_eq_some_iff.1 hr
  refine ⟨d, broughtUp.2, r, comesUp_of_broughtUp hd, hr, ?_, by decide, by decide⟩
  have hanswer : backwards 0 (Padding.pad [1]) = [0, 0, 0, 1] := by decide
  rw [hhistory, hanswer]
  simp

/-- The bytes come from an earlier job that has sent its message and not waited for the output. -/
theorem answer_provenance_struckTwice :
    ∃ d w r, d.ComesUp backwards oneSlot w ∧ turns backwards struckTwice (start d w) = some r ∧
      ∃ earlier, [earlier, ⟨1, [2, 3]⟩].Sublist (Pool.ended 0 r.history) ∧
        Exchange.hasMissed (r.acts ⟨1, [2, 3]⟩) = true ∧
        Exchange.hasWaited (r.acts earlier) = false ∧
        answerTo backwards 0 earlier = [0, 0, 0, 1] := by
  obtain ⟨r, hr, hhistory⟩ := Option.map_eq_some_iff.1 history_struckTwice
  obtain ⟨d, hd, hr⟩ := Option.bind_eq_some_iff.1 hr
  have hup := comesUp_of_broughtUp hd
  have hacc : Pool.Event.accepted ⟨1, [2, 3]⟩ 0 ∈ r.history := by simp [hhistory]
  have hres : Pool.Event.resolved ⟨1, [2, 3]⟩ 0 (.ok [0, 0, 0, 1]) ∈ r.history := by
    simp [hhistory]
  refine ⟨d, broughtUp.2, r, hup, hr, ?_⟩
  have hown : [0, 0, 0, 1] ≠ answerTo backwards 0 ⟨1, [2, 3]⟩ := by decide
  cases (answer_provenance hup hr _ 0 hacc).1 _ hres with
  | own _ h => exact absurd h hown
  | nothing h => cases h
  | leftover earlier horder hmissed _ _ hwaited h =>
      exact ⟨earlier, horder, hmissed, hwaited, h.symm⟩

end Run

end Offload.Station

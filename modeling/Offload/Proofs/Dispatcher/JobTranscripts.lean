/-
**What the jobs of a run are told.**

A job is told something when, with a step of its worker, an operation of its exchange is answered.
What a job has been told in a run, in order, takes its exchange to where it stands, whatever else has
happened in between; so everything that is known of exchanges holds of the jobs of a run too.

Main definitions:

* `Station.Run.Hears` — what a job is told with the next step of its worker;
* `Station.HasHeard`, `Station.HeardLeadsTo` — what it has been told in a run, and where that takes
  it;
* `Station.TranscriptInv` — **the invariant**: what the jobs have been told accounts for where they
  are.

Main results:

* `Station.TranscriptInv.turn` — every turn keeps the invariant;
* `Station.TranscriptInv.turns` — **so every run has it**.
-/

import Mathlib.Data.List.Induction
import Offload.Proofs.Device.Bounds
import Offload.Proofs.Dispatcher.Progress
import Offload.Proofs.Dispatcher.RunInvariant

set_option autoImplicit false
set_option relaxedAutoImplicit false

namespace Offload.Station

open Native Simulator

variable (compute : UInt32 → Bytes → Bytes)

/-! ### Being told -/

/-- With the next step of the worker of a slot its job hears this. -/
def Run.Hears (r : Run) (i : Nat) (job : Pool.Job) (x : Heard) : Prop :=
  ∃ (run : Exchange.Run) (next : x.op.Answer → Program (Option (Outcome Bytes))),
    r.pool.worker? i = some (.running job run) ∧ run.rest = .step x.op next ∧
      Exchange.returns (driver compute) run.entered x.op r.station.world = true ∧
      (Exchange.answered (driver compute) run.entered x.op r.station.world).1 = x.answer

/-- In the run from `r₀` the job on slot number `i` has heard this, at one of its steps. -/
def HasHeard (r₀ : Run) (ts : List Turn) (i : Nat) (job : Pool.Job) (x : Heard) : Prop :=
  ∃ before after r, ts = before ++ .move (.work i) :: after ∧
    Run.turns compute before r₀ = some r ∧ r.Hears compute i job x

variable (setup : Setup)

/-- What the job on slot number `i` has been told takes its exchange to where this is left of it. -/
def HeardLeadsTo (r₀ : Run) (ts : List Turn) (i : Nat) (job : Pool.Job)
    (rest : Program (Option (Outcome Bytes))) : Prop :=
  ∃ T : Transcript, (∀ x ∈ T, HasHeard compute r₀ ts i job x) ∧
    rest.Meets heardSpec (Exchange.Conducts ⟨token, setup.bufferSize.toNat⟩ (UInt32.ofNat i)
      (Padding.pad job.input)) T

/-- What the jobs have been told accounts for where they are, and for what they have come to. -/
structure TranscriptInv (n : Nat) (r₀ : Run) (ts : List Turn) (r : Run) : Prop where
  runInv : RunInv compute setup n r
  fits : r.Fits n
  running : ∀ i job run, r.pool.worker? i = some (.running job run) →
    run.input = job.input ∧ HeardLeadsTo compute setup r₀ ts i job run.rest
  returned : ∀ i job outcome, Pool.Event.returned job i outcome ∈ r.history →
    HeardLeadsTo compute setup r₀ ts i job (.done (some outcome))

variable {compute setup} {n : Nat} {r₀ r r' : Run} {ts : List Turn} {t : Turn} {i : Nat}
  {job : Pool.Job} {run : Exchange.Run} {x : Heard}

theorem HasHeard.concat (h : HasHeard compute r₀ ts i job x) (t : Turn) :
    HasHeard compute r₀ (ts ++ [t]) i job x := by
  obtain ⟨before, after, r, rfl, hr, hx⟩ := h
  exact ⟨before, after ++ [t], r, by simp, hr, hx⟩

/-- What a job hears next it has been told after that step. -/
theorem Run.Hears.hasHeard (h : r.Hears compute i job x) (hr : Run.turns compute ts r₀ = some r) :
    HasHeard compute r₀ (ts ++ [.move (.work i)]) i job x :=
  ⟨ts, [], r, rfl, hr, h⟩

theorem HeardLeadsTo.concat {rest : Program (Option (Outcome Bytes))}
    (h : HeardLeadsTo compute setup r₀ ts i job rest) (t : Turn) :
    HeardLeadsTo compute setup r₀ (ts ++ [t]) i job rest := by
  obtain ⟨T, hheard, hmeets⟩ := h
  exact ⟨T, fun x hx => (hheard x hx).concat t, hmeets⟩

/-- What a job has been told that has come to its end is one of the ways in which a job ends. -/
theorem HeardLeadsTo.conducted {outcome : Outcome Bytes}
    (h : HeardLeadsTo compute setup r₀ ts i job (.done (some outcome))) :
    ∃ T : Transcript, (∀ x ∈ T, HasHeard compute r₀ ts i job x) ∧
      Exchange.Conducted ⟨token, setup.bufferSize.toNat⟩ (UInt32.ofNat i) (Padding.pad job.input)
        T outcome := by
  -- what was heard before the slot was ready does not matter any more
  obtain ⟨_, hheard, T₀, -, T, rfl, hconducted⟩ := h
  exact ⟨T, fun x hx => hheard x (List.mem_append_right _ hx), hconducted⟩

/-! ### Jobs that run -/

theorem conducts_deviceRound {d : Device} {s : Session} {slot : UInt32} {input : Bytes}
    {T : Transcript} (hsession : d.session = some s) (hlength : (Padding.pad input).length < 2 ^ 32)
    (hT : Exchange.NotReady s slot T) :
    (Exchange.deviceRound d slot input).Meets heardSpec
      (Exchange.Conducts s slot (Padding.pad input)) T := by
  rw [Exchange.deviceRound, hsession]
  exact Exchange.conducted_round hlength hT

theorem HeardLeadsTo.goOn {run' : Exchange.Run} {site : Exchange.Site Simulator}
    (h : HeardLeadsTo compute setup r₀ ts i job run.rest) (hinput : run.input = job.input)
    (hr : Run.turns compute ts r₀ = some r) (hw : r.pool.worker? i = some (.running job run))
    (hsession : r.station.dispatcher.device.session = some ⟨token, setup.bufferSize.toNat⟩)
    (hlength : (Padding.pad job.input).length < 2 ^ 32)
    (hstep : Exchange.step (driver compute) i run r.station.scheduler.shared =
      .continues run' site) :
    run'.input = job.input ∧
      HeardLeadsTo compute setup r₀ (ts ++ [.move (.work i)]) i job run'.rest := by
  cases Exchange.stepped_of_step hstep with
  | again hrest =>
      -- the slot was not ready, and the round begins again
      rw [hrest] at h
      obtain ⟨T, hheard, hT⟩ := h
      refine ⟨hinput, T, fun x hx => (hheard x hx).concat _, ?_⟩
      rw [hinput]
      exact conducts_deviceRound hsession hlength hT
  | answer o next hrest hreturns =>
      rw [hrest] at h
      obtain ⟨T, hheard, hmeets⟩ := h
      refine ⟨hinput, _, fun x hx => ?_, hmeets _⟩
      rcases List.mem_append.1 hx with hx | hx
      · exact (hheard x hx).concat _
      · obtain rfl := eq_of_mem_hear hx
        exact Run.Hears.hasHeard ⟨run, next, hw, hrest, hreturns, rfl⟩ hr
  | enter => exact ⟨hinput, h.concat _⟩

/-! ### Every turn keeps the invariant -/

namespace TranscriptInv

theorem session_eq (hc : TranscriptInv compute setup n r₀ ts r)
    (hn : n = setup.bufferSize.toNat ∨ n = 0) (hacc : Pool.Event.accepted job i ∈ r.history)
    {w : Pool.Worker Exchange.Run} (hw : r.pool.worker? i = some w) (halive : w.hasEnded = false) :
    r.station.dispatcher.device.session = some ⟨token, setup.bufferSize.toNat⟩ :=
  hc.runInv.slotInv.session_of_fits hc.fits hn hacc hw halive

theorem length_lt (hc : TranscriptInv compute setup n r₀ ts r)
    (hn : n = setup.bufferSize.toNat ∨ n = 0) (hacc : Pool.Event.accepted job i ∈ r.history) :
    (Padding.pad job.input).length < 2 ^ 32 :=
  Nat.lt_of_le_of_lt (hc.fits.size_eq hn hacc).2 setup.bufferSize.toNat_lt

theorem running_turn (hc : TranscriptInv compute setup n r₀ ts r)
    (hn : n = setup.bufferSize.toNat ∨ n = 0) (hr : Run.turns compute ts r₀ = some r)
    (ht : r.turn compute t = some r') (hw' : r'.pool.worker? i = some (.running job run)) :
    run.input = job.input ∧ HeardLeadsTo compute setup r₀ (ts ++ [t]) i job run.rest := by
  have hsound := hc.runInv.sound
  cases hwork : t.isWork i with
  | false =>
      -- no other turn moves the worker
      rw [Run.worker?_turn ht hwork] at hw'
      obtain ⟨hinput, h⟩ := hc.running i job run hw'
      exact ⟨hinput, h.concat t⟩
  | true =>
      obtain rfl := Turn.eq_work hwork
      cases hc.runInv.slotInv.slotTurn ht i with
      | aside _ _ _ _ _ hrunning =>
          obtain ⟨hinput, h⟩ := hc.running i job run (hrunning job run hw').1
          exact ⟨hinput, h.concat _⟩
      | begin job' hw hbegun _ hhistory =>
          cases hbegun.symm.trans hw'
          have hacc := (hsound.new_of_begin (hsound.turn ht) hhistory).1
          have hsession := hc.session_eq hn hacc hw rfl
          exact ⟨rfl, [], by simp,
            conducts_deviceRound hsession (hc.length_lt hn hacc) ⟨[], rfl, by simp⟩⟩
      | goOn job' run₀ run' site hw hgone hstep =>
          cases hgone.symm.trans hw'
          have hacc := hsound.accepted_of_running hw
          obtain ⟨hinput, h⟩ := hc.running i job run₀ hw
          exact h.goOn hinput hr hw (hc.session_eq hn hacc hw rfl) (hc.length_lt hn hacc) hstep
      | «return» _ _ _ _ _ hreturned => cases hreturned.symm.trans hw'

theorem returned_turn (hc : TranscriptInv compute setup n r₀ ts r) (ht : r.turn compute t = some r')
    {outcome : Outcome Bytes} (h : Pool.Event.returned job i outcome ∈ r'.history) :
    HeardLeadsTo compute setup r₀ (ts ++ [t]) i job (.done (some outcome)) := by
  cases hc.runInv.slotInv.slotTurn ht i with
  | aside _ hhistory =>
      exact (hc.returned i job outcome (hhistory _ h rfl (Or.inr rfl))).concat t
  | begin _ _ _ _ hhistory =>
      rw [hhistory] at h
      exact (hc.returned i job outcome (by simpa using h)).concat t
  | goOn _ _ _ _ _ _ _ _ hhistory =>
      rw [hhistory] at h
      exact (hc.returned i job outcome h).concat t
  | «return» _ run _ hw hrest _ _ hhistory =>
      rw [hhistory] at h
      rcases List.mem_append.1 h with h | h
      · exact (hc.returned i job outcome h).concat t
      · cases List.mem_singleton.1 h
        have hheeds := (hc.running i job run hw).2
        rw [hrest] at hheeds
        exact hheeds.concat t

/-- **Every turn keeps the invariant.** -/
theorem turn (hc : TranscriptInv compute setup n r₀ ts r) (hn : n = setup.bufferSize.toNat ∨ n = 0)
    (hr : Run.turns compute ts r₀ = some r) (ht : r.turn compute t = some r') :
    TranscriptInv compute setup n r₀ (ts ++ [t]) r' where
  runInv := hc.runInv.turn ht
  fits := hc.fits.turn hc.runInv.deviceInv ht
  running _ _ _ hw := hc.running_turn hn hr ht hw
  returned _ _ _ h := hc.returned_turn ht h

theorem startOn {d : Dispatcher} {w : World Simulator} (hd : d.IsUp setup)
    (hs : RunInv compute setup d.bufferSize (Run.start d w)) :
    TranscriptInv compute setup d.bufferSize (Run.start d w) [] (Run.start d w) where
  runInv := hs
  fits := .start hd w
  running i job run hw := absurd hw (Run.not_running_start hd w i job run)
  returned _ _ _ h := absurd h List.not_mem_nil

/-- **Every run has the invariant** if its beginning does. -/
theorem turns (h₀ : TranscriptInv compute setup n r₀ [] r₀)
    (hn : n = setup.bufferSize.toNat ∨ n = 0) (hr : Run.turns compute ts r₀ = some r) :
    TranscriptInv compute setup n r₀ ts r := by
  -- the last turn is looked at first, since what has been told refers to what came before
  induction ts using List.reverseRecOn generalizing r with
  | nil =>
      obtain rfl : r₀ = r := Option.some_inj.1 hr
      exact h₀
  | append_singleton ts t ih =>
      obtain ⟨r₁, hr₁, hlast⟩ := foldlM_append_eq_some.1 hr
      obtain ⟨r', ht, hend⟩ := Option.bind_eq_some_iff.1 hlast
      obtain rfl : r' = r := Option.some_inj.1 hend
      exact (ih hr₁).turn hn hr₁ ht

end TranscriptInv

end Offload.Station

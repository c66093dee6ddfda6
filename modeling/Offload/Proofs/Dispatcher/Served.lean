/-
**What the slots hold through a run.**

A slot has taken the messages of those jobs begun on it that have sent theirs, in the order in which
they were begun, and whatever its running job does next, the exchange will end as it should.

Main definitions:

* `Station.Run.sentBy` — the messages that the jobs of a list have sent;
* `Station.InExchange` — a job that is running as it should;
* `Station.Served` — **the invariant of one slot**.

Main results:

* `Station.InExchange.content` — what the slot of a running job holds;
* `Station.Served.still` — what does not concern a slot keeps its invariant;
* `Station.InExchange.continues` — an operation of a job keeps the invariant of its slot.
-/

import Offload.Proofs.Device.Transfer
import Offload.Proofs.Dispatcher.SlotTurn

set_option autoImplicit false
set_option relaxedAutoImplicit false

namespace Offload

open Native Simulator

/-! ### Exchanges from operation to operation -/

namespace Exchange

variable {compute : UInt32 → Bytes → Bytes} {k : Task} {v : Look}
  {p : Program (Option (Outcome Bytes))}

/-- What holds throughout an exchange holds wherever it stands. -/
theorem exists_kept (hp : p.Meets (opSpec compute k) (k.RoundEnds compute) v) :
    ∃ t, k.Kept v t := by
  cases p with
  | step o next => exact hp.1
  | done r =>
      cases r with
      | none => exact ⟨hp.choose, hp.choose_spec.1⟩
      | some outcome => exact ⟨hp.choose, hp.choose_spec.1⟩

end Exchange

/-! ### The messages that jobs have sent -/

namespace Station

namespace Run

/-- The messages that the jobs of a list have sent. -/
def sentBy (r : Run) (jobs : List Pool.Job) : List Bytes :=
  (jobs.filter fun job => Exchange.hasSent (r.acts job)).map fun job => Padding.pad job.input

variable {r r' : Run} {job job' : Pool.Job} {acts : List Exchange.Act}
  {jobs jobs' : List Pool.Job}

theorem sentBy_congr (h : ∀ job ∈ jobs, r'.acts job = r.acts job) :
    r'.sentBy jobs = r.sentBy jobs := by
  rw [sentBy, sentBy]
  exact congrArg _ (List.filter_congr fun job hj => by rw [h job hj])

theorem sentBy_append : r.sentBy (jobs ++ jobs') = r.sentBy jobs ++ r.sentBy jobs' := by
  simp [sentBy]

theorem sentBy_singleton :
    r.sentBy [job] =
      if Exchange.hasSent (r.acts job) = true then [Padding.pad job.input] else [] := by
  by_cases h : Exchange.hasSent (r.acts job) = true <;> simp [sentBy, h]

end Run

/-! ### The invariant of one slot -/

variable (compute : UInt32 → Bytes → Bytes) (setup : Setup)

/-- A job that is running as it should. -/
structure InExchange (r : Run) (i : Nat) (job : Pool.Job) (run : Exchange.Run) : Prop where
  input : run.input = job.input
  meets : ∃ k : Exchange.Task, k.setup = setup ∧ k.slot = UInt32.ofNat i ∧
    k.base = r.sentBy (Pool.ended i r.history) ∧ k.message = Padding.pad job.input ∧
    run.rest.Meets (Exchange.opSpec compute k) (k.RoundEnds compute) (r.device.sight i, r.acts job)

/-- What holds of a slot through a run: it has regions of the right size, it has taken the messages
that the jobs begun on it have sent, and its running job is running as it should. -/
structure Served (r : Run) (i : Nat) : Prop where
  content : ∃ t, r.device.content? i = some t ∧ t.input.length = setup.bufferSize.toNat ∧
    t.output.length = setup.bufferSize.toNat ∧ t.sent = r.sentBy (Pool.begun i r.history)
  exchange : ∀ job run, r.pool.worker? i = some (.running job run) →
    InExchange compute setup r i job run

variable {compute setup} {r r' : Run} {i : Nat} {job : Pool.Job} {run : Exchange.Run}

/-- What the slot of a running job holds. -/
theorem InExchange.content (h : InExchange compute setup r i job run)
    (hbegun : Pool.begun i r.history = Pool.ended i r.history ++ [job]) :
    ∃ t, r.device.content? i = some t ∧ t.input.length = setup.bufferSize.toNat ∧
      t.output.length = setup.bufferSize.toNat ∧ t.sent = r.sentBy (Pool.begun i r.history) := by
  obtain ⟨k, rfl, -, hbase, hmessage, hmeets⟩ := h.meets
  obtain ⟨t, hk⟩ := Exchange.exists_kept hmeets
  refine ⟨t, congrArg Sight.content? hk.sight, hk.input, hk.output, ?_⟩
  rw [hk.sent, hbegun, Run.sentBy_append, Run.sentBy_singleton, hbase, hmessage]

/-- **What does not concern a slot keeps its invariant.** -/
theorem Served.still (hs : Served compute setup r i)
    (hcontent : r'.device.content? i = r.device.content? i)
    (hbegun : Pool.begun i r'.history = Pool.begun i r.history)
    (hended : Pool.ended i r'.history = Pool.ended i r.history)
    (hacts : ∀ job ∈ Pool.begun i r.history, r'.acts job = r.acts job)
    (hrunning : ∀ job run, r'.pool.worker? i = some (.running job run) →
      r.pool.worker? i = some (.running job run) ∧ r'.device.sight i = r.device.sight i ∧
        Pool.begun i r.history = Pool.ended i r.history ++ [job]) :
    Served compute setup r' i where
  content := by
    obtain ⟨t, ht, hin, hout, hsent⟩ := hs.content
    refine ⟨t, hcontent.trans ht, hin, hout, ?_⟩
    rw [hsent, hbegun, Run.sentBy_congr hacts]
  exchange job run hw' := by
    obtain ⟨hw, hsight, hb⟩ := hrunning job run hw'
    obtain ⟨hinput, k, hsetup, hslot, hbase, hmessage, hmeets⟩ := hs.exchange job run hw
    have hmem : ∀ job' ∈ Pool.ended i r.history, job' ∈ Pool.begun i r.history := fun job' h => by
      rw [hb]
      exact List.mem_append_left _ h
    refine ⟨hinput, k, hsetup, hslot, ?_, hmessage, ?_⟩
    · rw [hbase, hended, Run.sentBy_congr fun job' h => hacts job' (hmem job' h)]
    · have hjob : job ∈ Pool.begun i r.history := by
        rw [hb]
        exact List.mem_append_right _ (List.mem_singleton_self _)
      rw [hsight, hacts job hjob]
      exact hmeets

/-! ### The steps of an exchange -/

/-- What a running job returns is what it should return. -/
theorem InExchange.returned (h : InExchange compute setup r i job run) {outcome : Outcome Bytes}
    (hrest : run.rest = .done (some outcome)) (hclean : Exchange.isClean (r.acts job) = true) :
    outcome = Exchange.answer compute setup (UInt32.ofNat i) (Padding.pad job.input) := by
  obtain ⟨k, rfl, hslot, -, hmessage, hmeets⟩ := h.meets
  rw [hrest] at hmeets
  obtain ⟨t, -, houtcome⟩ := hmeets
  rw [hslot, hmessage] at houtcome
  exact houtcome hclean

theorem InExchange.about (h : InExchange compute setup r i job run) (o : Op)
    (next : o.Answer → Program (Option (Outcome Bytes))) (hrest : run.rest = .step o next) :
    Exchange.IsAbout (UInt32.ofNat i) o := by
  obtain ⟨k, -, hslot, -, -, hmeets⟩ := h.meets
  rw [hrest] at hmeets
  exact hslot ▸ hmeets.2.1

/-- A running job goes on as it should. -/
theorem InExchange.continues {run' : Exchange.Run} {site : Exchange.Site Simulator}
    (h : InExchange compute setup r i job run)
    (hcompute : ∀ slot message, (compute slot message).length < 2 ^ 32) (hi : i < 2 ^ 32)
    (hsession : r.station.dispatcher.device.session = some ⟨token, setup.bufferSize.toNat⟩)
    (hstep : Exchange.step (driver compute) i run r.station.scheduler.shared =
      .continues run' site)
    (hdevice : r'.device = site.world.driver)
    (hended : Pool.ended i r'.history = Pool.ended i r.history)
    (hself : r'.acts job = r.acts job ++ actsOf compute run r.station.world)
    (hothers : ∀ job' ∈ Pool.ended i r.history, r'.acts job' = r.acts job') :
    InExchange compute setup r' i job run' := by
  obtain ⟨hinput, k, rfl, hslot, hbase, hmessage, hmeets⟩ := h
  have hslot' : k.slot.toNat = i := by rw [hslot, UInt32.toNat_ofNat_of_lt' hi]
  obtain ⟨hinput', hmeets'⟩ := meets_continues hslot' hmeets hstep (by
    rintro ⟨t, hk, hsent⟩
    rw [hinput, ← hslot]
    exact Exchange.meets_deviceRound (hcompute _ _) hmessage.symm hsession hk hsent)
  refine ⟨hinput'.trans hinput, k, rfl, hslot, ?_, hmessage, ?_⟩
  · rw [hbase, hended, Run.sentBy_congr hothers]
  · rw [hdevice, hself]
    exact hmeets'

end Station

end Offload

/-
**The round trip of a job, and the isolation of failures.**

Whatever strikes other jobs, and whatever has struck earlier jobs of the same slot, a job none of
whose own calls was struck by a fault brings back what the device computes from its padded input.  A
slot has taken the messages of just those jobs that have sent theirs, in the order of submission.

Main results:

* `Station.AnswerInv.outcome_eq` — clean jobs have the outcome that they should have;
* `Station.AnswerInv.sent_eq` — a slot has taken the messages of the jobs that have sent theirs;
* `Station.Run.round_trip` — **both hold in every run, and begun jobs are resolved**.
-/

import Offload.Proofs.Dispatcher.AnswerInvariant
import Offload.Proofs.Pool.Shutdown

set_option autoImplicit false
set_option relaxedAutoImplicit false

namespace Offload.Station

open Native Simulator

variable {compute : UInt32 → Bytes → Bytes} {setup : Setup} {n : Nat} {r : Run} {i : Nat}
  {job : Pool.Job} {outcome : Outcome Bytes}

namespace AnswerInv

/-! ### Outcomes -/

/-- **A clean job that has been begun has the outcome that it should have.** -/
theorem outcome_eq (hs : AnswerInv compute setup n r)
    (hbegun : Pool.Event.begun job i ∈ r.history) (hclean : Exchange.isClean (r.acts job) = true)
    (hres : Pool.Event.resolved job i outcome ∈ r.history) :
    outcome = Exchange.answer compute setup (UInt32.ofNat i) (Padding.pad job.input) := by
  obtain ⟨lane, -, hc⟩ := hs.sound.custody_of_accepted (hs.sound.accepted_of_mem hbegun rfl)
  rcases hc.resolved_due job outcome hres with hreturned | ⟨-, hnot, -⟩
  · exact hs.outcomes job i outcome hreturned hclean
  · exact absurd (Pool.mem_begun.2 hbegun) hnot

theorem holds_answer (hs : AnswerInv compute setup n r)
    (hbegun : Pool.Event.begun job i ∈ r.history) (hclean : Exchange.isClean (r.acts job) = true)
    (hres : r.station.ledger.isResolved job.ticket = true) :
    r.station.ledger.Holds r.taken job.ticket
      (Exchange.answer compute setup (UInt32.ofNat i) (Padding.pad job.input)) := by
  have hacc := hs.sound.accepted_of_mem hbegun rfl
  obtain ⟨outcome, hres⟩ := Pool.mem_resolved.1 ((hs.sound.isResolved_iff hacc).1 hres)
  have hholds := hs.sound.ticketed.holds job i outcome hres
  rwa [hs.outcome_eq hbegun hclean hres] at hholds

/-! ### Messages -/

theorem not_begun (hs : AnswerInv compute setup n r) (hacc : Pool.Event.accepted job i ∈ r.history)
    (hnot : job ∉ Pool.begun i r.history) (j : Nat) : Pool.Event.begun job j ∉ r.history := by
  intro hbegun
  obtain ⟨-, rfl⟩ := hs.sound.accepted_inj (hs.sound.accepted_of_mem hbegun rfl) hacc rfl
  exact hnot (Pool.mem_begun.2 hbegun)

/-- **A slot has taken the messages of the accepted jobs that have sent theirs.** -/
theorem sent_eq (hs : AnswerInv compute setup n r) (hi : i < setup.bufferCount.toNat) :
    (r.device.slots[i]?).map Slot.sent = some (r.sentBy (Pool.accepted i r.history)) := by
  have hsize : i < r.station.scheduler.pool.size := by
    have hsize : r.station.scheduler.pool.size = setup.bufferCount.toNat := hs.deviceInv.size
    rwa [hsize]
  obtain ⟨lane, hl⟩ := Pool.exists_lane hsize
  obtain ⟨rest, hrest⟩ := (hs.sound.custody i lane hl).begun_prefix_accepted
  have hnodup := hs.sound.nodup_accepted i
  rw [← hrest] at hnodup
  -- the jobs that have not been begun have made no calls
  have hnone : r.sentBy rest = [] := by
    rw [Run.sentBy, List.map_eq_nil_iff, List.filter_eq_nil_iff]
    intro job hjob
    have hacc : Pool.Event.accepted job i ∈ r.history := by
      refine Pool.mem_accepted.1 ?_
      rw [← hrest]
      exact List.mem_append_right _ hjob
    have hnot : job ∉ Pool.begun i r.history := by
      intro hbegun
      exact List.disjoint_of_nodup_append hnodup hbegun hjob
    rw [hs.acts_eq_nil (hs.not_begun hacc hnot)]
    simp [Exchange.hasSent]
  obtain ⟨t, ht, -, -, hsent⟩ := (hs.served i hi).content
  obtain ⟨u, hu, rfl⟩ := Option.map_eq_some_iff.1 ht
  have hu' : r.device.slots[i]? = some u := hu
  have hsent' : u.sent = r.sentBy (Pool.begun i r.history) := hsent
  rw [hu', Option.map_some, hsent', ← hrest, Run.sentBy_append, hnone, List.append_nil]

end AnswerInv

/-! ### The round trip -/

namespace Run

/-- What holds in every state of every run, and how near running exchanges are to their ends. -/
theorem answerInv_and_isPaced {d : Dispatcher} {w : World Simulator} {ts : List Turn}
    (hcompute : ∀ slot message, (compute slot message).length < 2 ^ 32)
    (hup : d.ComesUp compute setup w) (hr : turns compute ts (start d w) = some r) :
    AnswerInv compute setup d.bufferSize r ∧ r.IsPaced := by
  have hd := hup.isUp.1
  refine foldlM_induction (motive := fun r => AnswerInv compute setup d.bufferSize r ∧ r.IsPaced) hr
    ⟨AnswerInv.start hup, isPaced_start hd⟩ fun r₁ r₂ t h ht => ?_
  exact ⟨h.1.turn hd.size hcompute ht, h.2.turn h.1 ht⟩

/-- **Round trip and failure isolation**, in every run of a dispatcher on a fresh device.  A job
that was begun and none of whose own calls was struck by a fault with a code other than success is
resolved with what the device computes from its padded input, or with the error of an output that
does not fit.  A job that was begun is resolved once its worker has made a bounded number of steps
that nothing but the holding of its slot can prevent, unless the slot is made busy again.  A slot
has taken the messages of the jobs on it that have sent theirs, in the order of submission, each
once. -/
theorem round_trip {d : Dispatcher} {w : World Simulator} {ts : List Turn}
    (hcompute : ∀ slot message, (compute slot message).length < 2 ^ 32)
    (hup : d.ComesUp compute setup w) (hr : turns compute ts (start d w) = some r) :
    (∀ job i, Pool.Event.accepted job i ∈ r.history → Pool.Event.begun job i ∈ r.history →
      Exchange.isClean (r.acts job) = true →
      (∀ outcome, Pool.Event.resolved job i outcome ∈ r.history →
        outcome = Exchange.answer compute setup (UInt32.ofNat i) (Padding.pad job.input)) ∧
      (r.station.ledger.isResolved job.ticket = true →
        r.station.ledger.Holds r.taken job.ticket
          (Exchange.answer compute setup (UInt32.ofNat i) (Padding.pad job.input)))) ∧
    (∀ job i, Pool.Event.accepted job i ∈ r.history → Pool.Event.begun job i ∈ r.history →
      r.device.isHeld (UInt32.ofNat i) = false →
      (r.station.ledger.isResolved job.ticket = true ∨
        (r.turn compute (.move (.work i))).isSome = true) ∧
      ∀ ts' r', turns compute ts' r = some r' → (∀ t ∈ ts', t.hinders i = false) →
        Exchange.effort (r.device.busyPolls (UInt32.ofNat i)) ≤ ts'.countP (Turn.isWork i) →
        r'.station.ledger.isResolved job.ticket = true ∧
          (Exchange.isClean (r'.acts job) = true → r'.station.ledger.Holds r'.taken job.ticket
            (Exchange.answer compute setup (UInt32.ofNat i) (Padding.pad job.input)))) ∧
    (∀ i, i < setup.bufferCount.toNat →
      (r.device.slots[i]?).map Slot.sent =
        some (((Pool.accepted i r.history).filter fun job => Exchange.hasSent (r.acts job)).map
          fun job => Padding.pad job.input) ∧
      (Pool.accepted i r.history).Nodup) := by
  obtain ⟨hs, hp⟩ := answerInv_and_isPaced hcompute hup hr
  refine ⟨?_, ?_, ?_⟩
  · intro job i _ hbegun hclean
    constructor
    · intro outcome hres
      exact hs.outcome_eq hbegun hclean hres
    · intro hres
      exact hs.holds_answer hbegun hclean hres
  · intro job i hacc hbegun hheld
    have hdue := hs.due hp hbegun
    constructor
    · rcases hdue.isSome_turn hs hheld with ⟨outcome, hres⟩ | hturn
      · exact Or.inl (hs.sound.ticketed.holds job i outcome hres).isResolved
      · exact Or.inr hturn
    · intro ts' r' hr' hh hn
      obtain ⟨outcome, hres⟩ :=
        resolved_of_turns hdue hs hup.isUp.1.size hcompute hheld hr' hh hn
      -- the longer run is a run from the beginning, too
      have hs' := answerInv hcompute hup (foldlM_append_eq_some.2 ⟨r, hr, hr'⟩)
      have hresolved := (hs'.sound.ticketed.holds job i outcome hres).isResolved
      refine ⟨hresolved, ?_⟩
      intro hclean
      exact hs'.holds_answer (history_subset hr' hbegun) hclean hresolved
  · intro i hi
    exact ⟨hs.sent_eq hi, hs.sound.nodup_accepted i⟩

/-! ### A struck job and a clean one -/

/-- What a device computes: the first four bytes of a message, backwards. -/
def backwards (_ : UInt32) (message : Bytes) : Bytes := (message.take 4).reverse

/-- A device with one slot. -/
def oneSlot : Setup :=
  { present := true, bufferCount := 1, bufferSize := 64, shellRegisters := 16 }

/-- A dispatcher brought up on it. -/
def broughtUp : Outcome Dispatcher × World Simulator :=
  (driver backwards).run (Dispatcher.bringUp none .standard).run ⟨Simulator.fresh oneSlot, default⟩

theorem comesUp_of_broughtUp {d : Dispatcher} (hd : broughtUp.1.toOption = some d) :
    d.ComesUp backwards oneSlot broughtUp.2 :=
  Dispatcher.comesUp_of_toOption hd

/-- A device with two slots. -/
def twoSlots : Setup := { oneSlot with bufferCount := 2 }

/-- A dispatcher brought up on it. -/
def broughtUpTwo : Outcome Dispatcher × World Simulator :=
  (driver backwards).run (Dispatcher.bringUp none .standard).run ⟨Simulator.fresh twoSlots, default⟩

/-- The same move again and again. -/
def often (count : Nat) (move : Move) : List Turn := List.replicate count (.move move)

/-- Two jobs are submitted; the first one is struck when it sends its message. -/
def struckFirst : List Turn :=
  .execute [1] :: .move (.enter 0) :: often 6 .proceed ++
    .execute [2, 3] :: .move (.enter 1) :: often 8 .proceed ++
    .hook (.failNext ⟨.send, some 0, .driverError⟩) :: often 33 (.work 0)

/-- The run. -/
def afterStruckFirst : Option Run :=
  broughtUp.1.toOption.bind fun d => turns backwards struckFirst (start d broughtUp.2)

theorem history_struckFirst :
    afterStruckFirst.map (fun r => (r.history, r.station.ledger.isResolved 1)) = some
      ([.accepted ⟨0, [1]⟩ 0, .accepted ⟨1, [2, 3]⟩ 0, .begun ⟨0, [1]⟩ 0,
        .returned ⟨0, [1]⟩ 0 (.error (.deviceOperation .driverError 9 "injected Send fault")),
        .resolved ⟨0, [1]⟩ 0 (.error (.deviceOperation .driverError 9 "injected Send fault")),
        .begun ⟨1, [2, 3]⟩ 0, .returned ⟨1, [2, 3]⟩ 0 (.ok [0, 0, 3, 2]),
        .resolved ⟨1, [2, 3]⟩ 0 (.ok [0, 0, 3, 2])], true) := by
  decide +kernel

theorem acts_struckFirst :
    afterStruckFirst.map (fun r => (Exchange.isClean (r.acts ⟨0, [1]⟩),
      Exchange.hasSent (r.acts ⟨0, [1]⟩), Exchange.isClean (r.acts ⟨1, [2, 3]⟩),
      Exchange.hasSent (r.acts ⟨1, [2, 3]⟩))) = some (false, false, true, true) := by
  decide +kernel

/-- The second job brings its answer back, and is the only one whose message the slot has taken. -/
theorem round_trip_struckFirst :
    ∃ d w r, d.ComesUp backwards oneSlot w ∧ turns backwards struckFirst (start d w) = some r ∧
      Exchange.isClean (r.acts ⟨0, [1]⟩) = false ∧
      r.station.ledger.Holds r.taken 1 (.ok [0, 0, 3, 2]) ∧
      (r.device.slots[0]?).map Slot.sent = some [Padding.pad [2, 3]] := by
  obtain ⟨r, hr, hhistory⟩ := Option.map_eq_some_iff.1 history_struckFirst
  have hacts := acts_struckFirst
  rw [hr, Option.map_some, Option.some.injEq] at hacts
  simp only [Prod.mk.injEq] at hhistory hacts
  obtain ⟨hhistory, hres⟩ := hhistory
  obtain ⟨hstruck, hnothing, hclean, hsent⟩ := hacts
  obtain ⟨d, hd, hr⟩ := Option.bind_eq_some_iff.1 hr
  have hup : d.ComesUp backwards oneSlot broughtUp.2 := comesUp_of_broughtUp hd
  have hcompute : ∀ slot message, (backwards slot message).length < 2 ^ 32 := by
    intro slot message
    have hle : (message.take 4).length ≤ 4 := List.length_take_le 4 message
    rw [backwards, List.length_reverse]
    omega
  obtain ⟨hanswer, -, hslots⟩ := round_trip hcompute hup hr
  have hacc : Pool.Event.accepted ⟨1, [2, 3]⟩ 0 ∈ r.history := by simp [hhistory]
  have hbegun : Pool.Event.begun ⟨1, [2, 3]⟩ 0 ∈ r.history := by simp [hhistory]
  have hholds := (hanswer _ 0 hacc hbegun hclean).2 hres
  have hok : Exchange.answer backwards oneSlot 0 (Padding.pad [2, 3]) = .ok [0, 0, 3, 2] := by
    decide
  have hmessages := (hslots 0 (by decide)).1
  have haccepted : Pool.accepted 0 r.history = [⟨0, [1]⟩, ⟨1, [2, 3]⟩] := by
    rw [hhistory]
    rfl
  refine ⟨d, broughtUp.2, r, hup, hr, hstruck, ?_, ?_⟩
  · rw [← hok]
    exact hholds
  · rw [hmessages, haccepted]
    simp [hnothing, hsent]

end Run

end Offload.Station

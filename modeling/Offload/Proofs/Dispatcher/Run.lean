/-
**Runs of a dispatcher on the simulated device.**

In a run callers submit jobs, the dispatcher, its workers and its teardown make their steps in any
order, callers use registers and look at completions, and tests do to the device what they can do.
Every native call that is made for a job is recorded with the fault that struck it.

Main definitions:

* `Station.Run` — a station with what has happened so far;
* `Station.Turn`, `Station.Run.turn`, `Station.Run.turns` — one thing that happens, and many;
* `Station.Run.start` — a dispatcher that has been brought up;
* `Station.Run.acts` — the native calls that were made for a job.

Main results:

* `Station.Run.turned_of_turn`, `Station.Run.turn_cases` — what a turn can do;
* `Station.Run.IsSound.turn` — **the pool of a run is sound**.
-/

import Offload.Proofs.Device.Exchange
import Offload.Proofs.Dispatcher.BringUp
import Offload.Proofs.Dispatcher.Transition
import Offload.Proofs.Pool.Run

set_option autoImplicit false
set_option relaxedAutoImplicit false

namespace Offload

open Native Simulator

namespace Station

/-! ### Runs -/

/-- A native call that was made for a job. -/
structure Deed where
  job : Pool.Job
  act : Exchange.Act

/-- A station with what has happened so far. -/
structure Run where
  station : Station Simulator
  history : Pool.History
  /-- The native calls made for jobs, oldest first. -/
  deeds : List Deed
  /-- The completions whose outcomes have been taken. -/
  taken : List Ticket

/-- What can happen next. -/
inductive Turn where
  /-- A caller asks for a job to be executed. -/
  | execute (input : Bytes)
  /-- The station makes a step. -/
  | move (move : Move)
  /-- A test does something to the device. -/
  | hook (hook : Hook)
  /-- A caller performs an operation on registers or logging. -/
  | operate (o : Op)
  /-- A caller looks at a completion. -/
  | look (ticket : Ticket) (waker : Waker)
  /-- A caller takes the outcome out of a resolved completion. -/
  | take (ticket : Ticket)

variable (compute : UInt32 → Bytes → Bytes)

/-- The native call that an exchange completes with its next step, if it does. -/
def actsOf (run : Exchange.Run) (w : World Simulator) : List Exchange.Act :=
  match run.rest with
  | .done _ => []
  | .step o _ =>
      if Exchange.returns (driver compute) run.entered o w then
        Exchange.acted run.entered o (Exchange.answered (driver compute) run.entered o w).1 w.driver
      else []

/-- The native call that the worker of a slot completes for its job with its next step, if it
does. -/
def workDeeds (s : Station Simulator) (slot : Nat) : List Deed :=
  match s.dispatcher.pool.worker? slot with
  | some (.running job run) => (actsOf compute run s.world).map fun act => ⟨job, act⟩
  | _ => []

/-- The native call that a move completes for a job, if it does. -/
def deedsOf (s : Station Simulator) : Move → List Deed
  | .work slot => s.workDeeds compute slot
  | _ => []

/-- A job is asked for only with a completion of its own. -/
def Move.isExecution : Move → Bool
  | .execute _ => true
  | _ => false

namespace Run

/-- The beginning. -/
def start (d : Dispatcher) (w : World Simulator) : Run :=
  { station := { world := w, ledger := .empty, dispatcher := d }
    history := [], deeds := [], taken := [] }

/-- The simulated device of a run. -/
def device (r : Run) : Simulator := r.station.world.driver

/-- The pool of a run. -/
def pool (r : Run) : Pool Exchange.Run := r.station.dispatcher.pool

/-- A run with other completions. -/
def withLedger (r : Run) (ledger : Ledger) : Run := { r with station := { r.station with ledger } }

/-- A run with another world. -/
def withWorld (r : Run) (world : World Simulator) : Run :=
  { r with station := { r.station with world } }

/-- A run after a step of its station. -/
def after (r : Run) (s : Station Simulator) (e : Option Pool.Event) (deeds : List Deed) : Run :=
  { r with station := s, history := r.history ++ e.toList, deeds := r.deeds ++ deeds }

/-- The native calls that were made for a job, oldest first. -/
def acts (r : Run) (job : Pool.Job) : List Exchange.Act :=
  (r.deeds.filter fun d => d.job = job).map Deed.act

/-- One turn, which is missing when it is not possible. -/
def turn (r : Run) : Turn → Option Run
  | .execute input =>
      let (ticket, ledger) := r.station.ledger.issue
      ((r.withLedger ledger).station.step (driver compute) patience (.execute ⟨ticket, input⟩)).map
        fun (s, e) => r.after s e []
  | .move move =>
      if move.isExecution then none
      else
        (r.station.step (driver compute) patience move).map fun (s, e) =>
          r.after s e (r.station.deedsOf compute move)
  | .hook hook =>
      (hook.apply r.device).map fun s => r.withWorld { r.station.world with driver := s }
  | .operate o =>
      if isRegister o then some (r.withWorld ((driver compute).answer o r.station.world).2)
      else none
  | .look ticket waker => some (r.withLedger (r.station.ledger.look ticket waker).2)
  | .take ticket =>
      if r.station.ledger.isResolved ticket then
        some { r.withLedger (r.station.ledger.take ticket).2 with taken := ticket :: r.taken }
      else none

/-- Many turns. -/
def turns (ts : List Turn) (r : Run) : Option Run := ts.foldlM (turn compute) r

variable {compute}

/-- What each turn comes to. -/
inductive Turned (compute : UInt32 → Bytes → Bytes) (r : Run) : Turn → Run → Prop
  | execute (input : Bytes) (e : Option Pool.Event) (s : Station Simulator)
      (h : Transition (driver compute) patience (r.withLedger r.station.ledger.issue.2).station
        (.execute ⟨r.station.ledger.issue.1, input⟩) e s) :
      Turned compute r (.execute input) (r.after s e [])
  | move (move : Move) (e : Option Pool.Event) (s : Station Simulator)
      (hmove : move.isExecution = false)
      (h : Transition (driver compute) patience r.station move e s) :
      Turned compute r (.move move) (r.after s e (r.station.deedsOf compute move))
  | hook (hook : Hook) (s : Simulator) (h : hook.apply r.device = some s) :
      Turned compute r (.hook hook) (r.withWorld { r.station.world with driver := s })
  | operate (o : Op) (ho : isRegister o = true) :
      Turned compute r (.operate o) (r.withWorld ((driver compute).answer o r.station.world).2)
  | look (ticket : Ticket) (waker : Waker) :
      Turned compute r (.look ticket waker) (r.withLedger (r.station.ledger.look ticket waker).2)
  | take (ticket : Ticket) (h : r.station.ledger.isResolved ticket = true) :
      Turned compute r (.take ticket)
        { r.withLedger (r.station.ledger.take ticket).2 with taken := ticket :: r.taken }

/-- Every turn comes to one of these. -/
theorem turned_of_turn {r r' : Run} {t : Turn} (ht : r.turn compute t = some r') :
    Turned compute r t r' := by
  cases t with
  | execute input =>
      obtain ⟨⟨s, e⟩, hs, rfl⟩ := Option.map_eq_some_iff.1 ht
      exact .execute input e s (transition_of_step hs)
  | move move =>
      simp only [turn] at ht
      split at ht
      · cases ht
      · next hmove =>
          obtain ⟨⟨s, e⟩, hs, rfl⟩ := Option.map_eq_some_iff.1 ht
          exact .move move e s (by simpa using hmove) (transition_of_step hs)
  | hook hook =>
      obtain ⟨s, hs, rfl⟩ := Option.map_eq_some_iff.1 ht
      exact .hook hook s hs
  | operate o =>
      simp only [turn] at ht
      split at ht
      · next ho =>
          cases ht
          exact .operate o ho
      · cases ht
  | look ticket waker =>
      cases ht
      exact .look ticket waker
  | take ticket =>
      simp only [turn] at ht
      split at ht
      · next h =>
          cases ht
          exact .take ticket h
      · cases ht

/-- Two runs that differ in completions, faults, registers and logging only. -/
structure Still (r r' : Run) : Prop where
  dispatcher : r'.station.dispatcher = r.station.dispatcher
  history : r'.history = r.history
  deeds : r'.deeds = r.deeds
  outline : r'.device.outline = r.device.outline

/-- **A turn is a step of the station**, perhaps with a new completion, or it leaves alone all that
matters to jobs. -/
theorem turn_cases {r r' : Run} {t : Turn} (ht : r.turn compute t = some r') :
    (∃ l move e s, Transition (driver compute) patience (r.withLedger l).station move e s ∧
        r' = r.after s e (r.station.deedsOf compute move)) ∨ Still r r' := by
  cases turned_of_turn ht with
  | execute input e s hs => exact Or.inl ⟨_, _, e, s, hs, rfl⟩
  | move move e s hmove hs => exact Or.inl ⟨r.station.ledger, move, e, s, hs, rfl⟩
  | hook hook s hs => exact Or.inr ⟨rfl, rfl, rfl, hook.outline_eq hs⟩
  | operate o ho => exact Or.inr ⟨rfl, rfl, rfl, outline_answer ho _⟩
  | look | take => exact Or.inr ⟨rfl, rfl, rfl, rfl⟩

end Run

end Station

/-! ### The pool of a run -/

namespace Pool

variable {ρ S : Type} {h : History} {calls calls' taken : List Ticket}

/-- The order of the calls that wait for the lock does not matter. -/
theorem Ticketed.perm {submission : Option Submission} {l : Ledger}
    (htk : Ticketed h submission l calls taken) (hcalls : calls'.Perm calls) :
    Ticketed h submission l calls' taken := by
  have hperm : (claimed h submission calls').Perm (claimed h submission calls) :=
    hcalls.append_left _
  exact ⟨hperm.nodup_iff.2 htk.nodup, fun t ht => htk.issued t (hperm.subset ht),
    fun t ht => htk.pending t (hperm.subset ht), htk.holds⟩

theorem Ticketed.refuse {submission : Option Submission} {l : Ledger} {t : Ticket}
    {outcome : Outcome Bytes} (htk : Ticketed h submission l calls taken)
    (ht : t ∈ tickets Event.isRefusal h) :
    Ticketed h submission (l.resolve t outcome).2 calls taken := by
  refine htk.ledger (Nat.le_of_eq Ledger.length_resolve.symm) (fun u _ hu hp => ?_)
    fun u o ho => ho.resolve
  exact Ledger.isPending_resolve hp fun heq => hu (heq ▸ ht)

theorem Ticketed.turnAway {submission : Option Submission} {l : Ledger} {job : Job}
    (htk : Ticketed h submission l (calls ++ [job.ticket]) taken) :
    Ticketed (h ++ [.refused job]) submission l calls taken := by
  have hperm : (claimed (h ++ [.refused job]) submission calls).Perm
      (claimed h submission (calls ++ [job.ticket])) := by
    have hlast := (List.perm_append_singleton job.ticket
      ((submission.toList.map (·.job)).map Job.ticket ++ calls)).symm
    simpa [claimed, held, answered_concat, Event.job] using
      hlast.append_left ((answered h).map Job.ticket)
  have hsub : ∀ kind, tickets kind h ⊆ tickets kind (h ++ [.refused job]) := fun kind =>
    tickets_append_subset _ _
  refine ⟨hperm.nodup_iff.2 htk.nodup, fun t ht => htk.issued t (hperm.subset ht), ?_, ?_⟩
  · intro t ht hf hr
    exact htk.pending t (hperm.subset ht) (fun hx => hf (hsub _ hx)) fun hx => hr (hsub _ hx)
  · intro job' slot outcome hm
    refine htk.holds job' slot outcome ?_
    simpa using hm

theorem Sound.refuse {s : Scheduler ρ S} {l : Ledger} {job : Job} {outcome : Outcome Bytes}
    {shared : S} (hs : Sound h s calls' taken)
    (htk : Ticketed h s.pool.submission l (calls ++ [job.ticket]) taken) :
    Sound (h ++ [.refused job])
      { s with ledger := (l.resolve job.ticket outcome).2, shared } calls taken where
  phased := hs.phased
  slots e he i hi := by
    rcases List.mem_append.1 he with he | he
    · exact hs.slots e he i hi
    · obtain rfl := List.mem_singleton.1 he
      cases hi
  custody i lane hl := (hs.custody i lane hl).still (e := some (.refused job)) (by rintro e ⟨⟩ ⟨⟩)
  ticketed := by
    refine htk.turnAway.refuse (mem_tickets.2 ⟨.refused job, ?_, rfl, rfl⟩)
    exact List.mem_append_right _ (List.mem_singleton_self _)

end Pool

namespace Station.Run

variable {compute : UInt32 → Bytes → Bytes} {r r' : Run} {t : Turn}

/-- The calls that wait for the lock of the pool. -/
def calls (r : Run) : List Ticket := r.station.dispatcher.arrivals.map Pool.Job.ticket

/-- What holds of the pool of every run. -/
def IsSound (r : Run) : Prop := Pool.Sound r.history r.station.scheduler r.calls r.taken

/-- A call takes the lock of the pool once. -/
theorem perm_callsAfter_of_driving {s : Station Simulator} {move : Move} {poolMove : Pool.Move}
    {arrivals : List Pool.Job} {teardown : Dispatcher.Teardown}
    (hd : Driving s move poolMove arrivals teardown) :
    (arrivals.map Pool.Job.ticket).Perm
        (Pool.callsAfter (s.dispatcher.arrivals.map Pool.Job.ticket) poolMove) ∧
      Pool.IsReady (s.dispatcher.arrivals.map Pool.Job.ticket) poolMove := by
  cases hd with
  | enter job hjob =>
      have hmem : job.ticket ∈ s.dispatcher.arrivals.map Pool.Job.ticket :=
        List.mem_map_of_mem hjob
      refine ⟨?_, hmem⟩
      have h₁ : (job.ticket :: (s.dispatcher.arrivals.erase job).map Pool.Job.ticket).Perm
          (s.dispatcher.arrivals.map Pool.Job.ticket) :=
        ((List.perm_cons_erase hjob).map Pool.Job.ticket).symm
      exact List.Perm.cons_inv (h₁.trans (List.perm_cons_erase hmem))
  | _ => exact ⟨.refl _, trivial⟩

/-- What is done about the completions after an event keeps them in order. -/
theorem ticketed_answering {h : Pool.History} {submission : Option Pool.Submission} {l : Ledger}
    {calls taken : List Ticket} {e : Option Pool.Event}
    (htk : Pool.Ticketed (h ++ e.toList) submission l calls taken) :
    Pool.Ticketed (h ++ e.toList) submission (answering e l) calls taken := by
  cases e with
  | none => exact htk
  | some e =>
      cases e with
      | refused job =>
          refine htk.refuse (Pool.mem_tickets.2 ⟨.refused job, ?_, rfl, rfl⟩)
          exact List.mem_append_right _ (List.mem_singleton_self _)
      | _ => exact htk

theorem IsSound.transition {move : Move} {e : Option Pool.Event} {s : Station Simulator}
    {deeds : List Deed} (hs : r.IsSound) (hmove : move.isExecution = false)
    (ht : Transition (driver compute) patience r.station move e s) :
    (r.after s e deeds).IsSound := by
  have hstill : Pool.Sound (r.history ++ []) r.station.scheduler r.calls r.taken := by
    rw [List.append_nil]
    exact hs
  cases ht with
  | turnAway | takeIn => cases hmove
  | pool _ poolMove arrivals teardown _ q hd hq =>
      obtain ⟨hperm, hready⟩ := perm_callsAfter_of_driving hd
      have hstep := Pool.Sound.step hs hq hready
      exact ⟨hstep.phased, hstep.slots, hstep.custody,
        ticketed_answering (hstep.ticketed.perm hperm)⟩
  | _ => exact ⟨hstill.phased, hstill.slots, hstill.custody, hstill.ticketed⟩

/-- **Every turn keeps the pool of a run sound.** -/
theorem IsSound.turn (hs : r.IsSound) (ht : r.turn compute t = some r') : r'.IsSound := by
  cases turned_of_turn ht with
  | execute input e s hstep =>
      have hissue := hs.ticketed.issue
      cases hstep with
      | turnAway _ err => exact Pool.Sound.refuse hs hissue
      | takeIn =>
          show Pool.Sound (r.history ++ []) _ (List.map _ (_ ++ [_])) r.taken
          rw [List.append_nil, List.map_append]
          exact ⟨hs.phased, hs.slots, hs.custody, hissue⟩
      | pool _ _ _ _ _ _ hd => cases hd
  | move move e s hmove hstep => exact hs.transition hmove hstep
  | hook | operate => exact ⟨hs.phased, hs.slots, hs.custody, hs.ticketed⟩
  | look u w => exact ⟨hs.phased, hs.slots, hs.custody, hs.ticketed.look u w⟩
  | take u => exact ⟨hs.phased, hs.slots, hs.custody, hs.ticketed.take u⟩

theorem isSound_start {setup : Setup} {d : Dispatcher} (hd : d.IsUp setup) (w : World Simulator) :
    (start d w).IsSound := by
  have hfresh : Pool.Sound [] (start d w).station.scheduler [] [] := by
    have h := Pool.Sound.fresh (ρ := Exchange.Run) hd.slots (start d w).station.scheduler.shared
    rwa [← hd.pool] at h
  have hcalls : (start d w).calls = [] := by
    simp [calls, start, hd.arrivals]
  rw [IsSound, hcalls]
  exact hfresh

end Station.Run

end Offload

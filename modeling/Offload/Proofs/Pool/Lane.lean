/-
**What a step makes of one slot.**

A step of a pool touches at most one slot.  Seen from a slot, the closing call is a second worker
that empties its queue once the first one has ended, so the state of a slot is what belongs to it
together with the job that the closing call has in hand there.

Main definitions:

* `Pool.Closing.current` — the job of a slot that the closing call is finishing;
* `Pool.Closing.hasJoined`, `Pool.Closing.hasDrained` — the slots that the closing call is done
  with;
* `Pool.Phased` — the closing call has seen what its place says;
* `Pool.LaneFinish`, `Pool.LaneStep` — the steps of a slot.

Main results:

* `Pool.lane_of_modifyLane` — looking a slot up after a change of one slot;
* `Pool.Scheduler.laneStep_of_transition` — **every step of a pool is a step of each of its
  slots**;
* `Pool.Phased.step` — every step keeps a pool phased.
-/

import Mathlib.Data.List.Basic
import Offload.Proofs.Pool.History
import Offload.Proofs.Pool.Transition

set_option autoImplicit false
set_option relaxedAutoImplicit false

namespace Offload.Pool

variable {ρ S : Type}

/-- The job of a slot that the closing call is finishing. -/
def Closing.current (slot : Nat) : Closing → Option Finish
  | .draining place f => if place = slot then f else none
  | _ => none

/-- The closing call has waited for the worker of the slot. -/
def Closing.hasJoined (slot : Nat) : Closing → Bool
  | .notBegun => false
  | .joining next => slot < next
  | .draining _ _ | .finished => true

/-- The closing call has emptied the queue of the slot. -/
def Closing.hasDrained (slot : Nat) : Closing → Bool
  | .notBegun | .joining _ => false
  | .draining place _ => slot < place
  | .finished => true

/-- The closing call has seen what its place says, nobody submits to a closed pool, and the cursor
is at a slot. -/
structure Phased (p : Pool ρ) : Prop where
  cursor_lt : p.cursor < p.size
  notBegun_iff : p.closing = .notBegun ↔ p.closed = false
  entering : p.closed = true → ∀ submission, p.submission = some submission →
    submission.next = .entering
  joined : ∀ i lane, p.lanes[i]? = some lane → p.closing.hasJoined i = true →
    lane.worker.hasEnded = true
  drained : ∀ i lane, p.lanes[i]? = some lane → p.closing.hasDrained i = true → lane.queue = []
  drain_lt : ∀ place f, p.closing = .draining place (some f) → place < p.size

/-- The worker is alive or has stopped, and has no job. -/
def Worker.isIdle : Worker ρ → Bool
  | .starting | .looking | .doubting | .stopping | .stopped => true
  | _ => false

/-! ### The steps of a slot -/

/-- The steps that finish a job, with what they do to the depth of the slot. -/
inductive LaneFinish (slot : Nat) :
    Finish → Option Finish → Option Event → (Nat → Nat) → Prop
  | count (job : Job) (outcome : Outcome Bytes) :
      LaneFinish slot ⟨job, outcome, .count⟩ (some ⟨job, outcome, .leave⟩) none id
  | leave (job : Job) (outcome : Outcome Bytes) :
      LaneFinish slot ⟨job, outcome, .leave⟩ (some ⟨job, outcome, .resolve⟩) none (· - 1)
  | resolve (job : Job) (outcome : Outcome Bytes) (waker : Option Waker) :
      LaneFinish slot ⟨job, outcome, .resolve⟩ (some ⟨job, outcome, .wake waker⟩)
        (some (.resolved job slot outcome)) id
  | wake (job : Job) (outcome : Outcome Bytes) (waker : Option Waker) :
      LaneFinish slot ⟨job, outcome, .wake waker⟩ none none id

/-- All that is shown of a job that is being finished is that it is resolved. -/
theorem LaneFinish.event_eq {slot : Nat} {f : Finish} {f' : Option Finish} {e : Event}
    {change : Nat → Nat} (hf : LaneFinish slot f f' (some e) change) :
    e = .resolved f.job slot f.outcome := by
  cases hf
  rfl

/-- The steps of a slot: what belongs to it and the job that the closing call has in hand, what is
shown, and the same two afterwards. -/
inductive LaneStep (slot : Nat) (closed : Bool) :
    Lane ρ → Option Finish → Option Event → Lane ρ → Option Finish → Prop
  /-- The step is none of this slot's. -/
  | still (lane : Lane ρ) (d : Option Finish) (e : Option Event)
      (he : ∀ e', e = some e' → e'.slot? ≠ some slot) : LaneStep slot closed lane d e lane d
  | enlist (lane : Lane ρ) (d : Option Finish) (job : Job) :
      LaneStep slot closed lane d none { lane with tail := some job.ticket } d
  | deepen (lane : Lane ρ) (d : Option Finish) :
      LaneStep slot closed lane d none { lane with depth := lane.depth + 1 } d
  | accept (lane : Lane ρ) (d : Option Finish) (job : Job) :
      LaneStep slot closed lane d (some (.accepted job slot))
        { lane with queue := lane.queue ++ [job] } d
  /-- The worker moves on without a job. -/
  | hop (lane : Lane ρ) (d : Option Finish) (worker : Worker ρ)
      (hidle : lane.worker.isIdle = true) (halive : lane.worker.hasEnded = false)
      (hworker : worker.isIdle = true) :
      LaneStep slot closed lane d none { lane with worker } d
  | find (lane : Lane ρ) (d : Option Finish) (job : Job) (queue : List Job)
      (hw : lane.worker = .looking) (hq : lane.queue = job :: queue) :
      LaneStep slot closed lane d none { lane with queue, worker := .holding job } d
  | reject (lane : Lane ρ) (d : Option Finish) (job : Job) (hw : lane.worker = .holding job)
      (hclosed : closed = true) :
      LaneStep slot closed lane d none
        { lane with worker := .finishing (.begin job (.error .closed)) } d
  | begin (lane : Lane ρ) (d : Option Finish) (job : Job) (run : ρ)
      (hw : lane.worker = .holding job) (hopen : closed = false) :
      LaneStep slot closed lane d (some (.begun job slot))
        { lane with worker := .running job run } d
  | goOn (lane : Lane ρ) (d : Option Finish) (job : Job) (run run' : ρ)
      (hw : lane.worker = .running job run) :
      LaneStep slot closed lane d none { lane with worker := .running job run' } d
  | return (lane : Lane ρ) (d : Option Finish) (job : Job) (run : ρ) (outcome : Outcome Bytes)
      (hw : lane.worker = .running job run) :
      LaneStep slot closed lane d (some (.returned job slot outcome))
        { lane with worker := .finishing (.begin job outcome) } d
  | die (lane : Lane ρ) (d : Option Finish) (job : Job) (run : ρ)
      (hw : lane.worker = .running job run) :
      LaneStep slot closed lane d (some (.died job slot)) { lane with worker := .died job } d
  | finish (lane : Lane ρ) (d : Option Finish) (f : Finish) (f' : Option Finish)
      (e : Option Event) (change : Nat → Nat) (hw : lane.worker = .finishing f)
      (hf : LaneFinish slot f f' e change) :
      LaneStep slot closed lane d e
        { lane with depth := change lane.depth, worker := .afterFinish f' } d
  /-- The closing call takes a job. -/
  | drainFind (lane : Lane ρ) (job : Job) (queue : List Job) (hq : lane.queue = job :: queue)
      (hended : lane.worker.hasEnded = true) (hclosed : closed = true) :
      LaneStep slot closed lane none none { lane with queue }
        (some (.begin job (.error .closed)))
  /-- The closing call makes a step with the job that it has in hand. -/
  | drainFinish (lane : Lane ρ) (f : Finish) (f' : Option Finish) (e : Option Event)
      (change : Nat → Nat) (hf : LaneFinish slot f f' e change) :
      LaneStep slot closed lane (some f) e { lane with depth := change lane.depth } f'

/-! ### Looking slots up -/

@[simp] theorem size_modifyLane (p : Pool ρ) (slot : Nat) (change : Lane ρ → Lane ρ) :
    (p.modifyLane slot change).size = p.size := by
  simp [modifyLane, size]

@[simp] theorem closed_modifyLane (p : Pool ρ) (slot : Nat) (change : Lane ρ → Lane ρ) :
    (p.modifyLane slot change).closed = p.closed := rfl

@[simp] theorem closing_modifyLane (p : Pool ρ) (slot : Nat) (change : Lane ρ → Lane ρ) :
    (p.modifyLane slot change).closing = p.closing := rfl

@[simp] theorem submission_modifyLane (p : Pool ρ) (slot : Nat) (change : Lane ρ → Lane ρ) :
    (p.modifyLane slot change).submission = p.submission := rfl

@[simp] theorem cursor_modifyLane (p : Pool ρ) (slot : Nat) (change : Lane ρ → Lane ρ) :
    (p.modifyLane slot change).cursor = p.cursor := rfl

@[simp] theorem closed_setWorker (p : Pool ρ) (slot : Nat) (worker : Worker ρ) :
    (p.setWorker slot worker).closed = p.closed := rfl

@[simp] theorem closing_setWorker (p : Pool ρ) (slot : Nat) (worker : Worker ρ) :
    (p.setWorker slot worker).closing = p.closing := rfl

@[simp] theorem submission_setWorker (p : Pool ρ) (slot : Nat) (worker : Worker ρ) :
    (p.setWorker slot worker).submission = p.submission := rfl

@[simp] theorem cursor_setWorker (p : Pool ρ) (slot : Nat) (worker : Worker ρ) :
    (p.setWorker slot worker).cursor = p.cursor := rfl

@[simp] theorem size_setWorker (p : Pool ρ) (slot : Nat) (worker : Worker ρ) :
    (p.setWorker slot worker).size = p.size := size_modifyLane ..

/-- After a change of one slot, a slot is either another one and as before, or that one. -/
theorem lane_of_modifyLane {p : Pool ρ} {slot i : Nat} {change : Lane ρ → Lane ρ}
    {lane' : Lane ρ} (hl : (p.modifyLane slot change).lanes[i]? = some lane') :
    (slot ≠ i ∧ p.lanes[i]? = some lane') ∨
      (slot = i ∧ ∃ lane, p.lanes[i]? = some lane ∧ lane' = change lane) := by
  by_cases hi : slot = i
  · subst hi
    obtain ⟨lane, hlane, rfl⟩ : ∃ lane, p.lanes[slot]? = some lane ∧ change lane = lane' := by
      simpa [modifyLane] using hl
    exact Or.inr ⟨rfl, lane, hlane, rfl⟩
  · refine Or.inl ⟨hi, ?_⟩
    rwa [modifyLane, List.getElem?_modify_ne _ _ hi] at hl

theorem lanes_modifyLane_self {p : Pool ρ} {slot : Nat} {change : Lane ρ → Lane ρ} {lane : Lane ρ}
    (hl : p.lanes[slot]? = some lane) :
    (p.modifyLane slot change).lanes[slot]? = some (change lane) := by
  simp [modifyLane, hl]

theorem exists_lane {p : Pool ρ} {slot : Nat} (hs : slot < p.size) :
    ∃ lane, p.lanes[slot]? = some lane := ⟨_, List.getElem?_eq_getElem hs⟩

theorem lt_size_of_lane {p : Pool ρ} {slot : Nat} {lane : Lane ρ}
    (hl : p.lanes[slot]? = some lane) : slot < p.size := (List.getElem?_eq_some_iff.1 hl).1

/-! ### From the pool to the slots -/

namespace Scheduler

variable {exec : Executor ρ S} {s s' : Scheduler ρ S} {move : Move} {e : Option Event}

/-- A step that leaves all slots and the closing call alone. -/
private theorem still_all {closed : Bool} {closing : Closing} {p : Pool ρ} {i : Nat}
    {lane' : Lane ρ} {e : Option Event} (hl : p.lanes[i]? = some lane')
    (he : ∀ e', e = some e' → e'.slot? ≠ some i) :
    ∃ lane, p.lanes[i]? = some lane ∧
      LaneStep i closed lane (closing.current i) e lane' (closing.current i) :=
  ⟨lane', hl, .still lane' _ e he⟩

/-- A step that changes one slot, and shows at most an event on it. -/
private theorem change_one {closed : Bool} {p : Pool ρ} {slot i : Nat}
    {change : Lane ρ → Lane ρ} {lane' : Lane ρ} {d d' : Option Finish} {e : Option Event}
    (hl : (p.modifyLane slot change).lanes[i]? = some lane')
    (he : ∀ e', e = some e' → e'.slot? = some slot)
    (hd : slot ≠ i → d = d')
    (hstep : ∀ lane, slot = i → p.lanes[i]? = some lane →
      LaneStep i closed lane d e (change lane) d') :
    ∃ lane, p.lanes[i]? = some lane ∧ LaneStep i closed lane d e lane' d' := by
  rcases lane_of_modifyLane hl with ⟨hne, hl₀⟩ | ⟨hi, lane, hl₀, rfl⟩
  · refine ⟨lane', hl₀, hd hne ▸ .still lane' d e fun e' hee hslot => hne ?_⟩
    exact Option.some_inj.1 ((he e' hee).symm.trans hslot)
  · exact ⟨lane, hl₀, hstep lane hi hl₀⟩

/-- A step that changes one slot in a way that depends on what belongs to it. -/
private theorem change_at {closed : Bool} {closing closing' : Closing} {p : Pool ρ} {slot i : Nat}
    {change : Lane ρ → Lane ρ} {lane lane' : Lane ρ} {e : Option Event}
    (hl : p.lanes[slot]? = some lane)
    (hl' : (p.modifyLane slot change).lanes[i]? = some lane')
    (he : ∀ e', e = some e' → e'.slot? = some slot)
    (hclosing : slot ≠ i → closing.current i = closing'.current i)
    (hstep : LaneStep slot closed lane (closing.current slot) e (change lane)
      (closing'.current slot)) :
    ∃ lane, p.lanes[i]? = some lane ∧
      LaneStep i closed lane (closing.current i) e lane' (closing'.current i) := by
  refine change_one hl' he hclosing fun lane₀ hi hl₀ => ?_
  subst hi
  obtain rfl : lane₀ = lane := Option.some_inj.1 (hl₀.symm.trans hl)
  exact hstep

private theorem hop_at {closed : Bool} {closing : Closing} {p : Pool ρ} {slot i : Nat}
    {lane lane' : Lane ρ} {worker worker' : Worker ρ} (hl : p.lanes[slot]? = some lane)
    (hl' : (p.setWorker slot worker').lanes[i]? = some lane') (hw : lane.worker = worker)
    (hidle : worker.isIdle = true) (halive : worker.hasEnded = false)
    (hidle' : worker'.isIdle = true) :
    ∃ lane, p.lanes[i]? = some lane ∧
      LaneStep i closed lane (closing.current i) none lane' (closing.current i) := by
  subst hw
  exact change_at hl hl' (by simp) (fun _ => rfl) (.hop _ _ worker' hidle halive hidle')

private theorem modify_depth_id (lanes : List (Lane ρ)) (slot : Nat) :
    lanes.modify slot (fun l => { l with depth := id l.depth }) = lanes := by
  refine List.ext_getElem? fun i => ?_
  rw [List.getElem?_modify]
  cases lanes[i]? <;> simp

/-- What finishing a job of a slot does to the pool: the depth of the slot may change, and the
counters of finished jobs. -/
structure Finished (slot : Nat) (change : Nat → Nat) (p p' : Pool ρ) : Prop where
  lanes : p'.lanes = p.lanes.modify slot fun l => { l with depth := change l.depth }
  cursor : p'.cursor = p.cursor
  closed : p'.closed = p.closed
  submission : p'.submission = p.submission
  closing : p'.closing = p.closing
  submitted : p'.submitted = p.submitted

theorem Finished.lanes_setWorker {slot : Nat} {change : Nat → Nat} {p p' : Pool ρ}
    (h : Finished slot change p p') (worker : Worker ρ) :
    (p'.setWorker slot worker).lanes =
      p.lanes.modify slot fun l => { l with depth := change l.depth, worker } := by
  simp only [setWorker, modifyLane, h.lanes, List.modify_modify_eq]
  rfl

theorem laneFinish_of_finishing {slot : Nat} {f : Finish} {f' : Option Finish}
    (hf : Finishing s slot f f' e s') :
    ∃ change : Nat → Nat, LaneFinish slot f f' e change ∧ Finished slot change s.pool s'.pool := by
  have hid := (modify_depth_id s.pool.lanes slot).symm
  cases hf with
  | count job outcome =>
      refine ⟨id, .count job outcome, ?_⟩
      cases outcome <;> exact ⟨hid, rfl, rfl, rfl, rfl, rfl⟩
  | leave job outcome => exact ⟨_, .leave job outcome, rfl, rfl, rfl, rfl, rfl, rfl⟩
  | resolve job outcome => exact ⟨id, .resolve job outcome _, hid, rfl, rfl, rfl, rfl, rfl⟩
  | wake job outcome waker => exact ⟨id, .wake job outcome waker, hid, rfl, rfl, rfl, rfl, rfl⟩

/-- **Every step of a pool is a step of each of its slots.** -/
theorem laneStep_of_transition (ht : Transition exec s move e s')
    (hp : Phased s.pool) {i : Nat} {lane' : Lane ρ} (hl' : s'.pool.lanes[i]? = some lane') :
    ∃ lane, s.pool.lanes[i]? = some lane ∧
      LaneStep i s.pool.closed lane (s.pool.closing.current i) e lane'
        (s'.pool.closing.current i) := by
  cases ht with
  | lock | enter | glanceFree | glanceBusy | scanFree | scanBusy | scanOut | countSubmitted
  | closeAgain => exact still_all hl' (by simp)
  | refuse => exact still_all hl' (by rintro e' ⟨⟩; simp [Event.slot?])
  | enlist job hsub =>
      exact change_one hl' (by simp) (fun _ => rfl) fun lane _ _ => .enlist lane _ job
  | deepen job hsub =>
      exact change_one hl' (by simp) (fun _ => rfl) fun lane _ _ => .deepen lane _
  | accept job hsub =>
      refine change_one hl' (by rintro e' ⟨⟩; rfl) (fun _ => rfl) fun lane hi _ => ?_
      subst hi
      exact .accept lane _ job
  -- the worker of a slot: the job that the closing call has in hand stays what it is
  | start _ _ hl hw | miss _ _ hl hw | doubtOpen _ _ hl hw | doubtClosed _ _ hl hw
  | stop _ _ hl hw => exact hop_at hl hl' hw rfl rfl rfl
  | find slot lane job queue hl hw hq =>
      exact change_at hl hl' (by simp) (fun _ => rfl) (.find _ _ job queue hw hq)
  | reject slot lane job hl hw hclosed =>
      exact change_at hl hl' (by simp) (fun _ => rfl) (.reject _ _ job hw hclosed)
  | begin slot lane job hl hw hopen =>
      exact change_at hl hl' (by rintro e' ⟨⟩; rfl) (fun _ => rfl) (.begin _ _ job _ hw hopen)
  | goOn slot lane job run run' shared hl hw hstep =>
      exact change_at hl hl' (by simp) (fun _ => rfl) (.goOn _ _ job run run' hw)
  | «return» slot lane job run outcome shared hl hw hstep =>
      exact change_at hl hl' (by rintro e' ⟨⟩; rfl) (fun _ => rfl) (.return _ _ job run outcome hw)
  | die slot lane job run shared hl hw hstep =>
      exact change_at hl hl' (by rintro e' ⟨⟩; rfl) (fun _ => rfl) (.die _ _ job run hw)
  | finish slot lane f f' e t hl hw hf =>
      obtain ⟨change, hlf, hfin⟩ := laneFinish_of_finishing hf
      have hl'' : (s.pool.modifyLane slot fun l =>
          { l with depth := change l.depth, worker := .afterFinish f' }).lanes[i]? =
            some lane' := by
        rw [← hl', hfin.lanes_setWorker]
        rfl
      simp only [setWorker, modifyLane, hfin.closing]
      exact change_at hl hl'' (by rintro e' rfl; rw [hlf.event_eq]; rfl) (fun _ => rfl)
        (.finish _ _ f f' e change hw hlf)
  -- the closing call
  | close hsub hopen =>
      rw [hp.notBegun_iff.2 hopen]
      exact ⟨lane', hl', .still lane' none none (by simp)⟩
  | join next lane hc hl hw shared =>
      rw [hc]
      exact ⟨lane', hl', .still lane' none none (by simp)⟩
  | joined next hc hl =>
      rw [hc]
      exact ⟨lane', hl', by simpa [Closing.current] using .still lane' none none (by simp)⟩
  | drainFinish slot f f' e t hc hf =>
      obtain ⟨change, hlf, hfin⟩ := laneFinish_of_finishing hf
      have hl'' : (s.pool.modifyLane slot fun l =>
          { l with depth := change l.depth }).lanes[i]? = some lane' := by
        rw [← hl']
        simp only [modifyLane, hfin.lanes]
      rw [hc]
      refine change_one hl'' ?_ (fun hne => ?_) fun lane hi hl => ?_
      · rintro e' rfl
        rw [hlf.event_eq]
        rfl
      · simp [Closing.current, hne]
      · subst hi
        simpa [Closing.current] using .drainFinish lane f f' e change hlf
  | drainFind slot lane job queue hc hl hq =>
      have hclosed : s.pool.closed = true := by
        by_contra hopen
        simp [hp.notBegun_iff.2 (by simpa using hopen)] at hc
      have hended := hp.joined slot lane hl (by simp [hc, Closing.hasJoined])
      refine change_at hl hl' (by simp) (fun hne => ?_) ?_
      · simp [hc, Closing.current, hne]
      · simpa [hc, Closing.current] using .drainFind lane job queue hq hended hclosed
  | drainNext slot lane hc hl hq =>
      rw [hc]
      exact ⟨lane', hl', by simpa [Closing.current] using .still lane' none none (by simp)⟩
  | drained slot hc hl =>
      rw [hc]
      exact ⟨lane', hl', by simpa [Closing.current] using .still lane' none none (by simp)⟩

end Scheduler

/-! ### What the closing call has seen stays -/

section

variable {slot : Nat} {closed : Bool} {lane lane' : Lane ρ} {d d' : Option Finish}
  {e : Option Event}

theorem LaneStep.hasEnded (hs : LaneStep slot closed lane d e lane' d')
    (hended : lane.worker.hasEnded = true) : lane'.worker.hasEnded = true := by
  cases hs with
  | still | enlist | deepen | accept | drainFind | drainFinish => exact hended
  | hop _ worker hidle halive => simp [halive] at hended
  | _ => simp_all [Worker.hasEnded]

/-- A queue grows only with an acceptance. -/
theorem LaneStep.queue_eq_nil (hs : LaneStep slot closed lane d e lane' d')
    (hq : lane.queue = []) (he : ∀ job, e ≠ some (.accepted job slot)) : lane'.queue = [] := by
  cases hs with
  | accept _ job => exact absurd rfl (he job)
  | find _ job queue hw hq' => simp [hq] at hq'
  | drainFind job queue hq' => simp [hq] at hq'
  | _ => exact hq

end

section

variable {exec : Executor ρ S} {s s' : Scheduler ρ S} {move : Move} {e : Option Event}

theorem Phased.open_of_accepted (hp : Phased s.pool) (ht : Scheduler.Transition exec s move e s')
    {job : Job} {i : Nat} (he : e = some (.accepted job i)) :
    s.pool.closed = false ∧ s'.pool.closed = false := by
  cases ht with
  | accept job hsub =>
      have hopen : s.pool.closed = false := by
        by_contra hclosed
        have := hp.entering (by simpa using hclosed) _ hsub
        simp at this
      exact ⟨hopen, hopen⟩
  | finish _ _ _ _ _ _ _ _ hf => subst he; cases hf
  | drainFinish _ _ _ _ _ _ hf => subst he; cases hf
  | _ => cases he

theorem size_of_transition (ht : Scheduler.Transition exec s move e s') :
    s'.pool.size = s.pool.size := by
  cases ht with
  | finish slot lane f f' e t hl hw hf =>
      obtain ⟨change, -, hfin⟩ := Scheduler.laneFinish_of_finishing hf
      simp [setWorker, modifyLane, size, hfin.lanes]
  | drainFinish slot f f' e t hc hf =>
      obtain ⟨change, -, hfin⟩ := Scheduler.laneFinish_of_finishing hf
      simp [size, hfin.lanes]
  | _ => simp [setWorker, modifyLane, size]

theorem closed_eq_of_transition (ht : Scheduler.Transition exec s move e s')
    (hmove : move ≠ .close) : s'.pool.closed = s.pool.closed := by
  cases ht with
  | close | closeAgain => exact absurd rfl hmove
  | finish _ _ _ _ _ _ _ _ hf | drainFinish _ _ _ _ _ _ hf =>
      obtain ⟨change, -, hfin⟩ := Scheduler.laneFinish_of_finishing hf
      exact hfin.closed
  | _ => rfl

theorem closed_of_transition (ht : Scheduler.Transition exec s move e s') :
    s'.pool.closed = s.pool.closed ∨ s'.pool.closed = true := by
  by_cases hmove : move = .close
  · subst hmove
    cases ht with
    | close => exact Or.inr rfl
    | closeAgain => exact Or.inl rfl
  · exact Or.inl (closed_eq_of_transition ht hmove)

/-- Whenever the closing call is newly done with waiting for a worker, that worker has ended. -/
theorem hasJoined_of_transition (ht : Scheduler.Transition exec s move e s') {i : Nat}
    {lane : Lane ρ} (hl : s.pool.lanes[i]? = some lane)
    (hj : s'.pool.closing.hasJoined i = true) :
    s.pool.closing.hasJoined i = true ∨ lane.worker.hasEnded = true := by
  cases ht with
  | close => simp [Closing.hasJoined] at hj
  | join next lane₀ hc hl₀ hw =>
      have hlt : i < next + 1 := by simpa [Closing.hasJoined] using hj
      by_cases hi : i < next
      · exact Or.inl (by simpa [hc, Closing.hasJoined] using hi)
      · obtain rfl : i = next := by omega
        obtain rfl : lane₀ = lane := Option.some_inj.1 (hl₀.symm.trans hl)
        exact Or.inr hw
  | joined next hc hnone =>
      -- the slot exists, and the closing call has come past the last slot
      have hlast : s.pool.size ≤ next := List.getElem?_eq_none_iff.1 hnone
      have hi := lt_size_of_lane hl
      have hlt : i < next := by omega
      exact Or.inl (by simpa [hc, Closing.hasJoined] using hlt)
  | finish slot lane f f' e t hl hw hf =>
      obtain ⟨change, -, hfin⟩ := Scheduler.laneFinish_of_finishing hf
      exact Or.inl (by simpa [hfin.closing] using hj)
  | drainFinish _ _ _ _ _ hc | drainFind _ _ _ _ hc | drainNext _ _ hc | drained _ hc =>
      exact Or.inl (by simp [hc, Closing.hasJoined])
  | _ => exact Or.inl hj

/-- Whenever the closing call is newly done with a queue, that queue is empty. -/
theorem hasDrained_of_transition (ht : Scheduler.Transition exec s move e s') {i : Nat}
    {lane : Lane ρ} (hl : s.pool.lanes[i]? = some lane)
    (hd : s'.pool.closing.hasDrained i = true) :
    s.pool.closing.hasDrained i = true ∨ lane.queue = [] := by
  cases ht with
  | close | join | joined => simp [Closing.hasDrained] at hd
  | finish slot lane f f' e t hl hw hf =>
      obtain ⟨change, -, hfin⟩ := Scheduler.laneFinish_of_finishing hf
      exact Or.inl (by simpa [hfin.closing] using hd)
  | drainFinish _ _ _ _ _ hc | drainFind _ _ _ _ hc =>
      exact Or.inl (by simpa [hc, Closing.hasDrained] using hd)
  | drainNext place lane₀ hc hl₀ hq =>
      have hlt : i < place + 1 := by simpa [Closing.hasDrained] using hd
      by_cases hi : i < place
      · exact Or.inl (by simpa [hc, Closing.hasDrained] using hi)
      · obtain rfl : i = place := by omega
        obtain rfl : lane₀ = lane := Option.some_inj.1 (hl₀.symm.trans hl)
        exact Or.inr hq
  | drained place hc hnone =>
      have hlast : s.pool.size ≤ place := List.getElem?_eq_none_iff.1 hnone
      have hi := lt_size_of_lane hl
      have hlt : i < place := by omega
      exact Or.inl (by simpa [hc, Closing.hasDrained] using hlt)
  | _ => exact Or.inl hd

/-- The closing call has begun exactly when the pool is closed. -/
theorem Phased.notBegun_iff_step (hp : Phased s.pool)
    (ht : Scheduler.Transition exec s move e s') :
    s'.pool.closing = .notBegun ↔ s'.pool.closed = false := by
  cases ht with
  | close => simp
  | join _ _ hc | joined _ hc | drainFind _ _ _ _ hc | drainNext _ _ hc | drained _ hc =>
      simpa [hc] using hp.notBegun_iff
  | finish _ _ _ _ _ _ _ _ hf =>
      obtain ⟨change, -, hfin⟩ := Scheduler.laneFinish_of_finishing hf
      simpa [hfin.closing, hfin.closed] using hp.notBegun_iff
  | drainFinish _ _ _ _ _ hc hf =>
      obtain ⟨change, -, hfin⟩ := Scheduler.laneFinish_of_finishing hf
      simpa [hfin.closed, hc] using hp.notBegun_iff
  | _ => exact hp.notBegun_iff

/-- Every step keeps a pool phased. -/
theorem Phased.step (hp : Phased s.pool) (ht : Scheduler.Transition exec s move e s') :
    Phased s'.pool where
  cursor_lt := by
    have hlt := hp.cursor_lt
    have hpos : 0 < s.pool.size := by omega
    rw [size_of_transition ht]
    cases ht with
    | enter => exact Nat.mod_lt _ hpos
    | scanFree => exact Nat.mod_lt _ hpos
    | finish _ _ _ _ _ _ _ _ hf | drainFinish _ _ _ _ _ _ hf =>
        obtain ⟨change, -, hfin⟩ := Scheduler.laneFinish_of_finishing hf
        simpa [hfin.cursor] using hp.cursor_lt
    | _ => exact hp.cursor_lt
  notBegun_iff := hp.notBegun_iff_step ht
  entering := by
    cases ht with
    | lock job => rintro _ _ ⟨⟩; rfl
    | refuse => rintro _ _ ⟨⟩
    | accept => rintro _ _ ⟨⟩
    | enter job hsub hopen => simp [hopen]
    | glanceFree _ hsub | glanceBusy _ hsub | scanFree _ _ _ hsub | scanBusy _ _ _ hsub
    | scanOut _ _ _ hsub | enlist _ hsub | deepen _ hsub | countSubmitted _ hsub =>
        intro hclosed
        simpa using hp.entering hclosed _ hsub
    | close hsub => intro _ _ h; simp [hsub] at h
    | finish _ _ _ _ _ _ _ _ hf | drainFinish _ _ _ _ _ _ hf =>
        obtain ⟨change, -, hfin⟩ := Scheduler.laneFinish_of_finishing hf
        simpa [hfin.closed, hfin.submission] using hp.entering
    | _ => exact hp.entering
  joined := by
    intro i lane' hl' hj
    obtain ⟨lane, hl, hstep⟩ := Scheduler.laneStep_of_transition ht hp hl'
    refine hstep.hasEnded ?_
    rcases hasJoined_of_transition ht hl hj with hj | hended
    · exact hp.joined i lane hl hj
    · exact hended
  drained := by
    intro i lane' hl' hd
    obtain ⟨lane, hl, hstep⟩ := Scheduler.laneStep_of_transition ht hp hl'
    refine hstep.queue_eq_nil ?_ fun job he => ?_
    · rcases hasDrained_of_transition ht hl hd with hd | hq
      · exact hp.drained i lane hl hd
      · exact hq
    · -- an acceptance would mean that the pool is open, so nothing has been drained
      have hnot := (hp.notBegun_iff_step ht).2 (hp.open_of_accepted ht he).2
      simp [hnot, Closing.hasDrained] at hd
  drain_lt := by
    rw [size_of_transition ht]
    cases ht with
    | drainFinish _ _ _ _ _ hc =>
        rintro _ _ ⟨⟩
        exact hp.drain_lt _ _ hc
    | drainFind _ _ _ _ _ hl =>
        rintro _ _ ⟨⟩
        exact lt_size_of_lane hl
    | finish _ _ _ _ _ _ _ _ hf =>
        obtain ⟨change, -, hfin⟩ := Scheduler.laneFinish_of_finishing hf
        simpa [hfin.closing] using hp.drain_lt
    | close | join | joined | drainNext | drained => rintro _ _ ⟨⟩
    | _ => exact hp.drain_lt

theorem Phased.slot_lt (hp : Phased s.pool) (ht : Scheduler.Transition exec s move e s')
    {e' : Event} {i : Nat} (he : e = some e') (hi : e'.slot? = some i) : i < s.pool.size := by
  cases ht with
  | accept =>
      cases he
      obtain rfl := Option.some_inj.1 hi
      exact hp.cursor_lt
  | begin _ _ _ hl | «return» _ _ _ _ _ _ hl | die _ _ _ _ _ hl =>
      cases he
      obtain rfl := Option.some_inj.1 hi
      exact lt_size_of_lane hl
  | finish _ _ _ _ _ _ hl _ hf =>
      obtain ⟨change, hlf, -⟩ := Scheduler.laneFinish_of_finishing hf
      obtain rfl := (he ▸ hlf).event_eq
      obtain rfl := Option.some_inj.1 hi
      exact lt_size_of_lane hl
  | drainFinish _ _ _ _ _ hc hf =>
      obtain ⟨change, hlf, -⟩ := Scheduler.laneFinish_of_finishing hf
      obtain rfl := (he ▸ hlf).event_eq
      obtain rfl := Option.some_inj.1 hi
      exact hp.drain_lt _ _ hc
  | refuse => cases he; cases hi
  | _ => cases he

end

end Offload.Pool

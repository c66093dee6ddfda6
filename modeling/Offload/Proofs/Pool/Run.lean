/-
**Runs of a pool.**

In a run the pool makes its steps in any order, calls to submit jobs make their completions and
then take the lock one after another, callers look at their completions and take outcomes, and the
state that the jobs share changes from outside at any time and in any way.

Main definitions:

* `Pool.Run` — a pool with what has happened so far;
* `Pool.Turn`, `Pool.Run.turn`, `Pool.Run.turns` — one thing that happens, and many;
* `Pool.Run.start` — the beginning;
* `Pool.Sound` — **the invariant of runs**.

Main results:

* `Pool.Sound.step` — every step of a pool keeps the invariant;
* `Pool.Run.turned_of_turn`, `Pool.Run.turn_cases` — what a turn can do;
* `Pool.Run.sound` — every run is sound.
-/

import Offload.Proofs.Pool.Ticket
import Offload.Proofs.Runs

set_option autoImplicit false
set_option relaxedAutoImplicit false

namespace Offload.Pool

variable {ρ S : Type}

/-! ### The invariant -/

/-- What holds of a pool in every run: `calls` are the completions of the calls that wait for the
lock, `taken` those whose outcomes have been taken. -/
structure Sound (h : History) (s : Scheduler ρ S) (calls taken : List Ticket) : Prop where
  phased : Phased s.pool
  slots : ∀ e ∈ h, ∀ i, e.slot? = some i → i < s.pool.size
  custody : ∀ i lane, s.pool.lanes[i]? = some lane →
    Custody i h s.pool.closed lane (s.pool.closing.current i)
  ticketed : Ticketed h s.pool.submission s.ledger calls taken

namespace Sound

variable {h : History} {s s' : Scheduler ρ S} {calls taken : List Ticket}
  {exec : Executor ρ S} {move : Move} {e : Option Event} {job job' : Job} {slot slot' : Nat}

theorem mem_accepted (hs : Sound h s calls taken) {e : Event} (he : e ∈ h)
    (hi : e.slot? = some slot) : e.job ∈ accepted slot h := by
  obtain ⟨lane, hl⟩ := exists_lane (hs.slots e he slot hi)
  have hc := hs.custody slot lane hl
  have hbegun : begun slot h ⊆ accepted slot h := hc.begun_prefix_accepted.subset
  cases e with
  | accepted => exact mem_jobsOf.2 ⟨_, he, rfl, hi, rfl⟩
  | refused => cases hi
  | begun => exact hbegun (mem_jobsOf.2 ⟨_, he, rfl, hi, rfl⟩)
  | returned | died =>
      refine hbegun ?_
      rw [hc.begun_eq]
      exact List.mem_append_left _ (mem_jobsOf.2 ⟨_, he, rfl, hi, rfl⟩)
  | resolved =>
      rw [hc.accepted_eq, List.append_assoc, List.append_assoc]
      exact List.mem_append_left _ (mem_jobsOf.2 ⟨_, he, rfl, hi, rfl⟩)

theorem accepted_of_mem (hs : Sound h s calls taken) {e : Event} (he : e ∈ h)
    (hi : e.slot? = some slot) : Event.accepted e.job slot ∈ h :=
  Pool.mem_accepted.1 (hs.mem_accepted he hi)

theorem answer_inj (hs : Sound h s calls taken) {e e' : Event} (he : e ∈ h) (he' : e' ∈ h)
    (hk : e.isAnswer = true) (hk' : e'.isAnswer = true) (ht : e.job.ticket = e'.job.ticket) :
    e = e' := by
  have hn : (tickets Event.isAnswer h).Nodup :=
    hs.ticketed.nodup.sublist (tickets_sublist_claimed (fun _ hk => hk) _ _ _)
  exact List.inj_on_of_nodup_map hn (List.mem_filter.2 ⟨he, hk⟩) (List.mem_filter.2 ⟨he', hk'⟩) ht

theorem accepted_inj (hs : Sound h s calls taken) (hj : Event.accepted job slot ∈ h)
    (hj' : Event.accepted job' slot' ∈ h) (ht : job.ticket = job'.ticket) :
    job = job' ∧ slot = slot' := by
  simpa using hs.answer_inj hj hj' rfl rfl ht

/-- The jobs of a slot are accepted in the order in which their submissions have the lock. -/
theorem accepted_sublist_held (slot : Nat) (h : History) (submission : Option Submission) :
    (accepted slot h).Sublist (held h submission) := by
  have hsub : (h.filter fun e => e.isAcceptance && e.slot? = some slot).Sublist
      (h.filter Event.isAnswer) :=
    List.monotone_filter_right h fun e he => by
      have hk := (Bool.and_eq_true_iff.1 he).1
      cases e <;> simp_all
  exact (hsub.map _).trans (List.sublist_append_left _ _)

theorem nodup_held (hs : Sound h s calls taken) : (held h s.pool.submission).Nodup :=
  List.Nodup.of_map Job.ticket (hs.ticketed.nodup.sublist (List.sublist_append_left _ _))

theorem nodup_accepted (hs : Sound h s calls taken) (slot : Nat) : (accepted slot h).Nodup :=
  hs.nodup_held.sublist (accepted_sublist_held _ _ _)

/-- All events about an accepted job happen on its slot and are about the same input. -/
theorem eq_of_ticket (hs : Sound h s calls taken) (hacc : Event.accepted job slot ∈ h) {e : Event}
    (he : e ∈ h) (ht : e.job.ticket = job.ticket) : e.slot? = some slot ∧ e.job = job := by
  cases hi : e.slot? with
  | some i =>
      obtain ⟨hjob, rfl⟩ := hs.accepted_inj (hs.accepted_of_mem he hi) hacc ht
      exact ⟨rfl, hjob⟩
  | none =>
      -- a refusal would be a second answer to the same submission
      cases e with
      | refused job' => cases hs.answer_inj he hacc rfl rfl ht
      | _ => cases hi

theorem custody_of_accepted (hs : Sound h s calls taken) (hacc : Event.accepted job slot ∈ h) :
    ∃ lane, s.pool.lanes[slot]? = some lane ∧
      Custody slot h s.pool.closed lane (s.pool.closing.current slot) := by
  obtain ⟨lane, hl⟩ := exists_lane (hs.slots _ hacc slot rfl)
  exact ⟨lane, hl, hs.custody slot lane hl⟩

theorem pending_of_not_resolved (hs : Sound h s calls taken)
    (hacc : Event.accepted job slot ∈ h) (hr : job ∉ resolved slot h) :
    s.ledger.isPending job.ticket := by
  have hclaimed : job.ticket ∈ claimed h s.pool.submission calls :=
    (tickets_sublist_claimed (fun _ hk => hk) _ _ _).subset
      (mem_tickets.2 ⟨_, hacc, rfl, rfl⟩)
  refine hs.ticketed.pending _ hclaimed (fun hf => ?_) fun hx => hr ?_
  · obtain ⟨e, he, hk, ht⟩ := mem_tickets.1 hf
    obtain ⟨hi, -⟩ := hs.eq_of_ticket hacc he ht
    cases e with
    | refused => cases hi
    | _ => simp at hk
  · obtain ⟨e, he, hk, ht⟩ := mem_tickets.1 hx
    obtain ⟨hi, hj⟩ := hs.eq_of_ticket hacc he ht
    exact mem_jobsOf.2 ⟨e, he, hk, hi, hj⟩

/-- What can be seen of an accepted job at its completion. -/
theorem isResolved_iff (hs : Sound h s calls taken) (hacc : Event.accepted job slot ∈ h) :
    s.ledger.isResolved job.ticket = true ↔ job ∈ resolved slot h := by
  constructor
  · intro hres
    by_contra hr
    simp [Ledger.isResolved_eq_false (hs.pending_of_not_resolved hacc hr)] at hres
  · intro hr
    obtain ⟨outcome, hr⟩ := mem_resolved.1 hr
    exact (hs.ticketed.holds job slot outcome hr).isResolved

theorem mem_hand_of_resolved {closed : Bool} {lane lane' : Lane ρ} {d d' : Option Finish}
    {outcome : Outcome Bytes}
    (hl : LaneStep slot closed lane d (some (.resolved job slot outcome)) lane' d') :
    job ∈ lane.worker.hand ++ drainHand d := by
  cases hl with
  | still _ _ he => exact absurd rfl (he _ rfl)
  | finish _ _ f f' change hw hf =>
      cases hf
      simp [hw, Worker.hand, Finish.hand]
  | drainFinish f _ _ change hf =>
      cases hf
      simp [Finish.hand]

/-- What a step resolves is a pending completion. -/
theorem pending_of_resolved (hs : Sound h s calls taken)
    (ht : Scheduler.Transition exec s move e s') {outcome : Outcome Bytes}
    (he : e = some (.resolved job slot outcome)) : s.ledger.isPending job.ticket := by
  subst he
  have hlt : slot < s'.pool.size := size_of_transition ht ▸ hs.phased.slot_lt ht rfl rfl
  obtain ⟨lane', hl'⟩ := exists_lane hlt
  obtain ⟨lane, hl, hstep⟩ := Scheduler.laneStep_of_transition ht hs.phased hl'
  have hc := hs.custody slot lane hl
  have hhand := mem_hand_of_resolved hstep
  have hacc : job ∈ accepted slot h := by
    rw [hc.accepted_eq]
    simp only [List.mem_append] at hhand ⊢
    tauto
  refine hs.pending_of_not_resolved (Pool.mem_accepted.1 hacc) fun hr => ?_
  -- a job is not both settled and in hand
  have hn := hs.nodup_accepted slot
  rw [hc.accepted_eq, List.append_assoc (settled slot h)] at hn
  exact List.disjoint_of_nodup_append (hn.sublist (List.sublist_append_left _ _))
    (mem_settled.2 (Or.inl hr)) hhand

theorem fresh {slots : Nat} (hslots : 1 ≤ slots) (shared : S) :
    Sound [] ({ pool := fresh slots, ledger := .empty, shared } : Scheduler ρ S) [] [] where
  phased :=
    { cursor_lt := by
        rw [size, Pool.fresh, List.length_replicate]
        exact hslots
      notBegun_iff := by simp [Pool.fresh]
      entering := by simp [Pool.fresh]
      joined := by simp [Pool.fresh, Closing.hasJoined]
      drained := by simp [Pool.fresh, Closing.hasDrained]
      drain_lt := by simp [Pool.fresh] }
  slots := by simp
  custody i lane hl := by
    obtain ⟨-, rfl⟩ : i < slots ∧ Lane.idle = lane := by
      simpa [Pool.fresh, List.getElem?_replicate] using hl
    exact .idle
  ticketed := .empty

/-- **Every step of a pool keeps the invariant.** -/
theorem step (hs : Sound h s calls taken) (ht : Scheduler.Transition exec s move e s')
    (hready : IsReady calls move) :
    Sound (h ++ e.toList) s' (callsAfter calls move) taken where
  phased := hs.phased.step ht
  slots e' he' i hi := by
    rw [size_of_transition ht]
    rcases List.mem_append.1 he' with he' | he'
    · exact hs.slots e' he' i hi
    · exact hs.phased.slot_lt ht (Option.mem_toList.1 he') hi
  custody i lane' hl' := by
    obtain ⟨lane, hl, hstep⟩ := Scheduler.laneStep_of_transition ht hs.phased hl'
    have hc := (hs.custody i lane hl).step (hs.nodup_accepted i) hstep
    -- the step of the slot was taken with the old flag, and only closing changes it
    rcases closed_of_transition ht with heq | heq
    · rwa [heq]
    · rw [heq]
      exact hc.close
  ticketed := hs.ticketed.step ht hready fun _ _ _ he => hs.pending_of_resolved ht he

end Sound

/-! ### Runs -/

/-- A pool with what has happened so far. -/
structure Run (ρ S : Type) where
  scheduler : Scheduler ρ S
  history : History
  /-- The completions of the calls that wait for the lock. -/
  calls : List Ticket
  /-- The completions whose outcomes have been taken. -/
  taken : List Ticket
  /-- The jobs whose submissions have taken the lock, in this order. -/
  entered : List Job

/-- What can happen next. -/
inductive Turn (S : Type) where
  /-- A call to submit a job makes its completion. -/
  | call
  /-- The pool makes a step. -/
  | move (move : Move)
  /-- A caller looks at a completion. -/
  | look (ticket : Ticket) (waker : Waker)
  /-- A caller takes the outcome out of a resolved completion. -/
  | take (ticket : Ticket)
  /-- The state that all jobs share is changed from outside. -/
  | share (shared : S)

namespace Run

/-- The beginning. -/
def start (slots : Nat) (shared : S) : Run ρ S :=
  { scheduler := { pool := fresh slots, ledger := .empty, shared }
    history := [], calls := [], taken := [], entered := [] }

/-- The completions of a run. -/
def ledger (r : Run ρ S) : Ledger := r.scheduler.ledger

/-- The pool of a run. -/
def pool (r : Run ρ S) : Pool ρ := r.scheduler.pool

/-- A run after its callers have done something with their completions. -/
def withLedger (r : Run ρ S) (ledger : Ledger) : Run ρ S :=
  { r with scheduler := { r.scheduler with ledger } }

/-- A run after a step of its pool. -/
def after (r : Run ρ S) (move : Move) (s : Scheduler ρ S) (e : Option Event) : Run ρ S :=
  { r with
    scheduler := s
    history := r.history ++ e.toList
    calls := callsAfter r.calls move
    entered := r.entered ++ move.entry }

variable (exec : Executor ρ S)

/-- One turn, which is missing when it is not possible. -/
def turn (r : Run ρ S) : Turn S → Option (Run ρ S)
  | .call =>
      let (ticket, ledger) := r.ledger.issue
      some { r.withLedger ledger with calls := r.calls ++ [ticket] }
  | .move move =>
      if IsReady r.calls move then
        (r.scheduler.step exec move).map fun (s, e) => r.after move s e
      else none
  | .look ticket waker => some (r.withLedger (r.ledger.look ticket waker).2)
  | .take ticket =>
      if r.ledger.isResolved ticket then
        some { r.withLedger (r.ledger.take ticket).2 with taken := ticket :: r.taken }
      else none
  | .share shared => some { r with scheduler := { r.scheduler with shared } }

/-- Many turns. -/
def turns (ts : List (Turn S)) (r : Run ρ S) : Option (Run ρ S) := ts.foldlM (turn exec) r

variable {exec}

/-- What each turn comes to. -/
inductive Turned (exec : Executor ρ S) (r : Run ρ S) : Turn S → Run ρ S → Prop
  | call : Turned exec r .call
      { r.withLedger r.ledger.issue.2 with calls := r.calls ++ [r.ledger.issue.1] }
  | move (move : Move) (s : Scheduler ρ S) (e : Option Event) (hready : IsReady r.calls move)
      (h : Scheduler.Transition exec r.scheduler move e s) :
      Turned exec r (.move move) (r.after move s e)
  | look (ticket : Ticket) (waker : Waker) :
      Turned exec r (.look ticket waker) (r.withLedger (r.ledger.look ticket waker).2)
  | take (ticket : Ticket) (h : r.ledger.isResolved ticket = true) :
      Turned exec r (.take ticket)
        { r.withLedger (r.ledger.take ticket).2 with taken := ticket :: r.taken }
  | share (shared : S) :
      Turned exec r (.share shared) { r with scheduler := { r.scheduler with shared } }

/-- Every turn comes to one of these. -/
theorem turned_of_turn {r r' : Run ρ S} {t : Turn S} (ht : r.turn exec t = some r') :
    Turned exec r t r' := by
  cases t with
  | call =>
      cases ht
      exact .call
  | move move =>
      by_cases hready : IsReady r.calls move
      · rw [turn, if_pos hready] at ht
        obtain ⟨⟨s, e⟩, hs, rfl⟩ := Option.map_eq_some_iff.1 ht
        exact .move move s e hready (Scheduler.transition_of_step hs)
      · rw [turn, if_neg hready] at ht
        cases ht
  | look u w =>
      cases ht
      exact .look u w
  | take u =>
      by_cases hu : r.ledger.isResolved u = true
      · rw [turn, if_pos hu] at ht
        cases ht
        exact .take u hu
      · rw [turn, if_neg hu] at ht
        cases ht
  | share shared =>
      cases ht
      exact .share shared

/-- A turn is a step of the pool, or it leaves the pool alone and no completion unresolved that is
resolved. -/
theorem turn_cases {r r' : Run ρ S} {t : Turn S} (ht : r.turn exec t = some r') :
    (∃ move s e, t = .move move ∧ IsReady r.calls move ∧
        Scheduler.Transition exec r.scheduler move e s ∧ r' = r.after move s e) ∨
      (r'.pool = r.pool ∧ r'.history = r.history ∧ r'.entered = r.entered ∧
        ∀ u, r.ledger.isResolved u = true → r'.ledger.isResolved u = true) := by
  have holds {u : Ticket} (hu : r.ledger.isResolved u = true) :
      r.ledger.Holds [u] u (.error .closed) := Ledger.holds_of_isResolved hu
  cases turned_of_turn ht with
  | call => exact Or.inr ⟨rfl, rfl, rfl, fun u hu => (holds hu).issue.isResolved⟩
  | move move s e hready hs => exact Or.inl ⟨move, s, e, rfl, hready, hs, rfl⟩
  | look u w => exact Or.inr ⟨rfl, rfl, rfl, fun u hu => ((holds hu).look w).isResolved⟩
  | take u => exact Or.inr ⟨rfl, rfl, rfl, fun u hu => (holds hu).take.isResolved⟩
  | share => exact Or.inr ⟨rfl, rfl, rfl, fun u hu => hu⟩

/-- What holds of every run. -/
def IsSound (r : Run ρ S) : Prop := Sound r.history r.scheduler r.calls r.taken

/-- **Every turn keeps a run sound.** -/
theorem IsSound.turn {r r' : Run ρ S} {t : Turn S} (hs : r.IsSound)
    (ht : r.turn exec t = some r') : r'.IsSound := by
  cases turned_of_turn ht with
  | call => exact ⟨hs.phased, hs.slots, hs.custody, hs.ticketed.issue⟩
  | move move s e hready hstep => exact hs.step hstep hready
  | look u w => exact ⟨hs.phased, hs.slots, hs.custody, hs.ticketed.look u w⟩
  | take u => exact ⟨hs.phased, hs.slots, hs.custody, hs.ticketed.take u⟩
  | share => exact ⟨hs.phased, hs.slots, hs.custody, hs.ticketed⟩

theorem IsSound.turns {r r' : Run ρ S} {ts : List (Turn S)} (hs : r.IsSound)
    (hr : turns exec ts r = some r') : r'.IsSound :=
  foldlM_induction hr hs fun _ _ _ hs ht => hs.turn ht

/-- **Every run is sound.** -/
theorem sound {slots : Nat} {shared : S} {ts : List (Turn S)} {r : Run ρ S} (hslots : 1 ≤ slots)
    (hr : turns exec ts (start slots shared) = some r) : r.IsSound := by
  have hstart : (start slots shared : Run ρ S).IsSound := Sound.fresh hslots shared
  exact hstart.turns hr

theorem history_subset_turn {r r' : Run ρ S} {t : Turn S} (ht : r.turn exec t = some r') :
    r.history ⊆ r'.history := by
  rcases turn_cases ht with ⟨move, s, e, -, -, -, rfl⟩ | ⟨-, hh, -⟩
  · exact List.subset_append_left _ _
  · rw [hh]
    exact List.Subset.refl _

theorem history_subset {r r' : Run ρ S} {ts : List (Turn S)} (hr : turns exec ts r = some r') :
    r.history ⊆ r'.history :=
  foldlM_induction (motive := fun r' => r.history ⊆ r'.history) hr (List.Subset.refl _)
    fun _ _ _ hsub ht => List.Subset.trans hsub (history_subset_turn ht)

theorem closed_of_turn {r r' : Run ρ S} {t : Turn S} (hs : r.IsSound)
    (hclosed : r.pool.closed = true)
    (ht : r.turn exec t = some r') :
    r'.pool.closed = true ∧
      ∀ job slot, Event.accepted job slot ∈ r'.history → Event.accepted job slot ∈ r.history := by
  rcases turn_cases ht with ⟨move, s, e, -, -, hstep, rfl⟩ | ⟨hp, hh, -⟩
  · refine ⟨?_, fun job slot hacc => ?_⟩
    · rcases closed_of_transition hstep with heq | heq
      · exact heq.trans hclosed
      · exact heq
    · rcases List.mem_append.1 hacc with hacc | hacc
      · exact hacc
      · have hopen := (hs.phased.open_of_accepted hstep (Option.mem_toList.1 hacc)).1
        exact absurd hclosed (by simp [pool, hopen])
  · exact ⟨hp ▸ hclosed, fun job slot hacc => hh ▸ hacc⟩

/-- **A closed pool stays closed and accepts nothing.** -/
theorem closed_of_turns {r r' : Run ρ S} {ts : List (Turn S)} (hs : r.IsSound)
    (hclosed : r.pool.closed = true)
    (hr : turns exec ts r = some r') :
    r'.pool.closed = true ∧
      ∀ job slot, Event.accepted job slot ∈ r'.history → Event.accepted job slot ∈ r.history := by
  refine (foldlM_induction (motive := fun r' => r'.IsSound ∧ r'.pool.closed = true ∧ ∀ job slot,
    Event.accepted job slot ∈ r'.history → Event.accepted job slot ∈ r.history) hr
    ⟨hs, hclosed, fun _ _ hacc => hacc⟩ ?_).2
  rintro r₁ r₂ t ⟨hs₁, hclosed₁, hold⟩ ht
  obtain ⟨hclosed₂, hnew⟩ := closed_of_turn hs₁ hclosed₁ ht
  exact ⟨hs₁.turn ht, hclosed₂, fun job slot hacc => hold job slot (hnew job slot hacc)⟩

/-- Submissions take the lock in the order in which they give it back. -/
theorem entered_eq {slots : Nat} {shared : S} {ts : List (Turn S)} {r : Run ρ S}
    (hr : turns exec ts (start slots shared) = some r) :
    r.entered = held r.history r.pool.submission := by
  refine foldlM_induction (motive := fun r => r.entered = held r.history r.pool.submission) hr rfl ?_
  intro r₁ r₂ t heq ht
  rcases turn_cases ht with ⟨move, s, e, -, -, hstep, rfl⟩ | ⟨hp, hh, he, -⟩
  · exact (congrArg (· ++ move.entry) heq).trans (held_of_transition hstep).symm
  · rw [he, hp, hh, heq]

end Run

/-- An executor that hands every input back, and that dies of an input that is empty. -/
def echo : Executor Bytes Unit where
  begin _ input _ := (input, ())
  step _ input _ := if input = [] then .died () else .returned (.ok input) ()
  note _ _ _ := ()
  effort _ := 1

/-- One step of the pool several times. -/
def Turn.often {S : Type} (count : Nat) (move : Move) : List (Turn S) :=
  List.replicate count (.move move)

end Offload.Pool

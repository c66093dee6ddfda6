/-
**A burst is spread evenly over the slots.**

In a pool where every job has been resolved, a burst of submissions goes to the slots in turn.  As
long as no job of it has been counted as completed or failed, every one of them has a place in the
depth of its slot, so the depths of two slots differ by one at most.

Main results:

* `Pool.Sound.length_accepted` — the jobs of a slot are resolved, or have a place in its depth;
* `Pool.next_ne_resolve` — where every tally is of a resolved job, nobody is about to resolve one;
* `Pool.Run.burst_routed` — **where the jobs of a burst go, and how deep the queues get**.
-/

import Offload.Proofs.Pool.Burst
import Offload.Proofs.Pool.Tally

set_option autoImplicit false
set_option relaxedAutoImplicit false

namespace Offload.Pool

variable {ρ S : Type}

/-! ### Jobs and places -/

/-- A job that has left its slot for good was resolved, or has taken the worker with it. -/
theorem length_settled (slot : Nat) (h : History) :
    (settled slot h).length = (resolved slot h).length + (died slot h).length := by
  induction h using List.reverseRecOn with
  | nil => rfl
  | append_singleton h e ih =>
      rw [length_jobsOf_concat, length_jobsOf_concat, length_jobsOf_concat, ih]
      cases e with
      | resolved job place outcome =>
          -- counted on both sides, and no death
          simp only [Event.isSettlement, Event.isResolution, Event.isDeath, Bool.false_eq_true,
            false_and, if_false, Nat.add_zero]
          exact Nat.add_right_comm _ _ _
      | died job place =>
          simp only [Event.isSettlement, Event.isResolution, Event.isDeath, Bool.false_eq_true,
            false_and, if_false, Nat.add_zero]
          exact Nat.add_assoc _ _ _
      | accepted | refused | begun | returned => simp

/-- A job in hand has a place in the depth of its slot until it is about to be resolved. -/
theorem Finish.length_hand {f : Finish} (hnext : f.next ≠ .resolve) :
    f.hand.length = f.inDepth.length := by
  obtain ⟨job, outcome, next⟩ := f
  cases next with
  | resolve => exact absurd rfl hnext
  | count | leave | wake => rfl

theorem draining_of_current {closing : Closing} {slot : Nat} {f : Finish}
    (h : closing.current slot = some f) : closing = .draining slot (some f) := by
  cases closing with
  | draining place f' =>
      rw [Closing.current] at h
      split at h
      case isTrue hp => rw [hp, h]
      case isFalse => cases h
  | _ => cases h

section

variable {s : Scheduler ρ S} {h : History} {calls taken : List Ticket} {T : List Tally} {i : Nat}
  {lane : Lane ρ}

/-- **The jobs of a slot are resolved, or have a place in its depth**, unless one is about to be
resolved. -/
theorem Sound.length_accepted (hs : Sound h s calls taken) (hb : Balanced T h s.pool)
    (hl : s.pool.lanes[i]? = some lane) (hmid : ∀ f, IsFinishing s.pool i f → f.next ≠ .resolve) :
    (accepted i h).length + (s.pool.entrant i).length = (resolved i h).length + lane.depth := by
  have hworker : lane.worker.inDepth.length = lane.worker.lost.length + lane.worker.hand.length := by
    cases hw : lane.worker with
    | finishing f =>
        have hf := Finish.length_hand (hmid f (.worker lane hl hw))
        simp [Worker.inDepth, Worker.lost, Worker.hand, hf]
    | _ => rfl
  have hdrain : (drainDepth (s.pool.closing.current i)).length =
      (drainHand (s.pool.closing.current i)).length := by
    cases hc : s.pool.closing.current i with
    | none => rfl
    | some f =>
        exact (Finish.length_hand (hmid f (.closing (draining_of_current hc)))).symm
  have hacc := congrArg List.length (hs.custody i lane hl).accepted_eq
  rw [hb.depth i lane hl, length_inDepth, hworker, hdrain, hacc]
  simp only [List.length_append, length_settled, hb.lost i lane hl]
  omega

/-- In an open pool that nobody submits to, every job of a free slot is resolved. -/
theorem Sound.accepted_eq_resolved (hs : Sound h s calls taken) (hp : Tailed h s.pool)
    (hopen : s.pool.closed = false) (hlock : s.pool.submission = none)
    (hl : s.pool.lanes[i]? = some lane) (hfree : s.isFree i = true) :
    accepted i h = resolved i h := by
  have hc : Custody i h false lane (s.pool.closing.current i) := hopen ▸ hs.custody i lane hl
  have hall := (hs.isFree_iff hp hopen hl).1 hfree
  rw [routed, enlisted_of_none hlock, List.append_nil] at hall
  cases hlast : (accepted i h).getLast? with
  | none =>
      have hnil : accepted i h = [] := List.getLast?_eq_none_iff.1 hlast
      refine hnil.trans (List.eq_nil_iff_forall_not_mem.2 fun job hr => ?_).symm
      obtain ⟨outcome, hr⟩ := mem_resolved.1 hr
      have hmem := hs.mem_accepted hr rfl
      simp [hnil] at hmem
  | some job =>
      have hmem : job ∈ accepted i h := List.mem_of_getLast? hlast
      exact hc.all_resolved (hs.nodup_accepted i) hlast
        ((hs.isResolved_iff (Pool.mem_accepted.1 hmem)).1 (hall job hmem))

theorem Sound.hand_eq_nil (hs : Sound h s calls taken) (hl : s.pool.lanes[i]? = some lane)
    (hall : accepted i h = resolved i h) : lane.worker.hand = [] := by
  have hacc := congrArg List.length (hs.custody i lane hl).accepted_eq
  simp only [hall, List.length_append, length_settled] at hacc
  exact List.length_eq_zero_iff.1 (by omega)

/-- Whoever has counted a job that is not resolved yet. -/
def unresolvedTallies (p : Pool ρ) : Nat :=
  p.total (fun lane => lane.worker.counted.length) + p.closing.counted.length

/-- What the counters say is what has been resolved and what is about to be. -/
theorem Balanced.counters_eq (hb : Balanced T h s.pool) :
    s.pool.completed + s.pool.failed =
      (h.flatMap Event.resolution).length + s.pool.unresolvedTallies := by
  have htallied := hb.tallied fun _ => true
  have hsum : T.countP Tally.isOk + T.countP (fun x => !x.isOk) = T.length := by
    simpa using (List.length_eq_countP_add_countP Tally.isOk (l := T)).symm
  simp only [List.countP_true] at htallied
  rw [hb.completed, hb.failed, hsum, htallied, unresolvedTallies, Nat.add_assoc]

theorem Sound.unresolvedTallies_eq_zero (hs : Sound h s calls taken)
    (hopen : s.pool.closed = false) (hall : ∀ i < s.pool.size, accepted i h = resolved i h) :
    s.pool.unresolvedTallies = 0 := by
  have hclosing : s.pool.closing = .notBegun := hs.phased.notBegun_iff.2 hopen
  have htotal : s.pool.total (fun lane => lane.worker.counted.length) = 0 := by
    refine total_eq_zero fun slot lane hl => List.length_eq_zero_iff.2 ?_
    refine List.eq_nil_iff_forall_not_mem.2 fun x hx => ?_
    have hhand := Worker.mem_hand_of_mem_counted hx
    simp [hs.hand_eq_nil hl (hall slot (lt_size_of_lane hl))] at hhand
  rw [unresolvedTallies, htotal, hclosing]
  rfl

/-- Whoever is about to resolve a job has counted it. -/
theorem next_ne_resolve (hzero : s.pool.unresolvedTallies = 0) {f : Finish}
    (hf : IsFinishing s.pool i f) : f.next ≠ .resolve := by
  intro hnext
  obtain ⟨hworkers, hclosing⟩ := Nat.add_eq_zero_iff.1 hzero
  have hcounted : f.counted.length = 1 := by simp [Finish.counted, hnext]
  cases hf with
  | worker lane hl hw =>
      have hmem : lane.worker.counted.length ∈
          s.pool.lanes.map fun lane => lane.worker.counted.length :=
        List.mem_map_of_mem (List.mem_of_getElem? hl)
      have hnone := List.sum_eq_zero_iff_forall_eq_nat.1 hworkers _ hmem
      rw [hw, Worker.counted, hcounted] at hnone
      cases hnone
  | closing hc =>
      rw [hc, Closing.counted, hcounted] at hclosing
      cases hclosing

/-! ### The slots of a burst -/

/-- The slot of the submission that has raised a depth and still holds the lock. -/
def placedSlot (p : Pool ρ) : List Nat :=
  (p.submission.toList.flatMap Submission.inDepth).map fun _ => p.cursor

theorem length_entrant (p : Pool ρ) (slot : Nat) :
    (p.entrant slot).length = p.placedSlot.count slot := by
  rw [entrant, placedSlot]
  by_cases hslot : p.cursor = slot
  · simp [hslot, List.count, List.countP_eq_length.2]
  · rw [if_neg hslot, List.length_nil, List.count_eq_zero.2]
    simp only [List.mem_map, not_exists, not_and]
    exact fun _ _ => hslot

theorem isPrefix_placedSlot (p : Pool ρ) : p.placedSlot <+: enlistedSlot p := by
  rw [placedSlot, enlistedSlot]
  cases hsub : p.submission with
  | none => exact List.nil_prefix
  | some submission =>
      obtain ⟨job, next⟩ := submission
      cases next <;> simp [Submission.inDepth, SubmissionStep.isEnlisted]

theorem length_accepted_new (slot : Nat) (new : History) :
    (accepted slot new).length = (destinations new).count slot := by
  induction new with
  | nil => rfl
  | cons e new ih =>
      simp only [accepted, jobsOf, List.length_map, destinations, List.filter_cons,
        List.filterMap_cons] at ih ⊢
      cases e with
      | accepted job place =>
          by_cases hp : place = slot <;>
            simp_all [Event.destination?, Event.slot?]
      | _ => simpa [Event.destination?] using ih

theorem resolution_eq_nil {new : History} (hres : ∀ e ∈ new, e.isResolution = false) :
    new.flatMap Event.resolution = [] :=
  List.flatMap_eq_nil_iff.2 fun e he => by
    have := hres e he
    cases e <;> simp_all [Event.resolution]

theorem resolved_eq_nil {new : History} (hres : ∀ e ∈ new, e.isResolution = false) (slot : Nat) :
    resolved slot new = [] :=
  List.eq_nil_iff_forall_not_mem.2 fun job hr => by
    obtain ⟨e, he, hk, -⟩ := mem_jobsOf.1 hr
    rw [hres e he] at hk
    cases hk

end

namespace Run

variable {exec : Executor ρ S} {r₀ r : Run ρ S} {ts₀ ts : List (Turn S)} {slots : Nat} {shared : S}
  {new : History} {sent : List Nat}

/-- The slots of a burst in a pool where every slot was free follow each other in turn. -/
theorem Course.turnsFrom_of_prefix (h : Course r₀ r new sent)
    (hfree : ∀ i < r₀.pool.size, r₀.scheduler.isFree i = true) {slots : List Nat}
    (hslots : slots <+: sent) : slots = turnsFrom r₀.pool.size r₀.pool.cursor slots.length := by
  rw [← route_of_all_free hfree, ← take_route hslots.length_le, ← h.sent_eq]
  exact List.prefix_iff_eq_take.1 hslots

/-- **The depth of a slot is the number of jobs that the burst has sent there.** -/
theorem Course.depth_eq (h : Course r₀ r new sent) (hs₀ : r₀.IsSound)
    (hp₀ : Tailed r₀.history r₀.pool) {T₀ T : List Tally}
    (hb₀ : Balanced T₀ r₀.history r₀.pool) (hs : r.IsSound) (hb : Balanced T r.history r.pool)
    (hopen : r₀.pool.closed = false) (hlock : r₀.pool.submission = none)
    (hfree : ∀ i < r₀.pool.size, r₀.scheduler.isFree i = true)
    (hnew : r.history = r₀.history ++ new) (hres : ∀ e ∈ new, e.isResolution = false)
    (hcount : r.pool.completed + r.pool.failed = r₀.pool.completed + r₀.pool.failed)
    {i : Nat} {lane : Lane ρ} (hl : r.pool.lanes[i]? = some lane) :
    lane.depth = (destinations new ++ r.pool.placedSlot).count i := by
  have hall : ∀ i < r₀.pool.size, accepted i r₀.history = resolved i r₀.history := fun i hi => by
    obtain ⟨lane₀, hl₀⟩ := exists_lane hi
    exact Sound.accepted_eq_resolved hs₀ hp₀ hopen hlock hl₀ (hfree i hi)
  -- the counters stand still, so nobody has counted a job of the burst
  have hzero : r.pool.unresolvedTallies = 0 := by
    have hcounters₀ := Balanced.counters_eq (s := r₀.scheduler) hb₀
    have hcounters := Balanced.counters_eq (s := r.scheduler) hb
    have hzero₀ := Sound.unresolvedTallies_eq_zero hs₀ hopen hall
    rw [hnew, List.flatMap_append, resolution_eq_nil hres, List.append_nil] at hcounters
    simp only [pool] at hcount hzero₀ ⊢
    omega
  have hi : i < r₀.pool.size := h.size ▸ lt_size_of_lane hl
  have haccepted' : accepted i r.history = resolved i r₀.history ++ accepted i new := by
    rw [hnew, ← hall i hi]
    exact jobsOf_append
  have hresolved' : resolved i r.history = resolved i r₀.history := by
    rw [← List.append_nil (resolved i r₀.history), ← resolved_eq_nil hres i, hnew]
    exact jobsOf_append
  have hlen := Sound.length_accepted hs hb hl fun f hf => next_ne_resolve hzero hf
  rw [haccepted', hresolved', List.length_append, length_accepted_new, length_entrant] at hlen
  rw [List.count_append]
  exact (Nat.add_left_cancel ((Nat.add_assoc _ _ _).symm.trans hlen)).symm

/-- **Where the jobs of a burst go, and how deep the queues get.**

Let `r₀` be any state of a pool whose lock is free and whose calls wait with completions that are not
resolved, and let anything happen after it except that a job is resolved.  The jobs that are accepted
meanwhile go first to the free slots, to each once and in the cyclic order that begins after the
cursor; every later one goes to the slot after that of the one before.  If all slots were free, they
are chosen in turn.  If moreover the pool is open and as many jobs have been counted as completed or
failed as in `r₀`, the depths of two slots differ by at most one. -/
theorem burst_routed (hlock : r₀.pool.submission = none)
    (hcalls : ∀ u ∈ r₀.calls, r₀.ledger.isResolved u = false) (hr : turns exec ts r₀ = some r)
    (hnew : r.history = r₀.history ++ new) (hres : ∀ e ∈ new, e.isResolution = false) :
    (freeRing r₀.pool.size r₀.scheduler.isFree r₀.pool.cursor).Nodup ∧
    (∀ i, i ∈ freeRing r₀.pool.size r₀.scheduler.isFree r₀.pool.cursor ↔
      i < r₀.pool.size ∧ r₀.scheduler.isFree i = true) ∧
    (destinations new).take (freeRing r₀.pool.size r₀.scheduler.isFree r₀.pool.cursor).length =
      (freeRing r₀.pool.size r₀.scheduler.isFree r₀.pool.cursor).take (destinations new).length ∧
    (∀ i slot, (freeRing r₀.pool.size r₀.scheduler.isFree r₀.pool.cursor).length ≤ i →
      (destinations new)[i]? = some slot →
      slot = (cursorAfter r₀.pool.cursor ((destinations new).take i) + 1) % r₀.pool.size) ∧
    ((∀ i < r₀.pool.size, r₀.scheduler.isFree i = true) →
      (∀ i slot, (destinations new)[i]? = some slot →
        slot = (r₀.pool.cursor + 1 + i) % r₀.pool.size) ∧
      ∀ ts₀ slots shared, 1 ≤ slots → turns exec ts₀ (start slots shared) = some r₀ →
        r₀.pool.closed = false →
        r.pool.completed + r.pool.failed = r₀.pool.completed + r₀.pool.failed →
        ∀ (i j : Nat) (lane lane' : Lane ρ), r.pool.lanes[i]? = some lane →
          r.pool.lanes[j]? = some lane' →
          lane.depth ≤ lane'.depth + 1) := by
  obtain ⟨sent, hcourse⟩ := course hlock hcalls hr hnew hres
  have hprefix : destinations new <+: sent := hcourse.destinations_eq ▸ List.prefix_append _ _
  have hroute : destinations new = route r₀.pool.size r₀.scheduler.isFree r₀.pool.cursor
      (destinations new).length := by
    rw [← take_route hprefix.length_le, ← hcourse.sent_eq]
    exact List.prefix_iff_eq_take.1 hprefix
  refine ⟨nodup_freeRing, fun i => mem_freeRing, ?_, ?_, fun hfree => ⟨?_, ?_⟩⟩
  · rw [hroute, take_route_free, length_route]
  · intro i slot hi hslot
    have hlt : i < (destinations new).length := (List.getElem?_eq_some_iff.1 hslot).1
    rw [hroute, getElem?_route_of_le hlt hi, ← hroute] at hslot
    exact (Option.some_inj.1 hslot).symm
  · intro i slot hslot
    rw [hcourse.turnsFrom_of_prefix hfree hprefix] at hslot
    obtain ⟨hlt, rfl⟩ := List.getElem?_eq_some_iff.1 hslot
    simp [turnsFrom]
  · intro ts₀ slots shared hslots hr₀ hopen hcount i j lane lane' hl hl'
    have hs₀ : r₀.IsSound := sound hslots hr₀
    have hstart : turns exec (ts₀ ++ ts) (start slots shared) = some r :=
      foldlM_append_eq_some.2 ⟨r₀, hr₀, hr⟩
    have hdepth {i : Nat} {lane : Lane ρ} (hl : r.pool.lanes[i]? = some lane) :=
      hcourse.depth_eq hs₀ (tailed hr₀) (balanced hslots hr₀) (sound hslots hstart)
        (balanced hslots hstart) hopen hlock hfree hnew hres hcount hl
    have hplaced : destinations new ++ r.pool.placedSlot <+: sent := by
      rw [← hcourse.destinations_eq]
      exact (List.prefix_append_right_inj _).2 (isPrefix_placedSlot _)
    have hturns := hcourse.turnsFrom_of_prefix hfree hplaced
    have hlt : i < r₀.pool.size := hcourse.size ▸ lt_size_of_lane hl
    have hlt' : j < r₀.pool.size := hcourse.size ▸ lt_size_of_lane hl'
    rw [hdepth hl, hdepth hl', hturns]
    obtain ⟨-, hle⟩ := count_turnsFrom (c := r₀.pool.cursor)
      (k := (destinations new ++ r.pool.placedSlot).length) hlt
    obtain ⟨hge, -⟩ := count_turnsFrom (c := r₀.pool.cursor)
      (k := (destinations new ++ r.pool.placedSlot).length) hlt'
    omega

/-- Five calls to submit jobs to three slots, the first of which has put its job into a queue. -/
private def oneBusy : List (Turn Unit) :=
  List.replicate 5 .call ++ .move (.submit ⟨0, [1]⟩) :: Turn.often 6 .proceed

/-- The other four submit theirs, while the worker of the first job gets hold of it. -/
private def fourMore : List (Turn Unit) :=
  .move (.submit ⟨1, [2]⟩) :: Turn.often 6 .proceed ++ Turn.often 2 (.work 1) ++
    .move (.submit ⟨2, [3]⟩) :: Turn.often 6 .proceed ++
    .move (.submit ⟨3, [4]⟩) :: Turn.often 10 .proceed ++ Turn.often 1 (.work 1) ++
    .move (.submit ⟨4, [5]⟩) :: Turn.often 10 .proceed

private theorem history_oneBusy :
    (turns echo oneBusy (start 3 ())).map (fun r =>
      (r.history, r.pool.submission, r.calls.all fun u => !r.ledger.isResolved u)) =
      some ([.accepted ⟨0, [1]⟩ 1], none, true) := by
  decide +kernel

private theorem freeRing_oneBusy :
    (turns echo oneBusy (start 3 ())).map (fun r =>
      (r.pool.size, r.pool.cursor, freeRing r.pool.size r.scheduler.isFree r.pool.cursor)) =
      some (3, 1, [2, 0]) := by
  decide +kernel

private theorem history_fourMore :
    (turns echo (oneBusy ++ fourMore) (start 3 ())).map (·.history) =
      some [.accepted ⟨0, [1]⟩ 1, .accepted ⟨1, [2]⟩ 2, .accepted ⟨2, [3]⟩ 0,
        .accepted ⟨3, [4]⟩ 1, .begun ⟨0, [1]⟩ 1, .accepted ⟨4, [5]⟩ 2] := by
  decide +kernel

/-- Two slots are free: they come first, and then it goes on from slot to slot. -/
theorem burst_routed_oneBusy :
    ∃ r₀ r new, turns echo oneBusy (start 3 ()) = some r₀ ∧ turns echo fourMore r₀ = some r ∧
      r.history = r₀.history ++ new ∧ (destinations new).take 2 = [2, 0] ∧
      ∀ i slot, 2 ≤ i → (destinations new)[i]? = some slot →
        slot = (cursorAfter 1 ((destinations new).take i) + 1) % 3 := by
  obtain ⟨r, hr, hhistory⟩ := Option.map_eq_some_iff.1 history_fourMore
  obtain ⟨r₀, hr₀, hr⟩ := foldlM_append_eq_some.1 hr
  have heq := history_oneBusy
  have hring := freeRing_oneBusy
  rw [turns, hr₀, Option.map_some, Option.some.injEq, Prod.mk.injEq, Prod.mk.injEq] at heq hring
  obtain ⟨hhistory₀, hlock, hcalls⟩ := heq
  obtain ⟨hsize, hcursor, hring⟩ := hring
  have hnew : r.history = r₀.history ++ [.accepted ⟨1, [2]⟩ 2, .accepted ⟨2, [3]⟩ 0,
      .accepted ⟨3, [4]⟩ 1, .begun ⟨0, [1]⟩ 1, .accepted ⟨4, [5]⟩ 2] := by
    rw [hhistory, hhistory₀]
    rfl
  refine ⟨r₀, r, _, hr₀, hr, hnew, ?_⟩
  obtain ⟨-, -, hfirst, hlater, -⟩ := burst_routed hlock (by simpa using hcalls) hr hnew (by decide)
  rw [hring] at hfirst hlater
  rw [hsize, hcursor] at hlater
  exact ⟨hfirst, hlater⟩

end Run

end Offload.Pool

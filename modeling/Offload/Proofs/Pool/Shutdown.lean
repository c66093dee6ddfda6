/-
**No job is lost across the closing of a pool.**

A job that was accepted is run at most once, on the slot that its handle reports, and is resolved at
most once: with what its run returned if it was run, and otherwise with the error of a closed pool.
Once the closing call has returned, every accepted job has been resolved, unless it took the worker
of its slot with it; then it never is.  Nobody gets a job into a pool that is closed.

Main results:

* `Pool.Sound.times_le_one` — what can happen to an accepted job happens once;
* `Pool.Sound.settled_of_finished` — when the closing call returns, every job has left its slot;
* `Pool.Run.turn_of_closed` — a closed pool refuses every job;
* `Pool.Run.accounted` — **every job is accounted for in every run**.
-/

import Offload.Proofs.Pool.Run

set_option autoImplicit false
set_option relaxedAutoImplicit false

namespace Offload.Pool

variable {ρ S : Type}

namespace Sound

variable {h : History} {s : Scheduler ρ S} {calls taken : List Ticket} {job job' : Job}
  {slot slot' : Nat} {kind : Event → Bool}

/-! ### Once only -/

/-- What happens to no job of a slot twice happens to no completion twice. -/
theorem times_le_one (hs : Sound h s calls taken) (hacc : Event.accepted job slot ∈ h)
    (hn : (jobsOf kind slot h).Nodup) : times kind job.ticket h ≤ 1 :=
  Pool.times_le_one hn fun _ he _ ht => hs.eq_of_ticket hacc he ht

theorem nodup_settled (hs : Sound h s calls taken) (hacc : Event.accepted job slot ∈ h) :
    (settled slot h).Nodup := by
  obtain ⟨lane, -, hc⟩ := hs.custody_of_accepted hacc
  have hn := hs.nodup_accepted slot
  rw [hc.accepted_eq, List.append_assoc, List.append_assoc] at hn
  exact hn.sublist (List.sublist_append_left _ _)

theorem nodup_resolved (hs : Sound h s calls taken) (hacc : Event.accepted job slot ∈ h) :
    (resolved slot h).Nodup :=
  (hs.nodup_settled hacc).sublist (jobsOf_sublist fun e he => by cases e <;> simp_all)

theorem nodup_begun (hs : Sound h s calls taken) (hacc : Event.accepted job slot ∈ h) :
    (begun slot h).Nodup := by
  obtain ⟨lane, -, hc⟩ := hs.custody_of_accepted hacc
  exact (hs.nodup_accepted slot).sublist hc.begun_prefix_accepted.sublist

theorem nodup_ended (hs : Sound h s calls taken) (hacc : Event.accepted job slot ∈ h) :
    (ended slot h).Nodup := by
  obtain ⟨lane, -, hc⟩ := hs.custody_of_accepted hacc
  have hn := hs.nodup_begun hacc
  rw [hc.begun_eq] at hn
  exact hn.sublist (List.sublist_append_left _ _)

/-! ### Jobs that take their worker with them -/

/-- A job that has taken its worker with it has not been resolved. -/
theorem not_resolved_of_died (hs : Sound h s calls taken) (hd : Event.died job slot ∈ h) :
    job ∉ resolved slot h := by
  intro hr
  obtain ⟨outcome, hr⟩ := mem_resolved.1 hr
  have hacc : Event.accepted job slot ∈ h := hs.accepted_of_mem hd rfl
  -- both events would take the job out of its slot, and it leaves only once
  have heq := List.inj_on_of_nodup_map (hs.nodup_settled hacc)
    (List.mem_filter.2 ⟨hd, by simp [Event.slot?]⟩)
    (List.mem_filter.2 ⟨hr, by simp [Event.slot?]⟩) rfl
  cases heq

/-! ### The return of the closing call -/

/-- When the closing call has returned, every job has left its slot. -/
theorem settled_of_finished (hs : Sound h s calls taken) (hdone : s.pool.closing = .finished)
    (hacc : Event.accepted job slot ∈ h) : job ∈ settled slot h := by
  obtain ⟨lane, hl, hc⟩ := hs.custody_of_accepted hacc
  have hq := hs.phased.drained slot lane hl (by simp [hdone, Closing.hasDrained])
  have hw := hs.phased.joined slot lane hl (by simp [hdone, Closing.hasJoined])
  have hmem := Pool.mem_accepted.2 hacc
  rw [hc.accepted_eq, (Worker.hand_of_hasEnded hw).1, hdone, hq] at hmem
  simpa [Closing.current] using hmem

end Sound

/-! ### Closed pools -/

/-- A submission that has the lock of a closed pool ends without its job. -/
theorem Scheduler.proceed_of_closed {exec : Executor ρ S} {s : Scheduler ρ S} {job : Job}
    (hsub : s.pool.submission = some ⟨job, .entering⟩) (hclosed : s.pool.closed = true) :
    s.step exec .proceed =
      some ({ s with pool := { s.pool with submission := none } }, some (.refused job)) := by
  simp [Scheduler.step, hsub, Scheduler.proceed, hclosed]

namespace Run

variable {exec : Executor ρ S} {r : Run ρ S} {ts : List (Turn S)}

/-- A submission that has the lock of a closed pool ends without its job, and changes nothing. -/
theorem turn_of_closed (hs : r.IsSound) (hclosed : r.pool.closed = true)
    {submission : Submission} (hsub : r.pool.submission = some submission) :
    r.turn exec (.move .proceed) = some
      { r with
        scheduler := { r.scheduler with pool := { r.pool with submission := none } }
        history := r.history ++ [.refused submission.job] } := by
  obtain ⟨job, next⟩ := submission
  obtain rfl : next = .entering := hs.phased.entering hclosed _ hsub
  have hclosed' : r.scheduler.pool.closed = true := hclosed
  have hsub' : r.scheduler.pool.submission = some ⟨job, .entering⟩ := hsub
  simp [Run.turn, IsReady, Scheduler.step, hsub', Scheduler.proceed, hclosed', after, callsAfter,
    Move.entry, pool]

/-! ### Every job is accounted for -/

/-- **Every job is accounted for in every run**: when the closing call has returned, every accepted
job has been resolved once, unless it took its worker with it and is never resolved; at any time a
job has been run at most once, on its slot and with its input, and a resolved job has the outcome of
its run, or the error of a closed pool if it was not run; and a closed pool refuses every job. -/
theorem accounted {slots : Nat} {shared : S} (hslots : 1 ≤ slots)
    (hr : turns exec ts (start slots shared) = some r) :
    (r.pool.closing = .finished → ∀ job slot, Event.accepted job slot ∈ r.history →
      Event.died job slot ∉ r.history →
      times Event.isResolution job.ticket r.history = 1 ∧
        r.ledger.isResolved job.ticket = true) ∧
    (∀ job slot, Event.died job slot ∈ r.history →
      times Event.isResolution job.ticket r.history = 0 ∧ r.ledger.isPending job.ticket) ∧
    (∀ job slot, Event.accepted job slot ∈ r.history →
      times Event.isStart job.ticket r.history ≤ 1 ∧
      times Event.isEnd job.ticket r.history ≤ 1 ∧
      times Event.isResolution job.ticket r.history ≤ 1 ∧
      ∀ e ∈ r.history, e.job.ticket = job.ticket → e.slot? = some slot ∧ e.job = job) ∧
    (∀ e ∈ r.history, ∀ slot, e.slot? = some slot → Event.accepted e.job slot ∈ r.history) ∧
    (∀ job slot outcome, Event.resolved job slot outcome ∈ r.history →
      r.ledger.Holds r.taken job.ticket outcome ∧
      (Event.begun job slot ∈ r.history → Event.returned job slot outcome ∈ r.history) ∧
      (Event.begun job slot ∉ r.history → outcome = .error .closed)) ∧
    (r.pool.closed = true →
      (∀ submission, r.pool.submission = some submission →
        r.turn exec (.move .proceed) = some
          { r with
            scheduler := { r.scheduler with pool := { r.pool with submission := none } }
            history := r.history ++ [.refused submission.job] }) ∧
      ∀ ts' r', turns exec ts' r = some r' → r'.pool.closed = true ∧
        ∀ job slot, Event.accepted job slot ∈ r'.history →
          Event.accepted job slot ∈ r.history) := by
  have hs : r.IsSound := sound hslots hr
  refine ⟨?_, ?_, ?_, ?_, ?_, ?_⟩
  · intro hdone job slot hacc hlive
    have hset := hs.settled_of_finished hdone hacc
    have hres : job ∈ resolved slot r.history :=
      (mem_settled.1 hset).resolve_right fun hd => hlive (mem_died.1 hd)
    refine ⟨times_eq_one (hs.nodup_resolved hacc) hres ?_, (hs.isResolved_iff hacc).2 hres⟩
    intro e he _ ht
    exact hs.eq_of_ticket hacc he ht
  · intro job slot hd
    have hacc : Event.accepted job slot ∈ r.history := hs.accepted_of_mem hd rfl
    have hnot := hs.not_resolved_of_died hd
    refine ⟨?_, hs.pending_of_not_resolved hacc hnot⟩
    rw [times_eq_count fun _ he _ ht => hs.eq_of_ticket hacc he ht]
    exact List.count_eq_zero_of_not_mem hnot
  · intro job slot hacc
    refine ⟨?_, ?_, ?_, ?_⟩
    · exact hs.times_le_one hacc (hs.nodup_begun hacc)
    · exact hs.times_le_one hacc (hs.nodup_ended hacc)
    · exact hs.times_le_one hacc (hs.nodup_resolved hacc)
    · intro e he ht
      exact hs.eq_of_ticket hacc he ht
  · intro e he slot hslot
    exact hs.accepted_of_mem he hslot
  · intro job slot outcome hres
    refine ⟨hs.ticketed.holds job slot outcome hres, ?_⟩
    have hacc : Event.accepted job slot ∈ r.history := hs.accepted_of_mem hres rfl
    obtain ⟨lane, -, hc⟩ := hs.custody_of_accepted hacc
    rcases hc.resolved_due job outcome hres with hret | ⟨rfl, hnot, -⟩
    · exact ⟨fun _ => hret, fun hnot => absurd (hc.begun_of_returned hret) hnot⟩
    · exact ⟨fun hb => absurd (mem_begun.2 hb) hnot, fun _ => rfl⟩
  · intro hclosed
    constructor
    · intro submission hsub
      exact turn_of_closed hs hclosed hsub
    · intro ts' r' hr'
      exact closed_of_turns hs hclosed hr'

/-- Two jobs on one slot, where the pool is closed while the first one is running. -/
def closedBetween : List (Turn Unit) :=
  [.call, .call] ++
    .move (.submit ⟨0, [7]⟩) :: Turn.often 6 .proceed ++
    .move (.submit ⟨1, [8]⟩) :: Turn.often 8 .proceed ++
    Turn.often 3 (.work 0) ++ [.move .close] ++ Turn.often 14 (.work 0) ++ Turn.often 4 .wind

theorem history_closedBetween :
    (turns echo closedBetween (start 1 ())).map (fun r => (r.history, r.pool.closing)) = some
      ([.accepted ⟨0, [7]⟩ 0, .accepted ⟨1, [8]⟩ 0, .begun ⟨0, [7]⟩ 0,
        .returned ⟨0, [7]⟩ 0 (.ok [7]), .resolved ⟨0, [7]⟩ 0 (.ok [7]),
        .resolved ⟨1, [8]⟩ 0 (.error .closed)], .finished) := by
  decide +kernel

/-- The first job has the outcome of its run, the second one the error of a closed pool. -/
theorem accounted_closedBetween :
    ∃ r, turns echo closedBetween (start 1 ()) = some r ∧ r.pool.closing = .finished ∧
      times Event.isResolution 0 r.history = 1 ∧ times Event.isResolution 1 r.history = 1 ∧
      r.ledger.Holds r.taken 0 (.ok [7]) ∧ r.ledger.Holds r.taken 1 (.error .closed) := by
  obtain ⟨r, hr, heq⟩ := Option.map_eq_some_iff.1 history_closedBetween
  obtain ⟨hh, hdone⟩ := Prod.mk.inj heq
  obtain ⟨hall, -, -, -, hres, -⟩ := accounted (by decide : 1 ≤ 1) hr
  refine ⟨r, hr, hdone, ?_, ?_, ?_, ?_⟩
  · exact (hall hdone ⟨0, [7]⟩ 0 (by simp [hh]) (by simp [hh])).1
  · exact (hall hdone ⟨1, [8]⟩ 0 (by simp [hh]) (by simp [hh])).1
  · exact (hres ⟨0, [7]⟩ 0 (.ok [7]) (by simp [hh])).1
  · exact (hres ⟨1, [8]⟩ 0 (.error .closed) (by simp [hh])).1

end Run

end Offload.Pool

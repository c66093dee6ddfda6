/-
**The counters of a pool at every instant.**

At every instant of every run the depth of a slot covers the jobs that are queued or executed there,
what was submitted is accounted for, and whoever sees a job finished finds it counted.  Calls that
are turned away leave no trace in the counters, whether the dispatcher or the pool refuses them.

Main results:

* `Pool.Run.stats_of_closed` — a closed pool counts nothing that it refuses;
* `Station.step_of_not_admitted` — a dispatcher counts nothing that it does not admit;
* `Pool.Run.counters_conserved` — **the counters of a pool at every instant**.
-/

import Offload.Dispatcher.Station
import Offload.Proofs.Pool.Tally

set_option autoImplicit false
set_option relaxedAutoImplicit false

namespace Offload

/-! ### Calls that are turned away -/

/-- A dispatcher that does not admit a job stays as it is. -/
theorem Station.step_of_not_admitted {σ : Type} (D : Native.Driver σ) (patience : σ → Nat)
    {s : Station σ} {job : Pool.Job} {e : Error}
    (he : s.dispatcher.admission job.input = .error e) :
    s.step D patience (.execute job) = some (s.refuse job.ticket e, some (.refused job)) := by
  simp only [step, he]

namespace Pool

variable {ρ S : Type} {exec : Executor ρ S} {slots : Nat} {shared : S} {ts : List (Turn S)}
  {r r' : Run ρ S}

/-- The turns that a call to submit a job is made of. -/
def Turn.isCall : Turn S → Bool
  | .call | .move (.submit _) | .move .proceed => true
  | _ => false

namespace Run

/-- A closed pool counts nothing that it refuses. -/
theorem stats_of_closed {t : Turn S} (hs : r.IsSound) (hclosed : r.pool.closed = true)
    (hcall : t.isCall = true) (ht : r.turn exec t = some r') : r'.pool.stats = r.pool.stats := by
  cases turned_of_turn ht with
  | call => rfl
  | move move s e hready hstep =>
      cases hstep with
      | lock => rfl
      | refuse => rfl
      -- a submission that has come further would have found the pool open
      | enter _ hsub | glanceFree _ hsub | glanceBusy _ hsub | scanFree _ _ _ hsub
      | scanBusy _ _ _ hsub | scanOut _ _ _ hsub | enlist _ hsub | deepen _ hsub
      | countSubmitted _ hsub | accept _ hsub =>
          have hentering := hs.phased.entering hclosed _ hsub
          simp_all [pool]
      | _ => simp [Turn.isCall] at hcall
  | look | take | share => simp [Turn.isCall] at hcall

/-- **The counters of a pool at every instant.**  The depth of a slot is the number of jobs that
have a place in it, so it covers the jobs that are queued or executed there, and nobody takes a job
out of a depth of zero; what was submitted is completed, failed or in some depth, and nothing else
is unless a submission or a finished job is midway; a job that has taken its worker with it keeps
its place for ever; and a job whose handle reports that it is finished has been counted once, on the
side of its outcome, and has no place in any depth.  Calls that are turned away are not counted. -/
theorem counters_conserved (hslots : 1 ≤ slots)
    (hr : turns exec ts (start slots shared) = some r) :
    (∀ slot lane, r.pool.lanes[slot]? = some lane →
      lane.depth = (r.pool.inDepth slot lane).length ∧
      (lane.queue ++ lane.worker.executing).Subperm (r.pool.inDepth slot lane) ∧
      lane.queue.length + lane.worker.executing.length ≤ lane.depth ∧
      ∀ f, IsFinishing r.pool slot f → f.next = .leave → 1 ≤ lane.depth) ∧
    (r.pool.completed + r.pool.failed + r.pool.stats.depth.sum =
        r.pool.submitted + r.pool.midway ∧
      r.pool.submitted ≤ r.pool.completed + r.pool.failed + r.pool.stats.depth.sum ∧
      ((∀ submission, r.pool.submission = some submission → submission.next ≠ .counting) →
        (∀ slot f, IsFinishing r.pool slot f → f.next ≠ .leave) →
          r.pool.submitted = r.pool.completed + r.pool.failed + r.pool.stats.depth.sum)) ∧
    (∀ job slot, Event.died job slot ∈ r.history →
      ∀ ts' r', turns exec ts' r = some r' →
        ∀ lane, r'.pool.lanes[slot]? = some lane → job ∈ r'.pool.inDepth slot lane) ∧
    (r.pool.completed = ((start slots shared).tallies exec ts).countP Tally.isOk ∧
      r.pool.failed = ((start slots shared).tallies exec ts).countP (fun x => !x.isOk) ∧
      ∀ job slot, Event.accepted job slot ∈ r.history → r.ledger.isResolved job.ticket = true →
        ∃ outcome, r.ledger.Holds r.taken job.ticket outcome ∧
          (((start slots shared).tallies exec ts).filter fun x => x.1.ticket = job.ticket) =
            [(job, outcome)] ∧
          ∀ i lane, r.pool.lanes[i]? = some lane →
            ∀ x ∈ r.pool.inDepth i lane, x.ticket ≠ job.ticket) ∧
    (r.pool.closed = true → ∀ t r', Turn.isCall t = true → r.turn exec t = some r' →
      r'.pool.stats = r.pool.stats) ∧
    (∀ (σ : Type) (D : Native.Driver σ) (patience : σ → Nat) (s : Station σ) (job : Job)
        (e : Error), s.dispatcher.admission job.input = .error e →
      ∃ s', s.step D patience (.execute job) = some (s', some (.refused job)) ∧
        s'.dispatcher.pool.stats = s.dispatcher.pool.stats) := by
  have hs : r.IsSound := sound hslots hr
  have hb := balanced hslots hr
  have hsum : r.pool.completed + r.pool.failed + r.pool.stats.depth.sum =
      r.pool.submitted + r.pool.midway := hb.sum
  refine ⟨?_, ⟨hsum, ?_, ?_⟩, ?_, ⟨hb.completed, hb.failed, ?_⟩, ?_, ?_⟩
  · intro slot lane hl
    have hsub := executing_subperm r.pool slot lane
    have hle := hsub.length_le
    rw [← hb.depth slot lane hl, List.length_append] at hle
    exact ⟨hb.depth slot lane hl, hsub, hle, fun f hf hnext => hb.depth.depth_pos hl hf hnext⟩
  · omega
  · intro hsub hfinish
    have hzero := midway_eq_zero hsub hfinish
    omega
  · intro job slot hd ts' r' hr' lane hl
    have hb' := balanced_of_turns hs hb hr'
    have hlost : job ∈ lane.worker.lost := by
      rw [← hb'.lost slot lane hl]
      exact mem_died.2 (history_subset hr' hd)
    have hworker : lane.worker.lost ⊆ lane.worker.inDepth := by
      cases lane.worker <;> simp [Worker.lost, Worker.inDepth]
    simp [inDepth, hworker hlost]
  · intro job slot hacc hres
    have hmem := (hs.isResolved_iff hacc).1 hres
    obtain ⟨outcome, hr⟩ := mem_resolved.1 hmem
    exact ⟨outcome, hs.ticketed.holds job slot outcome hr, hb.tallied_once hs hr,
      fun i lane hl x hx => hb.ticket_ne_of_mem_inDepth hs hacc hmem hl hx⟩
  · intro hclosed t r' hcall ht
    exact stats_of_closed hs hclosed hcall ht
  · intro σ D patience s job e he
    exact ⟨_, Station.step_of_not_admitted D patience he, rfl⟩

/-- Three jobs on one slot: the first one succeeds, the second one takes the worker with it, and the
third one is about to be counted as submitted. -/
def takenAlong : List (Turn Unit) :=
  [.call, .call, .call] ++
    .move (.submit ⟨0, [7]⟩) :: Turn.often 6 .proceed ++ Turn.often 8 (.work 0) ++
    .move (.submit ⟨1, []⟩) :: Turn.often 6 .proceed ++ Turn.often 3 (.work 0) ++
    .move (.submit ⟨2, [8]⟩) :: Turn.often 6 .proceed

theorem stats_takenAlong :
    (turns echo takenAlong (start 1 ())).map
        (fun r => (r.pool.stats, r.pool.midway, r.history)) = some
      (⟨2, 1, 0, [2]⟩, 1,
        [.accepted ⟨0, [7]⟩ 0, .begun ⟨0, [7]⟩ 0, .returned ⟨0, [7]⟩ 0 (.ok [7]),
          .resolved ⟨0, [7]⟩ 0 (.ok [7]), .accepted ⟨1, []⟩ 0, .begun ⟨1, []⟩ 0,
          .died ⟨1, []⟩ 0]) := by
  decide +kernel

/-- The first job is counted once and has left the depth, the second one stays in it, and the third
one is in it before it is counted as submitted. -/
theorem counters_takenAlong :
    ∃ r, turns echo takenAlong (start 1 ()) = some r ∧
      r.pool.completed + r.pool.failed + r.pool.stats.depth.sum = r.pool.submitted + 1 ∧
      (∃ outcome, r.ledger.Holds r.taken 0 outcome ∧
        (((start 1 ()).tallies echo takenAlong).filter fun x => x.1.ticket = 0) =
          [(⟨0, [7]⟩, outcome)]) ∧
      ∀ lane, r.pool.lanes[0]? = some lane → ⟨1, []⟩ ∈ r.pool.inDepth 0 lane := by
  obtain ⟨r, hr, heq⟩ := Option.map_eq_some_iff.1 stats_takenAlong
  simp only [Prod.mk.injEq] at heq
  obtain ⟨-, hmidway, hh⟩ := heq
  obtain ⟨-, ⟨hsum, -⟩, hdied, ⟨-, -, honce⟩, -⟩ := counters_conserved (by decide : 1 ≤ 1) hr
  have hs : r.IsSound := sound (by decide : 1 ≤ 1) hr
  have hacc : Event.accepted ⟨0, [7]⟩ 0 ∈ r.history := by simp [hh]
  have hres : r.ledger.isResolved 0 = true :=
    (hs.isResolved_iff hacc).2 (mem_resolved.2 ⟨.ok [7], by simp [hh]⟩)
  refine ⟨r, hr, hmidway ▸ hsum, ?_, ?_⟩
  · obtain ⟨outcome, hholds, hfilter, -⟩ := honce ⟨0, [7]⟩ 0 hacc hres
    exact ⟨outcome, hholds, hfilter⟩
  · exact hdied ⟨1, []⟩ 0 (by simp [hh]) [] r rfl

end Run

end Pool

end Offload

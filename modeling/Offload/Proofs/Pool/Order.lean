/-
**The jobs of a slot are served in order.**

On each slot one job runs at a time, the jobs that are run are the first ones that were accepted
there, in the order of acceptance, and unless a job takes its worker with it the jobs are resolved
in that order too, whether they are run, refused by the worker, or found in the queue by the
closing call.

Main results:

* `Pool.Custody.resolved_prefix` — jobs are resolved in the order in which they were accepted;
* `Pool.Run.served_in_order` — **the order of service in every run**.
-/

import Offload.Proofs.Pool.Run

set_option autoImplicit false
set_option relaxedAutoImplicit false

namespace Offload.Pool

variable {ρ S : Type}

section

variable {slot : Nat} {h : History} {closed : Bool} {lane : Lane ρ} {d : Option Finish}

theorem Worker.length_inProgress_le (w : Worker ρ) : w.inProgress.length ≤ 1 := by
  cases w <;> simp [Worker.inProgress]

/-- Jobs are resolved in the order in which they were accepted. -/
theorem Custody.resolved_prefix (hc : Custody slot h closed lane d) (hd : died slot h = []) :
    resolved slot h <+: accepted slot h := by
  rw [hc.accepted_eq, settled_eq_resolved hd, List.append_assoc, List.append_assoc]
  exact List.prefix_append _ _

end

namespace Sound

variable {h : History} {s : Scheduler ρ S} {calls taken : List Ticket}

theorem jobsOf_eq_nil (hs : Sound h s calls taken) {slot : Nat}
    (hslot : s.pool.lanes[slot]? = none) (kind : Event → Bool) : jobsOf kind slot h = [] := by
  refine List.eq_nil_iff_forall_not_mem.2 fun job hj => ?_
  obtain ⟨e, he, -, hi, -⟩ := mem_jobsOf.1 hj
  have hlt := hs.slots e he slot hi
  have hle := List.getElem?_eq_none_iff.1 hslot
  exact absurd hlt (Nat.not_lt.2 hle)

end Sound

namespace Run

variable {exec : Executor ρ S} {r : Run ρ S} {ts : List (Turn S)}

/-- **The order of service in every run**: on a slot at most one job is running; the inputs that are
run are the first inputs accepted, in the order in which their submissions had the lock; and as long
as no job takes the worker with it, the jobs that are resolved are the first jobs accepted. -/
theorem served_in_order {slots : Nat} {shared : S} (hslots : 1 ≤ slots)
    (hr : turns exec ts (start slots shared) = some r) (slot : Nat) :
    (∃ running, running.length ≤ 1 ∧
      begun slot r.history = ended slot r.history ++ running) ∧
    (begun slot r.history).map Job.input <+: (accepted slot r.history).map Job.input ∧
    (accepted slot r.history).Sublist r.entered ∧ r.entered.Nodup ∧
    ((∀ job, Event.died job slot ∉ r.history) →
      resolved slot r.history <+: accepted slot r.history ∧
      ∀ job ∈ accepted slot r.history,
        r.ledger.isResolved job.ticket = true ↔ job ∈ resolved slot r.history) := by
  have hs : r.IsSound := sound hslots hr
  have hentered : r.entered = held r.history r.pool.submission := entered_eq hr
  have hsub : (accepted slot r.history).Sublist r.entered := by
    rw [hentered]
    exact Sound.accepted_sublist_held _ _ _
  have hnodup : r.entered.Nodup := by
    rw [hentered]
    exact hs.nodup_held
  cases hl : r.pool.lanes[slot]? with
  | none =>
      -- nothing happens on a slot that does not exist
      have hnil := hs.jobsOf_eq_nil hl
      refine ⟨⟨[], by simp, by simp [hnil]⟩, by simp [hnil], hsub, hnodup, ?_⟩
      intro _
      simp [hnil]
  | some lane =>
      have hc := hs.custody slot lane hl
      refine ⟨⟨lane.worker.inProgress, Worker.length_inProgress_le _, hc.begun_eq⟩,
        hc.begun_prefix_accepted.map _, hsub, hnodup, ?_⟩
      intro hlive
      have hnone : died slot r.history = [] := by
        refine List.eq_nil_iff_forall_not_mem.2 ?_
        intro job hj
        exact hlive job (mem_died.1 hj)
      refine ⟨hc.resolved_prefix hnone, ?_⟩
      intro job hj
      exact hs.isResolved_iff (mem_accepted.1 hj)

/-- Two jobs on one slot, of which the second one is running. -/
def secondRunning : List (Turn Unit) :=
  [.call, .call] ++
    .move (.submit ⟨0, [7]⟩) :: Turn.often 6 .proceed ++
    .move (.submit ⟨1, [8]⟩) :: Turn.often 8 .proceed ++ Turn.often 10 (.work 0)

theorem history_secondRunning :
    (turns echo secondRunning (start 1 ())).map (fun r => r.history) = some
      [.accepted ⟨0, [7]⟩ 0, .accepted ⟨1, [8]⟩ 0, .begun ⟨0, [7]⟩ 0,
        .returned ⟨0, [7]⟩ 0 (.ok [7]), .resolved ⟨0, [7]⟩ 0 (.ok [7]), .begun ⟨1, [8]⟩ 0] := by
  decide +kernel

/-- The first job is resolved, the second one is not. -/
theorem served_in_order_secondRunning :
    ∃ r, turns echo secondRunning (start 1 ()) = some r ∧
      [[7], [8]] <+: (accepted 0 r.history).map Job.input ∧
      [⟨0, [7]⟩] <+: accepted 0 r.history ∧ r.ledger.isResolved 1 = false := by
  obtain ⟨r, hr, hh⟩ := Option.map_eq_some_iff.1 history_secondRunning
  obtain ⟨-, hbegun, -, -, hres⟩ := served_in_order (by decide : 1 ≤ 1) hr 0
  have hlive : ∀ job, Event.died job 0 ∉ r.history := by simp [hh]
  obtain ⟨hpre, hiff⟩ := hres hlive
  refine ⟨r, hr, ?_, ?_, ?_⟩
  · exact (show (begun 0 r.history).map Job.input = [[7], [8]] by rw [hh]; rfl) ▸ hbegun
  · exact (show resolved 0 r.history = [⟨0, [7]⟩] by rw [hh]; rfl) ▸ hpre
  · have hmem : (⟨1, [8]⟩ : Job) ∈ accepted 0 r.history := by rw [hh]; decide
    have hnot : (⟨1, [8]⟩ : Job) ∉ resolved 0 r.history := by rw [hh]; decide
    exact Bool.eq_false_iff.2 fun hx => hnot ((hiff _ hmem).1 hx)

end Run

end Offload.Pool

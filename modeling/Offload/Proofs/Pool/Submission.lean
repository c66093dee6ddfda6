/-
**A submission at once.**

When nobody comes in between, a submission to an open pool needs one step to look at the flag, one
for the tail at the cursor, one for each tail that it comes past after that, and four more.  It ends
with its job at the end of the queue of the slot that `pick` says, and changes nothing but that slot,
the cursor and the number of submitted jobs.

Main definitions:

* `Pool.Scheduler.holding` — a pool whose lock is held by a submission that stands at a step;
* `Pool.Scheduler.joined` — the pool with one job more.

Main results:

* `Pool.Scheduler.proceedFor_scanning` — a search comes to its end;
* `Pool.Scheduler.proceedFor_entering` — **a submission to an open pool is accepted at once**.
-/

import Offload.Pool.Quiet
import Offload.Proofs.Pool.Ring

set_option autoImplicit false
set_option relaxedAutoImplicit false

namespace Offload.Pool.Scheduler

variable {ρ S : Type} (exec : Executor ρ S) (s : Scheduler ρ S) (job : Job)

/-- The pool with its lock held by a submission that stands at a step, and its cursor elsewhere. -/
def holding (next : SubmissionStep) (cursor : Nat) : Scheduler ρ S :=
  { s with pool := { s.pool with submission := some ⟨job, next⟩, cursor } }

/-- The pool with one job more, at the end of the queue of a slot. -/
def joined (slot : Nat) : Scheduler ρ S :=
  { s with pool :=
    { s.pool.modifyLane slot fun lane =>
        { lane with
          tail := some job.ticket, depth := lane.depth + 1, queue := lane.queue ++ [job] } with
      submission := none, cursor := slot, submitted := s.pool.submitted + 1 } }

variable {exec s job}

theorem proceedFor_holding {next : SubmissionStep} {cursor bound : Nat} {s' : Scheduler ρ S}
    (h : (s.holding job next cursor).proceed job next = (s', none)) :
    proceedFor exec (bound + 1) (s.holding job next cursor) = proceedFor exec bound s' := by
  have hstep : (s.holding job next cursor).step exec .proceed = some (s', none) := congrArg some h
  rw [proceedFor, hstep]

theorem proceed_scanning_out {start offset cursor : Nat} (hout : ¬offset < s.pool.size) :
    (s.holding job (.scanning start offset) cursor).proceed job (.scanning start offset) =
      (s.holding job .enlisting cursor, none) :=
  if_neg hout

theorem proceed_scanning_free {start offset cursor : Nat} (hin : offset < s.pool.size)
    (hfree : s.isFree ((start + offset) % s.pool.size) = true) :
    (s.holding job (.scanning start offset) cursor).proceed job (.scanning start offset) =
      (s.holding job .enlisting ((start + offset) % s.pool.size), none) :=
  (if_pos hin).trans (if_pos hfree)

theorem proceed_scanning_busy {start offset cursor : Nat} (hin : offset < s.pool.size)
    (hbusy : s.isFree ((start + offset) % s.pool.size) = false) :
    (s.holding job (.scanning start offset) cursor).proceed job (.scanning start offset) =
      (s.holding job (.scanning start (offset + 1)) cursor, none) :=
  (if_pos hin).trans (if_neg (Bool.eq_false_iff.1 hbusy))

/-- Once the slot is chosen four steps are left. -/
theorem proceedFor_enlisting (slot bound : Nat) :
    proceedFor exec (bound + 4) (s.holding job .enlisting slot) =
      (some (.accepted job slot), s.joined job slot) := by
  simp [proceedFor, step, proceed, holding, quietly, modifyLane, joined, List.modify_modify_eq,
    Function.comp_def]

/-- **A search comes to its end**: one step for each tail that it has not come past, and one to find
that there is none left. -/
theorem proceedFor_scanning {c offset : Nat} (extra : Nat)
    (hbusy : ∀ k < offset, s.isFree (((c + 1) % s.pool.size + k) % s.pool.size) = false) :
    proceedFor exec (s.pool.size - offset + 1 + extra + 4)
        (s.holding job (.scanning ((c + 1) % s.pool.size) offset) ((c + 1) % s.pool.size)) =
      (some (.accepted job (pick s.pool.size s.isFree c)),
        s.joined job (pick s.pool.size s.isFree c)) := by
  induction hleft : s.pool.size - offset generalizing offset with
  | zero =>
      -- there is no tail left, so all are busy
      have hout : ¬offset < s.pool.size := by omega
      have hpick : pick s.pool.size s.isFree c = (c + 1) % s.pool.size :=
        pick_of_busy fun k hk => hbusy k (by omega)
      have hbound : 0 + 1 + extra + 4 = extra + 4 + 1 := by omega
      rw [hbound, proceedFor_holding (proceed_scanning_out hout), proceedFor_enlisting, hpick]
  | succ left ih =>
      have hin : offset < s.pool.size := by omega
      have hbound : left + 1 + 1 + extra + 4 = (left + 1 + extra) + 4 + 1 := by omega
      rw [hbound]
      cases hfree : s.isFree (((c + 1) % s.pool.size + offset) % s.pool.size) with
      | true =>
          rw [proceedFor_holding (proceed_scanning_free hin hfree), proceedFor_enlisting,
            pick_of_free hin hfree hbusy]
      | false =>
          rw [proceedFor_holding (proceed_scanning_busy hin hfree), ih _ (by omega)]
          intro k hk
          rcases Nat.lt_or_eq_of_le (Nat.lt_succ_iff.1 hk) with hk | rfl
          · exact hbusy k hk
          · exact hfree

/-- **A submission to an open pool is accepted at once**, if nobody comes in between. -/
theorem proceedFor_entering (hopen : s.pool.closed = false) (hsize : 1 ≤ s.pool.size) :
    proceedFor exec (s.pool.size + 7) (s.holding job .entering s.pool.cursor) =
      (some (.accepted job (pick s.pool.size s.isFree s.pool.cursor)),
        s.joined job (pick s.pool.size s.isFree s.pool.cursor)) := by
  have henter : (s.holding job .entering s.pool.cursor).proceed job .entering =
      (s.holding job .glancing ((s.pool.cursor + 1) % s.pool.size), none) :=
    if_neg (Bool.eq_false_iff.1 hopen)
  have hbound : s.pool.size + 7 = (s.pool.size - 0 + 1 + 0 + 4) + 1 + 1 := by omega
  rw [hbound, proceedFor_holding henter]
  cases hfree : s.isFree ((s.pool.cursor + 1) % s.pool.size) with
  | true =>
      have hglance : (s.holding job .glancing ((s.pool.cursor + 1) % s.pool.size)).proceed job
          .glancing = (s.holding job .enlisting ((s.pool.cursor + 1) % s.pool.size), none) :=
        congrArg (fun next => (s.holding job next _, none)) (if_pos hfree)
      have hpick : pick s.pool.size s.isFree s.pool.cursor = (s.pool.cursor + 1) % s.pool.size := by
        rw [pick_of_free hsize (by simpa using hfree) (by simp)]
        simp
      rw [proceedFor_holding hglance, proceedFor_enlisting, hpick]
  | false =>
      have hglance : (s.holding job .glancing ((s.pool.cursor + 1) % s.pool.size)).proceed job
          .glancing = (s.holding job (.scanning ((s.pool.cursor + 1) % s.pool.size) 0)
            ((s.pool.cursor + 1) % s.pool.size), none) :=
        congrArg (fun next => (s.holding job next _, none)) (if_neg (Bool.eq_false_iff.1 hfree))
      rw [proceedFor_holding hglance, proceedFor_scanning 0 (by simp)]

end Offload.Pool.Scheduler

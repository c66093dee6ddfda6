/-
**The tail of a slot speaks for all its jobs.**

A submission looks at one completion for each slot, that of the job last routed there.  Since the
jobs of a slot are resolved in order, in a pool that is open this one completion is resolved
exactly when all jobs of the slot are.

Main definitions:

* `Pool.routed` — the jobs routed to a slot: the accepted ones, and the one whose submission has
  replaced the tail and not yet reached the queue;
* `Pool.Tailed` — the tail of every slot is the last job routed there.

Main results:

* `Pool.Scheduler.tail_of_transition` — a step either leaves the tail of a slot alone or routes a
  job to it;
* `Pool.Run.tailed` — the tails are right in every run;
* `Pool.Sound.isFree_iff` — **a slot is free exactly when all its jobs are resolved**.
-/

import Offload.Proofs.Pool.Run

set_option autoImplicit false
set_option relaxedAutoImplicit false

namespace Offload.Pool

variable {ρ S : Type}

/-! ### Jobs routed to a slot -/

/-- The tail of the slot has been replaced, and the job is not in the queue yet. -/
def SubmissionStep.isEnlisted : SubmissionStep → Bool
  | .deepening | .counting | .queueing => true
  | .entering | .glancing | .scanning _ _ | .enlisting => false

/-- The job that has become the tail of a slot and is not in its queue yet. -/
def enlisted (slot : Nat) (p : Pool ρ) : List Job :=
  match p.submission with
  | some sub => if sub.next.isEnlisted = true ∧ p.cursor = slot then [sub.job] else []
  | none => []

/-- The jobs routed to a slot, in this order. -/
def routed (slot : Nat) (h : History) (p : Pool ρ) : List Job := accepted slot h ++ enlisted slot p

/-- The completion of the last job. -/
def lastTicket (jobs : List Job) : Option Ticket := jobs.getLast?.map Job.ticket

@[simp] theorem lastTicket_nil : lastTicket [] = none := rfl

@[simp] theorem lastTicket_concat (jobs : List Job) (job : Job) :
    lastTicket (jobs ++ [job]) = some job.ticket := by simp [lastTicket]

/-- The tail of every slot is the last job routed there. -/
def Tailed (h : History) (p : Pool ρ) : Prop :=
  ∀ i lane, p.lanes[i]? = some lane → lane.tail = lastTicket (routed i h p)

theorem enlisted_of_submission {p : Pool ρ} {slot : Nat} {job : Job} {next : SubmissionStep}
    (hsub : p.submission = some ⟨job, next⟩) :
    enlisted slot p = if next.isEnlisted = true ∧ p.cursor = slot then [job] else [] := by
  rw [enlisted, hsub]

theorem enlisted_of_none {p : Pool ρ} {slot : Nat} (hsub : p.submission = none) :
    enlisted slot p = [] := by
  rw [enlisted, hsub]

theorem enlisted_cases (slot : Nat) (p : Pool ρ) :
    enlisted slot p = [] ∨ ∃ sub, p.submission = some sub ∧ enlisted slot p = [sub.job] := by
  cases hsub : p.submission with
  | none => exact Or.inl (enlisted_of_none hsub)
  | some sub =>
      rw [enlisted_of_submission hsub]
      split
      · exact Or.inr ⟨sub, rfl, rfl⟩
      · exact Or.inl rfl

theorem enlisted_congr {p p' : Pool ρ} {slot : Nat} (hsub : p'.submission = p.submission)
    (hcursor : p'.cursor = p.cursor) : enlisted slot p' = enlisted slot p := by
  rw [enlisted, enlisted, hsub, hcursor]

/-! ### Steps -/

namespace Scheduler

variable {exec : Executor ρ S} {s s' : Scheduler ρ S} {move : Move} {e : Option Event}
  {h : History}

private theorem tail_modifyLane {p : Pool ρ} {slot i : Nat} {change : Lane ρ → Lane ρ}
    {lane' : Lane ρ} (hl : (p.modifyLane slot change).lanes[i]? = some lane')
    (hsame : ∀ lane, (change lane).tail = lane.tail) :
    ∃ lane, p.lanes[i]? = some lane ∧ lane'.tail = lane.tail := by
  rcases lane_of_modifyLane hl with ⟨-, hl₀⟩ | ⟨-, lane, hl₀, rfl⟩
  · exact ⟨lane', hl₀, rfl⟩
  · exact ⟨lane, hl₀, hsame lane⟩

/-- A step that shows no acceptance and keeps what is enlisted. -/
private theorem routed_same {p p' : Pool ρ} {i : Nat}
    (he : ∀ e', e = some e' → e'.isAcceptance = false)
    (hp : enlisted i p' = enlisted i p) : routed i (h ++ e.toList) p' = routed i h p := by
  rw [routed, routed, hp]
  cases e with
  | none => simp
  | some e' =>
      have hneg : ¬(e'.isAcceptance = true ∧ e'.slot? = some i) := by
        rw [he e' rfl]
        exact fun hx => Bool.false_ne_true hx.1
      rw [Option.toList_some, accepted, jobsOf_concat_of_not hneg]

/-- The last step of a submission puts the job that it has routed into the queue. -/
private theorem routed_accept {p p' : Pool ρ} {i : Nat} {job : Job}
    (hsub : p.submission = some ⟨job, .queueing⟩) (hsub' : p'.submission = none) :
    routed i (h ++ [.accepted job p.cursor]) p' = routed i h p := by
  rw [routed, routed, enlisted_of_none hsub', enlisted_of_submission hsub, accepted, jobsOf_concat]
  by_cases hi : p.cursor = i <;> simp [SubmissionStep.isEnlisted, hi, Event.slot?, Event.job]

/-- **A step either leaves the tail of a slot and the jobs routed there alone, or it routes the job
of the submission that holds the lock to the slot.** -/
theorem tail_of_transition (ht : Transition exec s move e s') {i : Nat} {lane' : Lane ρ}
    (hl : s'.pool.lanes[i]? = some lane') :
    ∃ lane, s.pool.lanes[i]? = some lane ∧
      ((lane'.tail = lane.tail ∧ routed i (h ++ e.toList) s'.pool = routed i h s.pool) ∨
        ∃ job, s'.pool.submission = some ⟨job, .deepening⟩ ∧ lane'.tail = some job.ticket ∧
          routed i (h ++ e.toList) s'.pool = routed i h s.pool ++ [job]) := by
  cases ht with
  | enlist job hsub =>
      -- the only step that replaces a tail, and from now on its job counts as routed
      have hbefore : enlisted i s.pool = [] := by
        simp [enlisted_of_submission hsub, SubmissionStep.isEnlisted]
      rcases lane_of_modifyLane hl with ⟨hi, hl₀⟩ | ⟨hi, lane, hl₀, rfl⟩
      · refine ⟨lane', hl₀, Or.inl ⟨rfl, ?_⟩⟩
        rw [routed, routed, hbefore]
        simp [enlisted, SubmissionStep.isEnlisted, hi]
      · refine ⟨lane, hl₀, Or.inr ⟨job, rfl, rfl, ?_⟩⟩
        rw [routed, routed, hbefore]
        simp [enlisted, SubmissionStep.isEnlisted, hi]
  | accept job hsub =>
      obtain ⟨lane, hl₀, heq⟩ := tail_modifyLane hl fun _ => rfl
      exact ⟨lane, hl₀, Or.inl ⟨heq, routed_accept hsub rfl⟩⟩
  | deepen job hsub =>
      obtain ⟨lane, hl₀, heq⟩ := tail_modifyLane hl fun _ => rfl
      refine ⟨lane, hl₀, Or.inl ⟨heq, routed_same (by simp) ?_⟩⟩
      simp [enlisted, hsub, SubmissionStep.isEnlisted]
  | lock job hsub =>
      refine ⟨lane', hl, Or.inl ⟨rfl, routed_same (by simp) ?_⟩⟩
      rw [enlisted_of_none hsub]
      simp [enlisted, SubmissionStep.isEnlisted]
  | refuse job hsub =>
      refine ⟨lane', hl, Or.inl ⟨rfl, routed_same (by rintro e' ⟨⟩; rfl) ?_⟩⟩
      simp [enlisted, hsub, SubmissionStep.isEnlisted]
  | enter _ hsub | glanceFree _ hsub | glanceBusy _ hsub | scanFree _ _ _ hsub
  | scanBusy _ _ _ hsub | scanOut _ _ _ hsub | countSubmitted _ hsub =>
      refine ⟨lane', hl, Or.inl ⟨rfl, routed_same (by simp) ?_⟩⟩
      simp [enlisted, hsub, SubmissionStep.isEnlisted]
  | finish slot lane f f' e t _ hw hf =>
      obtain ⟨change, hlf, hfin⟩ := laneFinish_of_finishing hf
      have hl' : (s.pool.modifyLane slot fun l =>
          { l with depth := change l.depth, worker := .afterFinish f' }).lanes[i]? =
            some lane' := by
        rw [← hl, hfin.lanes_setWorker]
        rfl
      obtain ⟨lane, hl₀, heq⟩ := tail_modifyLane hl' fun _ => rfl
      exact ⟨lane, hl₀, Or.inl ⟨heq, routed_same (by rintro e' rfl; rw [hlf.event_eq]; rfl)
        (enlisted_congr hfin.submission hfin.cursor)⟩⟩
  | drainFinish slot f f' e t hc hf =>
      obtain ⟨change, hlf, hfin⟩ := laneFinish_of_finishing hf
      have hl' : (s.pool.modifyLane slot fun l =>
          { l with depth := change l.depth }).lanes[i]? = some lane' := by
        rw [← hl]
        simp only [modifyLane, hfin.lanes]
      obtain ⟨lane, hl₀, heq⟩ := tail_modifyLane hl' fun _ => rfl
      exact ⟨lane, hl₀, Or.inl ⟨heq, routed_same (by rintro e' rfl; rw [hlf.event_eq]; rfl)
        (enlisted_congr hfin.submission hfin.cursor)⟩⟩
  | begin | «return» | die =>
      obtain ⟨lane, hl₀, heq⟩ := tail_modifyLane hl fun _ => rfl
      exact ⟨lane, hl₀, Or.inl ⟨heq, routed_same (by rintro e' ⟨⟩; rfl) (enlisted_congr rfl rfl)⟩⟩
  | start | miss | find | reject | goOn | doubtOpen | doubtClosed | stop | drainFind =>
      obtain ⟨lane, hl₀, heq⟩ := tail_modifyLane hl fun _ => rfl
      exact ⟨lane, hl₀, Or.inl ⟨heq, routed_same (by simp) (enlisted_congr rfl rfl)⟩⟩
  | closeAgain | close | join | joined | drainNext | drained =>
      exact ⟨lane', hl, Or.inl ⟨rfl, routed_same (by simp) (enlisted_congr rfl rfl)⟩⟩

end Scheduler

section

variable {exec : Executor ρ S} {s s' : Scheduler ρ S} {move : Move} {e : Option Event}
  {h : History} {calls taken : List Ticket}

theorem Tailed.step (hp : Tailed h s.pool) (ht : Scheduler.Transition exec s move e s') :
    Tailed (h ++ e.toList) s'.pool := by
  intro i lane' hl'
  obtain ⟨lane, hl, ⟨htail, hrouted⟩ | ⟨job, -, htail, hrouted⟩⟩ :=
    Scheduler.tail_of_transition (h := h) ht hl'
  · rw [htail, hrouted]
    exact hp i lane hl
  · rw [htail, hrouted, lastTicket_concat]

theorem Tailed.fresh (slots : Nat) : Tailed [] (fresh slots : Pool ρ) := by
  intro i lane hl
  obtain ⟨-, rfl⟩ : i < slots ∧ Lane.idle = lane := by
    simpa [Pool.fresh, List.getElem?_replicate] using hl
  rfl

/-- In every run the tails are right. -/
theorem Run.tailed {slots : Nat} {shared : S} {ts : List (Turn S)} {r : Run ρ S}
    (hr : Run.turns exec ts (Run.start slots shared) = some r) : Tailed r.history r.pool := by
  refine foldlM_induction (motive := fun r => Tailed r.history r.pool) hr (Tailed.fresh slots) ?_
  intro r₁ r₂ t hp ht
  rcases Run.turn_cases ht with ⟨move, s, e, -, -, hstep, rfl⟩ | ⟨hpool, hh, -⟩
  · exact hp.step hstep
  · rw [hh, hpool]
    exact hp

/-! ### Free slots -/

/-- The submission that holds the lock has not been answered before. -/
theorem Sound.answer_ne_submission (hs : Sound h s calls taken) {sub : Submission}
    (hsub : s.pool.submission = some sub) {e' : Event} (he : e' ∈ h) (hk : e'.isAnswer = true) :
    e'.job.ticket ≠ sub.job.ticket := by
  intro heq
  have hn := hs.ticketed.nodup.sublist (List.sublist_append_left _ _)
  rw [held, hsub, List.map_append] at hn
  refine List.disjoint_of_nodup_append hn (a := e'.job.ticket) ?_ (by simp [heq])
  exact List.mem_map_of_mem (List.mem_map_of_mem (List.mem_filter.2 ⟨he, hk⟩))

theorem Sound.pending_of_submission (hs : Sound h s calls taken) {sub : Submission}
    (hsub : s.pool.submission = some sub) : s.ledger.isPending sub.job.ticket := by
  refine hs.ticketed.pending _ ?_ (fun hf => ?_) fun hr => ?_
  · simp [claimed, held, hsub]
  · obtain ⟨e, he, hk, heq⟩ := mem_tickets.1 hf
    exact hs.answer_ne_submission hsub he (by cases e <;> simp_all) heq
  · obtain ⟨e, he, hk, heq⟩ := mem_tickets.1 hr
    cases e with
    | resolved job slot outcome =>
        exact hs.answer_ne_submission hsub (hs.accepted_of_mem he rfl) rfl heq
    | _ => simp at hk

/-- When the last job of a slot of an open pool is resolved, nothing is left to resolve there. -/
theorem Custody.all_resolved {slot : Nat} {lane : Lane ρ} {d : Option Finish}
    (hc : Custody slot h false lane d) (hn : (accepted slot h).Nodup) {job : Job}
    (hlast : (accepted slot h).getLast? = some job) (hr : job ∈ resolved slot h) :
    accepted slot h = resolved slot h := by
  obtain ⟨rest, hrest⟩ : ∃ rest, accepted slot h = resolved slot h ++ rest :=
    ⟨lane.worker.lost ++ lane.worker.hand ++ drainHand d ++ lane.queue, by
      rw [hc.accepted_eq, hc.settled_open rfl]
      simp⟩
  rcases List.eq_nil_or_concat rest with rfl | ⟨front, last, rfl⟩
  · rw [hrest, List.append_nil]
  · -- the last job would be both resolved and left
    rw [List.concat_eq_append, ← List.append_assoc] at hrest
    rw [hrest, List.getLast?_concat, Option.some.injEq] at hlast
    rw [hrest, hlast] at hn
    exact absurd (List.mem_append_left _ hr) (List.disjoint_of_nodup_append hn · (by simp))

/-- **A slot of an open pool is free exactly when all jobs routed there are resolved.** -/
theorem Sound.isFree_iff (hs : Sound h s calls taken) (hp : Tailed h s.pool)
    (hopen : s.pool.closed = false) {i : Nat} {lane : Lane ρ}
    (hl : s.pool.lanes[i]? = some lane) :
    s.isFree i = true ↔
      ∀ job ∈ routed i h s.pool, s.ledger.isResolved job.ticket = true := by
  have hfree : s.isFree i = lane.tail.all s.ledger.isResolved := by
    simp [Scheduler.isFree, hl]
  rw [hfree, hp i lane hl, routed]
  rcases enlisted_cases i s.pool with hnil | ⟨sub, hsub, hone⟩
  · rw [hnil, List.append_nil]
    cases hlast : (accepted i h).getLast? with
    | none => simp [lastTicket, List.getLast?_eq_none_iff.1 hlast]
    | some job =>
        have hmem : job ∈ accepted i h := List.mem_of_getLast? hlast
        rw [lastTicket, hlast, Option.map_some, Option.all_some]
        refine ⟨fun hjob job' hj' => ?_, fun hall => hall job hmem⟩
        -- jobs are resolved in the order of acceptance, so none before the last one is left
        have hc : Custody i h false lane (s.pool.closing.current i) := hopen ▸ hs.custody i lane hl
        have hall := hc.all_resolved (hs.nodup_accepted i) hlast
          ((hs.isResolved_iff (Pool.mem_accepted.1 hmem)).1 hjob)
        exact (hs.isResolved_iff (Pool.mem_accepted.1 hj')).2 (hall ▸ hj')
  · -- the job that has just been routed there is not resolved
    have hpending := Ledger.isResolved_eq_false (hs.pending_of_submission hsub)
    rw [hone, lastTicket_concat, Option.all_some, hpending]
    refine ⟨fun hx => absurd hx Bool.false_ne_true, fun hall => ?_⟩
    exact hpending ▸ hall sub.job (by simp)

end

end Offload.Pool

/-
**Completions in a run of a pool.**

A completion is made by a call to submit a job.  It then belongs to a call that waits for the lock,
to the submission that holds it, or to a job that was accepted or refused, and to one of them only.
Unless its job is refused it is pending until the job is resolved, and from then on it holds the
outcome until somebody takes it.

Main definitions:

* `Ledger.isPending`, `Ledger.Holds` — the two states of a completion;
* `Pool.tickets` — the completions of the jobs that a history is about;
* `Pool.held`, `Pool.claimed` — the jobs whose submissions have had the lock, and all completions
  that belong to anybody;
* `Pool.Ticketed` — **the invariant of the completions**.

Main results:

* `Pool.held_of_transition` — submissions have the lock one after another;
* `Pool.Ticketed.step` — every step of a pool keeps the invariant;
* `Pool.Ticketed.issue`, `Pool.Ticketed.ledger` — so does whatever callers do with their
  completions.
-/

import Mathlib.Data.List.Nodup
import Offload.Proofs.Pool.Custody

set_option autoImplicit false
set_option relaxedAutoImplicit false

namespace Offload

/-! ### The states of a completion -/

namespace Ledger

variable {l : Ledger} {t u : Ticket} {outcome : Outcome Bytes}

/-- A completion has been issued and is not resolved. -/
def isPending (l : Ledger) (t : Ticket) : Prop := ∃ c, l.cell? t = some c ∧ c.resolved = false

/-- A completion is resolved, and holds its outcome unless that has been taken. -/
def Holds (l : Ledger) (taken : List Ticket) (t : Ticket) (outcome : Outcome Bytes) : Prop :=
  ∃ c, l.cell? t = some c ∧ c.resolved = true ∧ (t ∉ taken → c.outcome = some outcome)

theorem isResolved_eq_false (h : l.isPending t) : l.isResolved t = false := by
  obtain ⟨c, hc, hr⟩ := h
  simp [isResolved, hc, hr]

theorem Holds.isResolved {taken : List Ticket} (h : l.Holds taken t outcome) :
    l.isResolved t = true := by
  obtain ⟨c, hc, hr, -⟩ := h
  simp [Ledger.isResolved, hc, hr]

/-- A resolved completion holds some outcome, or has held one. -/
theorem holds_of_isResolved (h : l.isResolved t = true) : l.Holds [t] t outcome := by
  cases hc : l.cell? t with
  | none => simp [isResolved, hc] at h
  | some c => exact ⟨c, hc, by simpa [isResolved, hc] using h, by simp⟩

theorem cell?_modify (l : Ledger) (t u : Ticket) (change : Completion → Completion) :
    (l.modify t change).cell? u = if t = u then (l.cell? u).map change else l.cell? u := by
  unfold cell? modify
  rw [List.getElem?_modify]
  by_cases h : t = u <;> simp [h]

theorem cell?_resolve_of_ne (h : t ≠ u) : (l.resolve t outcome).2.cell? u = l.cell? u := by
  simp [resolve, cell?_modify, h]

/-- Resolving a pending completion puts the outcome into it. -/
theorem holds_resolve (taken : List Ticket) (h : l.isPending t) :
    (l.resolve t outcome).2.Holds taken t outcome := by
  obtain ⟨c, hc, hr⟩ := h
  exact ⟨(c.resolve outcome).2, by simp [resolve, cell?_modify, hc],
    by simp [Completion.resolve, hr], fun _ => by simp [Completion.resolve, hr]⟩

theorem isPending_resolve (h : l.isPending u) (hne : t ≠ u) :
    (l.resolve t outcome).2.isPending u := by
  rwa [isPending, cell?_resolve_of_ne hne]

theorem Holds.resolve {taken : List Ticket} {o : Outcome Bytes} (h : l.Holds taken u o) :
    (l.resolve t outcome).2.Holds taken u o := by
  obtain ⟨c, hc, hr, ho⟩ := h
  refine ⟨if t = u then (c.resolve outcome).2 else c, ?_, ?_, ?_⟩
  · by_cases htu : t = u <;> simp [Ledger.resolve, cell?_modify, hc, htu]
  · by_cases htu : t = u <;> simp [Completion.resolve, hr, htu]
  · by_cases htu : t = u <;> simpa [Completion.resolve, hr, htu] using ho

@[simp] theorem cells_wake (w : Option Waker) : (l.wake t w).cells = l.cells := by
  cases w <;> rfl

@[simp] theorem length_resolve : (l.resolve t outcome).2.cells.length = l.cells.length := by
  simp [resolve, modify]

@[simp] theorem length_look (w : Waker) : (l.look t w).2.cells.length = l.cells.length := by
  simp [look, modify]

@[simp] theorem length_take : (l.take t).2.cells.length = l.cells.length := by
  simp [take, modify]

theorem cell?_issue_of_lt (h : u < l.cells.length) : l.issue.2.cell? u = l.cell? u := by
  simp [issue, cell?, List.getElem?_append_left h]

theorem isPending_issue_self : l.issue.2.isPending l.cells.length :=
  ⟨.unresolved, by simp [issue, cell?], rfl⟩

theorem lt_of_cell? {c : Completion} (h : l.cell? t = some c) : t < l.cells.length :=
  (List.getElem?_eq_some_iff.1 h).1

theorem isPending.issue (h : l.isPending u) : l.issue.2.isPending u := by
  obtain ⟨c, hc, hr⟩ := h
  exact ⟨c, by rw [cell?_issue_of_lt (lt_of_cell? hc), hc], hr⟩

theorem Holds.issue {taken : List Ticket} (h : l.Holds taken u outcome) :
    l.issue.2.Holds taken u outcome := by
  obtain ⟨c, hc, hr⟩ := h
  exact ⟨c, by rw [cell?_issue_of_lt (lt_of_cell? hc), hc], hr⟩

theorem isPending.look (w : Waker) (h : l.isPending u) : (l.look t w).2.isPending u := by
  obtain ⟨c, hc, hr⟩ := h
  refine ⟨if t = u then (c.look w).2 else c, ?_, ?_⟩
  · by_cases htu : t = u <;> simp [Ledger.look, cell?_modify, hc, htu]
  · by_cases htu : t = u <;> simp [Completion.look, hr, htu]

theorem Holds.look {taken : List Ticket} (w : Waker) (h : l.Holds taken u outcome) :
    (l.look t w).2.Holds taken u outcome := by
  obtain ⟨c, hc, hr, ho⟩ := h
  refine ⟨if t = u then (c.look w).2 else c, ?_, ?_, ?_⟩
  · by_cases htu : t = u <;> simp [Ledger.look, cell?_modify, hc, htu]
  · by_cases htu : t = u <;> simp [Completion.look, hr, htu]
  · by_cases htu : t = u <;> simpa [Completion.look, hr, htu] using ho

theorem isPending.take (h : l.isPending u) : (l.take t).2.isPending u := by
  obtain ⟨c, hc, hr⟩ := h
  refine ⟨if t = u then c.take.2 else c, ?_, ?_⟩
  · by_cases htu : t = u <;> simp [Ledger.take, cell?_modify, hc, htu]
  · by_cases htu : t = u <;> simp [Completion.take, hr, htu]

theorem Holds.take {taken : List Ticket} (h : l.Holds taken u outcome) :
    (l.take t).2.Holds (t :: taken) u outcome := by
  obtain ⟨c, hc, hr, ho⟩ := h
  refine ⟨if t = u then c.take.2 else c, ?_, ?_, fun hu => ?_⟩
  · by_cases htu : t = u <;> simp [Ledger.take, cell?_modify, hc, htu]
  · by_cases htu : t = u <;> simp [Completion.take, hr, htu]
  · simp only [List.mem_cons, not_or] at hu
    simpa [Ne.symm hu.1] using ho hu.2

/-- Taking the outcome of a completion brings what it holds, the first time. -/
theorem Holds.take_eq {taken : List Ticket} (h : l.Holds taken t outcome) (ht : t ∉ taken) :
    (l.take t).1 = outcome := by
  obtain ⟨c, hc, -, ho⟩ := h
  simp [Ledger.take, Completion.take, hc, ho ht]

end Ledger

namespace Pool

variable {ρ S : Type}

/-! ### To whom completions belong -/

/-- The completions of the jobs that the events of one kind are about. -/
def tickets (kind : Event → Bool) (h : History) : List Ticket :=
  (h.filter kind).map fun e => e.job.ticket

@[simp] theorem tickets_nil (kind : Event → Bool) : tickets kind [] = [] := rfl

theorem tickets_concat (kind : Event → Bool) (h : History) (e : Event) :
    tickets kind (h ++ [e]) = tickets kind h ++ if kind e = true then [e.job.ticket] else [] := by
  by_cases he : kind e = true <;> simp [tickets, he]

theorem mem_tickets {kind : Event → Bool} {h : History} {t : Ticket} :
    t ∈ tickets kind h ↔ ∃ e ∈ h, kind e = true ∧ e.job.ticket = t := by
  simp only [tickets, List.mem_map, List.mem_filter, and_assoc]

/-- The jobs whose submissions have had the lock, in the order in which they gave it back. -/
def answered (h : History) : List Job := (h.filter Event.isAnswer).map Event.job

@[simp] theorem answered_nil : answered [] = [] := rfl

theorem answered_concat (h : History) (e : Event) :
    answered (h ++ [e]) = answered h ++ if e.isAnswer = true then [e.job] else [] := by
  by_cases he : e.isAnswer = true <;> simp only [answered, List.filter_append, List.map_append]
  · rw [List.filter_cons_of_pos he, if_pos he]
    rfl
  · rw [List.filter_cons_of_neg he, if_neg he]
    rfl

/-- The jobs whose submissions have had the lock or hold it, in the order in which they took it. -/
def held (h : History) (submission : Option Submission) : List Job :=
  answered h ++ submission.toList.map (·.job)

/-- All completions that belong to anybody: to a job whose submission has had the lock or holds it,
or to a call that waits for the lock. -/
def claimed (h : History) (submission : Option Submission) (calls : List Ticket) : List Ticket :=
  (held h submission).map Job.ticket ++ calls

/-- The job whose submission takes the lock with a move. -/
def Move.entry : Move → List Job
  | .submit job => [job]
  | .proceed | .work _ | .close | .wind => []

/-- The calls that still wait for the lock after a move. -/
def callsAfter (calls : List Ticket) : Move → List Ticket
  | .submit job => calls.erase job.ticket
  | _ => calls

/-- A call that takes the lock has made its completion before. -/
def IsReady (calls : List Ticket) : Move → Prop
  | .submit job => job.ticket ∈ calls
  | _ => True

instance IsReady.decidable (calls : List Ticket) : (move : Move) → Decidable (IsReady calls move)
  | .submit job => inferInstanceAs (Decidable (job.ticket ∈ calls))
  | .proceed | .work _ | .close | .wind => .isTrue trivial

/-- Every completion belongs to one only; unless its job was refused it is pending until it is
resolved, and holds the outcome from then on. -/
structure Ticketed (h : History) (submission : Option Submission) (l : Ledger)
    (calls taken : List Ticket) : Prop where
  nodup : (claimed h submission calls).Nodup
  issued : ∀ t ∈ claimed h submission calls, t < l.cells.length
  pending : ∀ t ∈ claimed h submission calls, t ∉ tickets Event.isRefusal h →
    t ∉ tickets Event.isResolution h → l.isPending t
  holds : ∀ job slot outcome, Event.resolved job slot outcome ∈ h →
    l.Holds taken job.ticket outcome

theorem Ticketed.empty : Ticketed [] none .empty [] [] where
  nodup := by simp [claimed, held]
  issued := by simp [claimed, held]
  pending := by simp [claimed, held]
  holds := by simp

theorem tickets_sublist_claimed {kind : Event → Bool}
    (hk : ∀ e, kind e = true → e.isAnswer = true) (h : History) (submission : Option Submission)
    (calls : List Ticket) : (tickets kind h).Sublist (claimed h submission calls) := by
  have hsub : ((h.filter kind).map Event.job).Sublist (held h submission) :=
    ((List.monotone_filter_right h hk).map _).trans (List.sublist_append_left _ _)
  have htickets : tickets kind h = ((h.filter kind).map Event.job).map Job.ticket := by
    rw [List.map_map]
    rfl
  rw [htickets]
  exact (hsub.map Job.ticket).trans (List.sublist_append_left _ calls)

section

variable {exec : Executor ρ S} {s s' : Scheduler ρ S} {move : Move} {e : Option Event}
  {h : History} {calls taken : List Ticket}

/-- A step that does not move the lock. -/
private theorem held_same {submission : Option Submission}
    (he : ∀ e', e = some e' → e'.isAnswer = false) :
    held (h ++ e.toList) submission = held h submission := by
  cases e with
  | none => simp
  | some e' =>
      have hneg : ¬e'.isAnswer = true := by rw [he e' rfl]; exact Bool.false_ne_true
      rw [Option.toList_some, held, answered_concat, if_neg hneg, List.append_nil, held]

/-- A submission has the lock from the step that takes it to the one that answers it. -/
theorem held_of_transition (ht : Scheduler.Transition exec s move e s') :
    held (h ++ e.toList) s'.pool.submission = held h s.pool.submission ++ move.entry := by
  cases ht with
  | lock job hsub => simp [held, hsub, Move.entry]
  | refuse job hsub | accept job hsub =>
      simp [held, hsub, Move.entry, answered_concat, Event.job]
  | enter _ hsub | glanceFree _ hsub | glanceBusy _ hsub | scanFree _ _ _ hsub
  | scanBusy _ _ _ hsub | scanOut _ _ _ hsub | enlist _ hsub | deepen _ hsub
  | countSubmitted _ hsub => simp [held, hsub, Move.entry]
  | finish slot lane f f' e t hl hw hf =>
      obtain ⟨change, hlf, hfin⟩ := Scheduler.laneFinish_of_finishing hf
      rw [submission_setWorker, hfin.submission, Move.entry, List.append_nil]
      exact held_same (by rintro e' rfl; rw [hlf.event_eq]; rfl)
  | drainFinish slot f f' e t hc hf =>
      obtain ⟨change, hlf, hfin⟩ := Scheduler.laneFinish_of_finishing hf
      rw [show ({ t.pool with closing := .draining slot f' } : Pool ρ).submission =
        s.pool.submission from hfin.submission, Move.entry, List.append_nil]
      exact held_same (by rintro e' rfl; rw [hlf.event_eq]; rfl)
  | begin | «return» | die =>
      rw [Move.entry, List.append_nil]
      exact held_same (by rintro e' ⟨⟩; rfl)
  | _ =>
      rw [Move.entry, List.append_nil]
      exact held_same (by simp)

/-- A call that takes the lock no longer waits for it. -/
theorem perm_callsAfter (hready : IsReady calls move) :
    (move.entry.map Job.ticket ++ callsAfter calls move).Perm calls := by
  cases move with
  | submit job => exact (List.perm_cons_erase hready).symm
  | _ => exact .refl _

/-- A step hands completions on; it makes none and loses none. -/
theorem claimed_of_transition (ht : Scheduler.Transition exec s move e s')
    (hready : IsReady calls move) :
    (claimed (h ++ e.toList) s'.pool.submission (callsAfter calls move)).Perm
      (claimed h s.pool.submission calls) := by
  rw [claimed, claimed, held_of_transition ht, List.map_append, List.append_assoc]
  exact (perm_callsAfter hready).append_left _

/-- What a step does to the completions: at most one is resolved. -/
theorem ledger_of_transition (ht : Scheduler.Transition exec s move e s') :
    (∃ job slot outcome, e = some (.resolved job slot outcome) ∧
        s'.ledger = (s.ledger.resolve job.ticket outcome).2) ∨
      ((∀ job slot outcome, e ≠ some (.resolved job slot outcome)) ∧
        s'.ledger.cells = s.ledger.cells) := by
  cases ht with
  | finish slot lane f f' e t hl hw hf =>
      cases hf with
      | resolve job outcome => exact Or.inl ⟨job, slot, outcome, rfl, rfl⟩
      | wake job outcome waker => exact Or.inr ⟨by simp, Ledger.cells_wake waker⟩
      | _ => exact Or.inr ⟨by simp, rfl⟩
  | drainFinish slot f f' e t hc hf =>
      cases hf with
      | resolve job outcome => exact Or.inl ⟨job, slot, outcome, rfl, rfl⟩
      | wake job outcome waker => exact Or.inr ⟨by simp, Ledger.cells_wake waker⟩
      | _ => exact Or.inr ⟨by simp, rfl⟩
  | _ => exact Or.inr ⟨by simp, rfl⟩

/-- A history keeps what it has. -/
theorem tickets_append_subset {kind : Event → Bool} (h h' : History) :
    tickets kind h ⊆ tickets kind (h ++ h') := by
  simp [tickets]

/-- **Every step of a pool keeps the completions in order**, provided that what it resolves is a
pending completion. -/
theorem Ticketed.step (htk : Ticketed h s.pool.submission s.ledger calls taken)
    (ht : Scheduler.Transition exec s move e s') (hready : IsReady calls move)
    (hfresh : ∀ job slot outcome, e = some (.resolved job slot outcome) →
      s.ledger.isPending job.ticket) :
    Ticketed (h ++ e.toList) s'.pool.submission s'.ledger (callsAfter calls move) taken := by
  have hsub := claimed_of_transition (h := h) ht hready
  refine ⟨hsub.nodup_iff.2 htk.nodup, ?_, ?_, ?_⟩
  · intro t hm
    have hlt := htk.issued t (hsub.subset hm)
    rcases ledger_of_transition ht with ⟨job, slot, outcome, -, hl⟩ | ⟨-, hl⟩
    · rwa [hl, Ledger.length_resolve]
    · rwa [hl]
  · intro t hm hf hr
    have hf' : t ∉ tickets Event.isRefusal h := fun hx => hf (tickets_append_subset _ _ hx)
    have hr' : t ∉ tickets Event.isResolution h := fun hx => hr (tickets_append_subset _ _ hx)
    have hp := htk.pending t (hsub.subset hm) hf' hr'
    -- it is not the one that is resolved, for then it would count as resolved
    rcases ledger_of_transition ht with ⟨job, slot, outcome, rfl, hl⟩ | ⟨-, hl⟩
    · rw [hl]
      refine Ledger.isPending_resolve hp fun heq => hr ?_
      rw [Option.toList_some, tickets_concat]
      exact List.mem_append_right _ (by simp [Event.job, heq])
    · rwa [Ledger.isPending, Ledger.cell?, hl]
  · intro job slot outcome hm
    rcases ledger_of_transition ht with ⟨job', slot', outcome', rfl, hl⟩ | ⟨hne, hl⟩
    · rw [hl]
      rcases List.mem_append.1 hm with hm | hm
      · exact (htk.holds job slot outcome hm).resolve
      · -- the completion that takes the outcome was pending, so it takes no other one
        obtain ⟨rfl, rfl, rfl⟩ : job = job' ∧ slot = slot' ∧ outcome = outcome' := by
          simpa using hm
        exact Ledger.holds_resolve taken (hfresh job slot outcome rfl)
    · have hm' : Event.resolved job slot outcome ∈ h := by
        rcases List.mem_append.1 hm with hm | hm
        · exact hm
        · exact absurd (Option.mem_toList.1 hm) (hne job slot outcome)
      simpa only [Ledger.Holds, Ledger.cell?, hl] using htk.holds job slot outcome hm'

/-- A call to submit a job makes a completion of its own. -/
theorem Ticketed.issue {submission : Option Submission} {l : Ledger}
    (htk : Ticketed h submission l calls taken) :
    Ticketed h submission l.issue.2 (calls ++ [l.issue.1]) taken := by
  have hclaimed : claimed h submission (calls ++ [l.issue.1]) =
      claimed h submission calls ++ [l.cells.length] := by
    simp [claimed, Ledger.issue]
  have hlength : l.issue.2.cells.length = l.cells.length + 1 := by simp [Ledger.issue]
  refine ⟨?_, ?_, ?_, fun job slot outcome hm => (htk.holds job slot outcome hm).issue⟩
  · rw [hclaimed, List.nodup_append]
    refine ⟨htk.nodup, List.nodup_singleton _, fun t ht u hu => ?_⟩
    rw [List.mem_singleton.1 hu]
    exact Nat.ne_of_lt (htk.issued t ht)
  · intro t hm
    rw [hlength]
    rw [hclaimed] at hm
    rcases List.mem_append.1 hm with hm | hm
    · exact Nat.lt_succ_of_lt (htk.issued t hm)
    · rw [List.mem_singleton.1 hm]
      exact Nat.lt_succ_self _
  · intro t hm hf hr
    rw [hclaimed] at hm
    rcases List.mem_append.1 hm with hm | hm
    · exact (htk.pending t hm hf hr).issue
    · rw [List.mem_singleton.1 hm]
      exact Ledger.isPending_issue_self

/-- Whatever callers do with their completions keeps them in order, as long as pending ones stay
pending and an outcome is lost only by being taken. -/
theorem Ticketed.ledger {submission : Option Submission} {l l' : Ledger} {taken' : List Ticket}
    (htk : Ticketed h submission l calls taken) (hlength : l.cells.length ≤ l'.cells.length)
    (hpending : ∀ t ∈ claimed h submission calls, t ∉ tickets Event.isRefusal h →
      l.isPending t → l'.isPending t)
    (hholds : ∀ t outcome, l.Holds taken t outcome → l'.Holds taken' t outcome) :
    Ticketed h submission l' calls taken' where
  nodup := htk.nodup
  issued t hm := Nat.lt_of_lt_of_le (htk.issued t hm) hlength
  pending t hm hf hr := hpending t hm hf (htk.pending t hm hf hr)
  holds job slot outcome hm := hholds _ _ (htk.holds job slot outcome hm)

/-- Looking at a completion keeps them in order. -/
theorem Ticketed.look {submission : Option Submission} {l : Ledger}
    (htk : Ticketed h submission l calls taken) (t : Ticket) (w : Waker) :
    Ticketed h submission (l.look t w).2 calls taken :=
  htk.ledger (Nat.le_of_eq (Ledger.length_look w).symm) (fun _ _ _ hp => hp.look w)
    fun _ _ ho => ho.look w

/-- So does taking the outcome out of one. -/
theorem Ticketed.take {submission : Option Submission} {l : Ledger}
    (htk : Ticketed h submission l calls taken) (t : Ticket) :
    Ticketed h submission (l.take t).2 calls (t :: taken) :=
  htk.ledger (Nat.le_of_eq Ledger.length_take.symm) (fun _ _ _ hp => hp.take)
    fun _ _ ho => ho.take

end

end Pool

end Offload

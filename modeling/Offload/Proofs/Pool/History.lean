/-
**Histories of a pool.**

A history is the list of the events of a run, oldest first.  What happened on a slot is read off a
history as a list of jobs: those that joined its queue, those whose run began or ended there, and
those that left it for good, by being resolved or by taking the worker with them.

Main definitions:

* `Pool.History`, `Pool.jobsOf` — histories, and the jobs of the events of one kind on one slot;
* `Pool.accepted`, `Pool.begun`, `Pool.ended`, `Pool.settled`, `Pool.resolved`, `Pool.died` — the
  kinds that matter;
* `Pool.times` — how often an event of one kind is about a given completion.

Main results:

* `Pool.mem_jobsOf` — a job is listed when there is an event about it;
* `Pool.times_le_one`, `Pool.times_eq_one` — in a list without repetition a job stands for one
  event.
-/

import Mathlib.Data.List.Basic
import Mathlib.Data.List.Nodup
import Offload.Pool.Step

set_option autoImplicit false
set_option relaxedAutoImplicit false

namespace Offload.Pool

/-- The events of a run, oldest first. -/
abbrev History : Type := List Event

/-! ### Kinds of events -/

namespace Event

/-- The job that an event is about. -/
def job : Event → Job
  | accepted job _ | refused job | begun job _ | returned job _ _ | died job _
  | resolved job _ _ => job

/-- The slot that an event happens on. -/
def slot? : Event → Option Nat
  | accepted _ slot | begun _ slot | returned _ slot _ | died _ slot | resolved _ slot _ =>
      some slot
  | refused _ => none

/-- A job joins a queue. -/
@[simp] def isAcceptance : Event → Bool
  | accepted _ _ => true
  | _ => false

/-- A submission ends without its job. -/
@[simp] def isRefusal : Event → Bool
  | refused _ => true
  | _ => false

/-- A submission gives the lock back. -/
@[simp] def isAnswer : Event → Bool
  | accepted _ _ | refused _ => true
  | _ => false

/-- A job begins to run. -/
@[simp] def isStart : Event → Bool
  | begun _ _ => true
  | _ => false

/-- A job ceases to run. -/
@[simp] def isEnd : Event → Bool
  | returned _ _ _ | died _ _ => true
  | _ => false

/-- A job ceases to run by taking its worker with it. -/
@[simp] def isDeath : Event → Bool
  | died _ _ => true
  | _ => false

/-- A job is resolved. -/
@[simp] def isResolution : Event → Bool
  | resolved _ _ _ => true
  | _ => false

/-- A job leaves its slot for good. -/
@[simp] def isSettlement : Event → Bool
  | resolved _ _ _ | died _ _ => true
  | _ => false

end Event

/-! ### The jobs of a slot -/

/-- The jobs of the events of one kind on one slot. -/
def jobsOf (kind : Event → Bool) (slot : Nat) (h : History) : List Job :=
  (h.filter fun e => kind e && e.slot? = some slot).map Event.job

/-- The jobs that joined the queue of a slot. -/
abbrev accepted (slot : Nat) (h : History) : List Job := jobsOf Event.isAcceptance slot h

/-- The jobs that were begun on a slot. -/
abbrev begun (slot : Nat) (h : History) : List Job := jobsOf Event.isStart slot h

/-- The jobs that ceased to run on a slot. -/
abbrev ended (slot : Nat) (h : History) : List Job := jobsOf Event.isEnd slot h

/-- The jobs that took the worker of a slot with them. -/
abbrev died (slot : Nat) (h : History) : List Job := jobsOf Event.isDeath slot h

/-- The jobs that were resolved on a slot. -/
abbrev resolved (slot : Nat) (h : History) : List Job := jobsOf Event.isResolution slot h

/-- The jobs that left a slot for good. -/
abbrev settled (slot : Nat) (h : History) : List Job := jobsOf Event.isSettlement slot h

section

variable {kind : Event → Bool} {slot : Nat} {h h' : History} {e : Event} {job : Job}

@[simp] theorem jobsOf_nil : jobsOf kind slot [] = [] := rfl

theorem jobsOf_append : jobsOf kind slot (h ++ h') = jobsOf kind slot h ++ jobsOf kind slot h' := by
  simp [jobsOf]

theorem jobsOf_concat :
    jobsOf kind slot (h ++ [e]) =
      jobsOf kind slot h ++ if kind e = true ∧ e.slot? = some slot then [e.job] else [] := by
  rw [jobsOf_append]
  congr 1
  by_cases he : kind e = true ∧ e.slot? = some slot
  · simp [jobsOf, he.1, he.2]
  · have hf : (kind e && decide (e.slot? = some slot)) = false := by simpa using he
    simp [jobsOf, List.filter, he, hf]

theorem length_jobsOf_concat :
    (jobsOf kind slot (h ++ [e])).length =
      (jobsOf kind slot h).length + if kind e = true ∧ e.slot? = some slot then 1 else 0 := by
  rw [jobsOf_concat, List.length_append]
  split <;> rfl

/-- An event of another kind or on another slot adds nothing. -/
theorem jobsOf_concat_of_not (he : ¬(kind e = true ∧ e.slot? = some slot)) :
    jobsOf kind slot (h ++ [e]) = jobsOf kind slot h := by
  rw [jobsOf_concat, if_neg he, List.append_nil]

/-- An event of the kind on the slot adds its job. -/
theorem jobsOf_concat_of (hk : kind e = true) (hs : e.slot? = some slot) :
    jobsOf kind slot (h ++ [e]) = jobsOf kind slot h ++ [e.job] := by
  rw [jobsOf_concat, if_pos ⟨hk, hs⟩]

theorem mem_jobsOf :
    job ∈ jobsOf kind slot h ↔ ∃ e ∈ h, kind e = true ∧ e.slot? = some slot ∧ e.job = job := by
  simp only [jobsOf, List.mem_map, List.mem_filter, Bool.and_eq_true, decide_eq_true_eq, and_assoc]

/-- A job is listed with the one event of the kind that is about it on the slot. -/
theorem mem_jobsOf_of_iff
    (he : ∀ e', kind e' = true ∧ e'.slot? = some slot ∧ e'.job = job ↔ e' = e) :
    job ∈ jobsOf kind slot h ↔ e ∈ h := by
  simp only [mem_jobsOf, he, exists_eq_right]

theorem jobsOf_sublist {kind' : Event → Bool} (hk : ∀ e, kind e = true → kind' e = true) :
    (jobsOf kind slot h).Sublist (jobsOf kind' slot h) := by
  refine (List.monotone_filter_right h fun e he => ?_).map _
  obtain ⟨he, hs⟩ := Bool.and_eq_true_iff.1 he
  rw [hk e he, hs, Bool.and_self]

theorem mem_accepted : job ∈ accepted slot h ↔ Event.accepted job slot ∈ h :=
  mem_jobsOf_of_iff fun e => by cases e <;> simp [Event.slot?, Event.job, and_comm]

theorem mem_begun : job ∈ begun slot h ↔ Event.begun job slot ∈ h :=
  mem_jobsOf_of_iff fun e => by cases e <;> simp [Event.slot?, Event.job, and_comm]

theorem mem_died : job ∈ died slot h ↔ Event.died job slot ∈ h :=
  mem_jobsOf_of_iff fun e => by cases e <;> simp [Event.slot?, Event.job, and_comm]

theorem mem_resolved :
    job ∈ resolved slot h ↔ ∃ outcome, Event.resolved job slot outcome ∈ h := by
  rw [mem_jobsOf]
  constructor
  · rintro ⟨e, he, hk, hs, rfl⟩
    cases e with
    | resolved job s outcome =>
        obtain rfl : s = slot := by simpa [Event.slot?] using hs
        exact ⟨outcome, he⟩
    | _ => simp at hk
  · rintro ⟨outcome, he⟩
    exact ⟨_, he, rfl, rfl, rfl⟩

theorem mem_settled : job ∈ settled slot h ↔ job ∈ resolved slot h ∨ job ∈ died slot h := by
  simp only [mem_jobsOf]
  constructor
  · rintro ⟨e, he, hk, hs, rfl⟩
    cases e with
    | resolved => exact Or.inl ⟨_, he, rfl, hs, rfl⟩
    | died => exact Or.inr ⟨_, he, rfl, hs, rfl⟩
    | _ => simp at hk
  · rintro (⟨e, he, hk, hs, rfl⟩ | ⟨e, he, hk, hs, rfl⟩)
    · exact ⟨e, he, by cases e <;> simp_all, hs, rfl⟩
    · exact ⟨e, he, by cases e <;> simp_all, hs, rfl⟩

/-- As long as no job dies, the jobs that leave a slot are the resolved ones. -/
theorem settled_eq_resolved (hd : died slot h = []) : settled slot h = resolved slot h := by
  rw [settled, resolved, jobsOf, jobsOf]
  congr 1
  refine List.filter_congr fun e he => ?_
  cases e with
  | died job s =>
      by_cases hs : s = slot
      · subst hs
        have : job ∈ died s h := mem_died.2 he
        simp [hd] at this
      · simp [Event.slot?, hs]
  | _ => rfl

end

/-! ### Counting -/

/-- How often an event of one kind is about a completion. -/
def times (kind : Event → Bool) (ticket : Ticket) (h : History) : Nat :=
  h.countP fun e => kind e && e.job.ticket = ticket

section

variable {kind : Event → Bool} {slot : Nat} {h : History} {job : Job}

/-- Events that are all about one job on one slot are counted by its place in the list. -/
theorem times_eq_count
    (hall : ∀ e ∈ h, kind e = true → e.job.ticket = job.ticket →
      e.slot? = some slot ∧ e.job = job) :
    times kind job.ticket h = (jobsOf kind slot h).count job := by
  rw [times, jobsOf, List.count, List.countP_map, List.countP_filter]
  refine List.countP_congr ?_
  intro e he
  constructor
  · intro hk
    obtain ⟨hk, ht⟩ : kind e = true ∧ e.job.ticket = job.ticket := by
      simpa only [Bool.and_eq_true, decide_eq_true_eq] using hk
    obtain ⟨hs, hj⟩ := hall e he hk ht
    simp only [Function.comp_apply, hk, hs, hj, beq_self_eq_true, decide_true, Bool.and_self]
  · intro hk
    obtain ⟨hj, hk, hs⟩ : e.job = job ∧ kind e = true ∧ e.slot? = some slot := by
      simpa only [Function.comp_apply, Bool.and_eq_true, beq_iff_eq, decide_eq_true_eq] using hk
    simp only [hk, hj, decide_true, Bool.and_self]

theorem times_le_one (hn : (jobsOf kind slot h).Nodup)
    (hall : ∀ e ∈ h, kind e = true → e.job.ticket = job.ticket →
      e.slot? = some slot ∧ e.job = job) :
    times kind job.ticket h ≤ 1 := by
  rw [times_eq_count hall]
  exact List.nodup_iff_count_le_one.1 hn job

theorem times_eq_one (hn : (jobsOf kind slot h).Nodup) (hj : job ∈ jobsOf kind slot h)
    (hall : ∀ e ∈ h, kind e = true → e.job.ticket = job.ticket →
      e.slot? = some slot ∧ e.job = job) :
    times kind job.ticket h = 1 := by
  rw [times_eq_count hall]
  exact List.count_eq_one_of_mem hn hj

end

end Offload.Pool

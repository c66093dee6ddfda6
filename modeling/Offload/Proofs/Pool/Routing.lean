/-
**Which slot a job is routed to.**

A submission holds the lock while it looks for a free slot, and meanwhile a free slot stays free,
because nobody else routes a job and no completion becomes unresolved again.  So whatever the
workers do during the search, a slot that was free at its beginning cannot be missed, and a slot
that was found busy was busy at its beginning.

Main definitions:

* `Pool.Scheduler.Onward` — the steps of the submission that holds the lock;
* `Pool.Run.IsClear` — every job accepted on a slot is resolved;
* `Pool.Run.Search` — **what a submission knows at every step of its search**;
* `Pool.Run.Chosen` — what is known of the slot that it chooses.

Main results:

* `Pool.Scheduler.isFree_mono` — a free slot stays free while the lock is held;
* `Pool.Run.Search.turn` — every turn keeps the knowledge right;
* `Pool.Run.chosen_of_search` — the slot that a submission chooses;
* `Pool.Run.routed_to_free` — **free slots are preferred in every run**.
-/

import Offload.Proofs.Pool.Tail

set_option autoImplicit false
set_option relaxedAutoImplicit false

namespace Offload.Pool

variable {ρ S : Type}

/-! ### The submission that holds the lock -/

namespace Scheduler

variable {exec : Executor ρ S} {s s' : Scheduler ρ S} {move : Move} {e : Option Event}

/-- The steps of the submission that holds the lock: where it stands, where it goes unless it gives
the lock back, the cursor afterwards, and what is shown. -/
inductive Onward (s : Scheduler ρ S) (job : Job) :
    SubmissionStep → Option SubmissionStep → Nat → Option Event → Prop
  | refuse (hclosed : s.pool.closed = true) :
      Onward s job .entering none s.pool.cursor (some (.refused job))
  | enter : Onward s job .entering (some .glancing) ((s.pool.cursor + 1) % s.pool.size) none
  | glanceFree (hfree : s.isFree s.pool.cursor = true) :
      Onward s job .glancing (some .enlisting) s.pool.cursor none
  | glanceBusy (hbusy : s.isFree s.pool.cursor = false) :
      Onward s job .glancing (some (.scanning s.pool.cursor 0)) s.pool.cursor none
  | scanFree (start offset : Nat) (hoffset : offset < s.pool.size)
      (hfree : s.isFree ((start + offset) % s.pool.size) = true) :
      Onward s job (.scanning start offset) (some .enlisting) ((start + offset) % s.pool.size) none
  | scanBusy (start offset : Nat) (hoffset : offset < s.pool.size)
      (hbusy : s.isFree ((start + offset) % s.pool.size) = false) :
      Onward s job (.scanning start offset) (some (.scanning start (offset + 1))) s.pool.cursor none
  | scanOut (start offset : Nat) (hoffset : s.pool.size ≤ offset) :
      Onward s job (.scanning start offset) (some .enlisting) s.pool.cursor none
  | enlist : Onward s job .enlisting (some .deepening) s.pool.cursor none
  | deepen : Onward s job .deepening (some .counting) s.pool.cursor none
  | count : Onward s job .counting (some .queueing) s.pool.cursor none
  | accept : Onward s job .queueing none s.pool.cursor (some (.accepted job s.pool.cursor))

/-- Every step either leaves the submission that holds the lock where it stands, or is one of its
own. -/
theorem onward_of_transition (ht : Transition exec s move e s') {job : Job} {next : SubmissionStep}
    (hsub : s.pool.submission = some ⟨job, next⟩) :
    (s'.pool.submission = some ⟨job, next⟩ ∧ s'.pool.cursor = s.pool.cursor) ∨
      ∃ next', Onward s job next next' s'.pool.cursor e ∧
        s'.pool.submission = next'.map (⟨job, ·⟩) := by
  -- a submission stands at one step only
  have hat {job' : Job} {next' : SubmissionStep}
      (h : s.pool.submission = some ⟨job', next'⟩) : job = job' ∧ next = next' := by
    simpa [hsub] using h
  cases ht with
  | lock _ hnone | closeAgain hnone | close hnone => simp [hsub] at hnone
  | refuse job' hsub' hclosed =>
      obtain ⟨rfl, rfl⟩ := hat hsub'
      exact Or.inr ⟨none, .refuse hclosed, rfl⟩
  | enter job' hsub' =>
      obtain ⟨rfl, rfl⟩ := hat hsub'
      exact Or.inr ⟨_, .enter, rfl⟩
  | glanceFree job' hsub' hfree =>
      obtain ⟨rfl, rfl⟩ := hat hsub'
      exact Or.inr ⟨_, .glanceFree hfree, rfl⟩
  | glanceBusy job' hsub' hbusy =>
      obtain ⟨rfl, rfl⟩ := hat hsub'
      exact Or.inr ⟨_, .glanceBusy hbusy, rfl⟩
  | scanFree job' start offset hsub' hoffset hfree =>
      obtain ⟨rfl, rfl⟩ := hat hsub'
      exact Or.inr ⟨_, .scanFree start offset hoffset hfree, rfl⟩
  | scanBusy job' start offset hsub' hoffset hbusy =>
      obtain ⟨rfl, rfl⟩ := hat hsub'
      exact Or.inr ⟨_, .scanBusy start offset hoffset hbusy, rfl⟩
  | scanOut job' start offset hsub' hoffset =>
      obtain ⟨rfl, rfl⟩ := hat hsub'
      exact Or.inr ⟨_, .scanOut start offset hoffset, rfl⟩
  | enlist job' hsub' =>
      obtain ⟨rfl, rfl⟩ := hat hsub'
      exact Or.inr ⟨_, .enlist, rfl⟩
  | deepen job' hsub' =>
      obtain ⟨rfl, rfl⟩ := hat hsub'
      exact Or.inr ⟨_, .deepen, rfl⟩
  | countSubmitted job' hsub' =>
      obtain ⟨rfl, rfl⟩ := hat hsub'
      exact Or.inr ⟨_, .count, rfl⟩
  | accept job' hsub' =>
      obtain ⟨rfl, rfl⟩ := hat hsub'
      exact Or.inr ⟨none, .accept, rfl⟩
  | finish _ _ _ _ _ _ _ _ hf | drainFinish _ _ _ _ _ _ hf =>
      obtain ⟨change, -, hfin⟩ := laneFinish_of_finishing hf
      exact Or.inl ⟨hfin.submission.trans hsub, hfin.cursor⟩
  | _ => exact Or.inl ⟨hsub, rfl⟩

/-! ### Free slots stay free -/

theorem isFree_eq_true {i : Nat} :
    s.isFree i = true ↔
      ∃ lane, s.pool.lanes[i]? = some lane ∧ lane.tail.all s.ledger.isResolved = true := by
  cases hl : s.pool.lanes[i]? <;> simp [isFree, hl]

theorem lt_of_isFree {i : Nat} (hfree : s.isFree i = true) : i < s.pool.size := by
  obtain ⟨lane, hl, -⟩ := isFree_eq_true.1 hfree
  exact lt_size_of_lane hl

theorem isResolved_of_transition (ht : Transition exec s move e s') {t : Ticket}
    (hr : s.ledger.isResolved t = true) : s'.ledger.isResolved t = true := by
  rcases ledger_of_transition ht with ⟨job, slot, outcome, -, hl⟩ | ⟨-, hl⟩
  · rw [hl]
    have hholds : s.ledger.Holds [t] t (.error .closed) := Ledger.holds_of_isResolved hr
    exact hholds.resolve.isResolved
  · rwa [Ledger.isResolved, Ledger.cell?, hl]

/-- **A free slot stays free**, unless a job is routed. -/
theorem isFree_mono (ht : Transition exec s move e s')
    (hkeep : ∀ job, s'.pool.submission ≠ some ⟨job, .deepening⟩) {i : Nat}
    (hfree : s.isFree i = true) : s'.isFree i = true := by
  obtain ⟨lane₀, hl₀, htail⟩ := isFree_eq_true.1 hfree
  have hlt : i < s'.pool.size := size_of_transition ht ▸ lt_size_of_lane hl₀
  obtain ⟨lane', hl'⟩ := exists_lane hlt
  refine isFree_eq_true.2 ⟨lane', hl', ?_⟩
  -- the tail is the one that it was, and resolved completions stay resolved
  obtain ⟨lane, hl, ⟨heq, -⟩ | ⟨job, hsub, -⟩⟩ := tail_of_transition (h := []) ht hl'
  · obtain rfl : lane = lane₀ := Option.some_inj.1 (hl.symm.trans hl₀)
    rw [heq]
    refine (Option.all_eq_true _ _).2 fun t ht' => ?_
    exact isResolved_of_transition ht ((Option.all_eq_true _ _).1 htail t ht')
  · exact absurd hsub (hkeep job)

end Scheduler

namespace Run

variable {exec : Executor ρ S} {r₀ r r' : Run ρ S} {t : Turn S} {ts : List (Turn S)} {job : Job}
  {next : SubmissionStep}

/-- The slot that the cursor moves on to. -/
def nextSlot (r : Run ρ S) : Nat := (r.pool.cursor + 1) % r.pool.size

/-- The slot that lies a number of places further on than the next one. -/
def slotAfter (r : Run ρ S) (k : Nat) : Nat := (r.nextSlot + k) % r.pool.size

theorem slotAfter_zero (r : Run ρ S) : r.slotAfter 0 = r.nextSlot := by
  rw [slotAfter, Nat.add_zero, nextSlot, Nat.mod_mod]

/-- Going through as many places as there are slots, one comes past every slot. -/
theorem exists_slotAfter {i : Nat} (hi : i < r.pool.size) :
    ∃ k < r.pool.size, r.slotAfter k = i := by
  have hpos : 0 < r.pool.size := Nat.lt_of_le_of_lt (Nat.zero_le i) hi
  have hnext : r.nextSlot < r.pool.size := Nat.mod_lt _ hpos
  by_cases hle : r.nextSlot ≤ i
  · refine ⟨i - r.nextSlot, by omega, ?_⟩
    have hsum : r.nextSlot + (i - r.nextSlot) = i := by omega
    rw [slotAfter, hsum, Nat.mod_eq_of_lt hi]
  · refine ⟨r.pool.size - r.nextSlot + i, by omega, ?_⟩
    have hsum : r.nextSlot + (r.pool.size - r.nextSlot + i) = i + r.pool.size := by omega
    rw [slotAfter, hsum, Nat.add_mod_right, Nat.mod_eq_of_lt hi]

/-! ### The search for a slot -/

/-- What a submission that stands at a step knows of the slots as they were when it took the
lock. -/
def Knows (r₀ r : Run ρ S) : SubmissionStep → Prop
  | .entering => r.pool.cursor = r₀.pool.cursor
  | .glancing => r.pool.cursor = r₀.nextSlot
  | .scanning start offset =>
      start = r₀.nextSlot ∧ r.pool.cursor = r₀.nextSlot ∧
        ∀ k < offset, r₀.scheduler.isFree (r₀.slotAfter k) = false
  | .enlisting =>
      (∃ k < r₀.pool.size, r.pool.cursor = r₀.slotAfter k ∧
          r.scheduler.isFree r.pool.cursor = true ∧
          ∀ j < k, r₀.scheduler.isFree (r₀.slotAfter j) = false) ∨
        (r.pool.cursor = r₀.nextSlot ∧
          ∀ k < r₀.pool.size, r₀.scheduler.isFree (r₀.slotAfter k) = false)
  | .deepening | .counting | .queueing => False

/-- A submission is searching for a slot: `r₀` is the run when it took the lock. -/
structure Search (r₀ r : Run ρ S) (job : Job) (next : SubmissionStep) : Prop where
  holds : r.pool.submission = some ⟨job, next⟩
  size : r.pool.size = r₀.pool.size
  free : ∀ i, r₀.scheduler.isFree i = true → r.scheduler.isFree i = true
  knows : Knows r₀ r next

/-- A submission that has made its choice, or has ended. -/
def IsPast (r : Run ρ S) (job : Job) : Prop :=
  (∃ next : SubmissionStep, next.isEnlisted = true ∧ r.pool.submission = some ⟨job, next⟩) ∨
    ∃ e ∈ r.history, e.isAnswer = true ∧ e.job = job

theorem Search.entering (hsub : r.pool.submission = some ⟨job, .entering⟩) :
    Search r r job .entering where
  holds := hsub
  size := rfl
  free _ hfree := hfree
  knows := rfl

/-- What was busy is known to have been busy from the beginning. -/
theorem Search.busy (hs : Search r₀ r job next) {i : Nat} (hbusy : r.scheduler.isFree i = false) :
    r₀.scheduler.isFree i = false := by
  refine Bool.eq_false_iff.2 fun hfree => ?_
  rw [hs.free i hfree] at hbusy
  cases hbusy

theorem Search.still (hs : Search r₀ r job next)
    (hsub : r'.pool.submission = some ⟨job, next⟩) (hcursor : r'.pool.cursor = r.pool.cursor)
    (hsize : r'.pool.size = r.pool.size)
    (hfree : ∀ i, r.scheduler.isFree i = true → r'.scheduler.isFree i = true) :
    Search r₀ r' job next where
  holds := hsub
  size := hsize.trans hs.size
  free i h := hfree i (hs.free i h)
  knows := by
    have hk := hs.knows
    cases next with
    | entering | glancing => exact hcursor.trans hk
    | scanning start offset => exact ⟨hk.1, hcursor.trans hk.2.1, hk.2.2⟩
    | enlisting =>
        rcases hk with ⟨k, hlt, hc, hf, hj⟩ | ⟨hc, hall⟩
        · exact Or.inl ⟨k, hlt, hcursor.trans hc, hcursor ▸ hfree _ hf, hj⟩
        · exact Or.inr ⟨hcursor.trans hc, hall⟩
    | _ => exact hk

/-- A step of the search adds to the knowledge. -/
theorem Search.onward (hs : Search r₀ r job next) {e : Option Event} {next' : SubmissionStep}
    (hon : Scheduler.Onward r.scheduler job next (some next') r'.pool.cursor e)
    (hnext : next'.isEnlisted = false)
    (hfree : ∀ i, r.scheduler.isFree i = true → r'.scheduler.isFree i = true) :
    Knows r₀ r' next' := by
  have hsize : r.scheduler.pool.size = r₀.pool.size := hs.size
  have hk := hs.knows
  generalize hc : r'.pool.cursor = cursor at hon
  cases hon with
  | enter =>
      have hcursor : r.scheduler.pool.cursor = r₀.pool.cursor := hk
      rw [Knows, hc, hsize, hcursor, nextSlot]
  | glanceFree hf =>
      have hcursor : r.scheduler.pool.cursor = r₀.nextSlot := hk
      have hpos : 0 < r₀.pool.size :=
        hsize ▸ Nat.lt_of_le_of_lt (Nat.zero_le _) (Scheduler.lt_of_isFree hf)
      refine Or.inl ⟨0, hpos, ?_, ?_, by simp⟩
      · rw [hc, hcursor, slotAfter_zero]
      · rw [hc]
        exact hfree _ hf
  | glanceBusy hb => exact ⟨hk, hc.trans hk, by simp⟩
  | scanFree start offset ho hf =>
      obtain ⟨rfl, -, hbusy⟩ := hk
      rw [hsize] at ho hf hc
      refine Or.inl ⟨offset, ho, hc, ?_, hbusy⟩
      rw [hc]
      exact hfree _ hf
  | scanBusy start offset ho hb =>
      -- what is busy now was busy when the lock was taken, because free slots stay free
      obtain ⟨rfl, hcursor, hbusy⟩ := hk
      refine ⟨rfl, hc.trans hcursor, fun k hlt => ?_⟩
      rcases Nat.lt_or_eq_of_le (Nat.lt_succ_iff.1 hlt) with hlt | rfl
      · exact hbusy k hlt
      · rw [hsize] at hb
        exact hs.busy hb
  | scanOut start offset ho =>
      obtain ⟨rfl, hcursor, hbusy⟩ := hk
      rw [hsize] at ho
      exact Or.inr ⟨hc.trans hcursor, fun k hlt => hbusy k (Nat.lt_of_lt_of_le hlt ho)⟩
  | enlist | deepen | count => cases hnext

/-- Outside of the lock nothing happens that a free slot would not survive. -/
theorem isFree_of_aside {i : Nat} (hp : r'.pool = r.pool)
    (hres : ∀ u, r.ledger.isResolved u = true → r'.ledger.isResolved u = true)
    (hfree : r.scheduler.isFree i = true) : r'.scheduler.isFree i = true := by
  obtain ⟨lane, hl, htail⟩ := Scheduler.isFree_eq_true.1 hfree
  have hl' : r'.scheduler.pool.lanes[i]? = some lane := (congrArg (·.lanes[i]?) hp).trans hl
  refine Scheduler.isFree_eq_true.2 ⟨lane, hl', (Option.all_eq_true _ _).2 fun t ht => ?_⟩
  exact hres t ((Option.all_eq_true _ _).1 htail t ht)

theorem mem_answer_of_onward {h : History} {e : Option Event} {cursor : Nat}
    (hon : Scheduler.Onward r.scheduler job next none cursor e) :
    ∃ e' ∈ h ++ e.toList, e'.isAnswer = true ∧ e'.job = job := by
  cases hon with
  | refuse => exact ⟨.refused job, by simp, rfl, rfl⟩
  | accept => exact ⟨.accepted job r.scheduler.pool.cursor, by simp, rfl, rfl⟩

/-- **Every turn keeps the knowledge of a search right**, until the choice has been made. -/
theorem Search.turn (hs : Search r₀ r job next) (ht : r.turn exec t = some r') :
    (∃ next', Search r₀ r' job next') ∨ IsPast r' job := by
  rcases turn_cases ht with ⟨move, s, e, -, -, hstep, rfl⟩ | ⟨hp, -, -, hres⟩
  · have hsize : s.pool.size = r.pool.size := size_of_transition hstep
    rcases Scheduler.onward_of_transition hstep hs.holds with ⟨hsub, hcursor⟩ | ⟨next', hon, hsub⟩
    · -- somebody else's step: it replaces no tail, because the lock is held
      refine Or.inl ⟨next, hs.still hsub hcursor hsize fun i => Scheduler.isFree_mono hstep ?_⟩
      rintro job' hdeep
      obtain ⟨rfl, rfl⟩ : job = job' ∧ next = .deepening := by simpa [hsub] using hdeep
      exact hs.knows
    · cases next' with
      | none => exact Or.inr (Or.inr (mem_answer_of_onward hon))
      | some next' =>
          cases hn : next'.isEnlisted with
          | true => exact Or.inr (Or.inl ⟨next', hn, hsub⟩)
          | false =>
              have hmono : ∀ i, r.scheduler.isFree i = true → s.isFree i = true := fun i =>
                Scheduler.isFree_mono hstep fun job' hdeep => by
                  obtain ⟨rfl, rfl⟩ : job = job' ∧ next' = .deepening := by
                    simpa [hsub] using hdeep
                  cases hn
              refine Or.inl ⟨next', hsub, hsize.trans hs.size, fun i hi => ?_, ?_⟩
              · exact hmono i (hs.free i hi)
              · exact hs.onward hon hn hmono
  · exact Or.inl ⟨next, hs.still (hp ▸ hs.holds) (hp ▸ rfl) (hp ▸ rfl) fun i =>
      isFree_of_aside hp hres⟩

/-- What is past stays past. -/
theorem IsPast.turn (hp : IsPast r job) (ht : r.turn exec t = some r') : IsPast r' job := by
  rcases hp with ⟨next, hn, hsub⟩ | ⟨e, he, hk, hj⟩
  · rcases turn_cases ht with ⟨move, s, e, -, -, hstep, rfl⟩ | ⟨hpool, -⟩
    · rcases Scheduler.onward_of_transition hstep hsub with ⟨hsub, -⟩ | ⟨next', hon, hsub⟩
      · exact Or.inl ⟨next, hn, hsub⟩
      · cases next' with
        | none => exact Or.inr (mem_answer_of_onward hon)
        | some next' =>
            refine Or.inl ⟨next', ?_, hsub⟩
            generalize s.pool.cursor = cursor at hon
            cases hon with
            | deepen | count => rfl
            | _ => cases hn
    · exact Or.inl ⟨next, hn, hpool ▸ hsub⟩
  · exact Or.inr ⟨e, history_subset_turn ht he, hk, hj⟩

theorem Search.turns (hs : Search r₀ r job next) (hr : turns exec ts r = some r') :
    (∃ next', Search r₀ r' job next') ∨ IsPast r' job := by
  refine foldlM_induction (motive := fun r' => (∃ next', Search r₀ r' job next') ∨ IsPast r' job) hr
    (Or.inl ⟨next, hs⟩) ?_
  rintro r₁ r₂ t (⟨next', hs'⟩ | hp) ht
  · exact hs'.turn ht
  · exact Or.inr (hp.turn ht)

theorem IsSound.not_isPast (hs : r.IsSound) (hsub : r.pool.submission = some ⟨job, .enlisting⟩) :
    ¬IsPast r job := by
  rintro (⟨next, hn, hsub'⟩ | ⟨e, he, hk, hj⟩)
  · rw [hsub] at hsub'
    cases hsub'
    cases hn
  · exact Sound.answer_ne_submission hs hsub he hk (congrArg Job.ticket hj)

/-- The knowledge with which a submission chooses. -/
theorem search_of_enlisting (hr : turns exec ts r₀ = some r) (hs : r.IsSound)
    (hsub₀ : r₀.pool.submission = some ⟨job, .entering⟩)
    (hsub : r.pool.submission = some ⟨job, .enlisting⟩) : Search r₀ r job .enlisting := by
  rcases (Search.entering hsub₀).turns hr with ⟨next, hsearch⟩ | hp
  · obtain rfl : next = .enlisting := by simpa [hsub] using hsearch.holds.symm
    exact hsearch
  · exact absurd hp (hs.not_isPast hsub)

/-! ### The slot that is chosen -/

/-- Every job accepted on the slot is resolved. -/
def IsClear (r : Run ρ S) (slot : Nat) : Prop :=
  ∀ job ∈ accepted slot r.history, r.ledger.isResolved job.ticket = true

/-- While nobody has replaced a tail without reaching the queue, a slot of an open pool is free
exactly when it is clear. -/
theorem isClear_iff (hs : r.IsSound) (hp : Tailed r.history r.pool)
    (hopen : r.pool.closed = false) (hsub : r.pool.submission = some ⟨job, next⟩)
    (hnext : next.isEnlisted = false) {i : Nat} (hi : i < r.pool.size) :
    r.IsClear i ↔ r.scheduler.isFree i = true := by
  obtain ⟨lane, hl⟩ := exists_lane hi
  have hrouted : routed i r.history r.scheduler.pool = accepted i r.history := by
    have hsub' : r.scheduler.pool.submission = some ⟨job, next⟩ := hsub
    rw [routed, enlisted_of_submission hsub', if_neg (by simp [hnext]), List.append_nil]
  rw [Sound.isFree_iff hs hp hopen hl, hrouted]
  rfl

/-- What is known of the slot at the cursor when a submission has chosen it: `r₀` is the run when
the submission took the lock. -/
structure Chosen (r₀ r : Run ρ S) : Prop where
  /-- If a slot was clear, the chosen one is. -/
  clear : (∃ i < r₀.pool.size, r₀.IsClear i) → r.IsClear r.pool.cursor
  /-- If no job has been resolved meanwhile, it is the first clear one after the cursor. -/
  first : (∀ i, resolved i r.history = resolved i r₀.history) →
    (∃ i < r₀.pool.size, r₀.IsClear i) →
    ∃ k < r₀.pool.size, r.pool.cursor = r₀.slotAfter k ∧ r₀.IsClear (r₀.slotAfter k) ∧
      ∀ j < k, ¬r₀.IsClear (r₀.slotAfter j)
  /-- If no slot has become clear, it is the next one. -/
  busy : (∀ i < r₀.pool.size, ¬r.IsClear i) → r.pool.cursor = r₀.nextSlot

/-- A clear slot was clear before if no job has been resolved since. -/
theorem IsClear.before (hs₀ : r₀.IsSound) (hs : r.IsSound) (hsub : r₀.history ⊆ r.history)
    (hsame : ∀ i, resolved i r.history = resolved i r₀.history) {i : Nat} (hclear : r.IsClear i) :
    r₀.IsClear i := by
  intro job hj
  have hacc₀ := mem_accepted.1 hj
  have hacc := hsub hacc₀
  have hr := (Sound.isResolved_iff hs hacc).1 (hclear job (mem_accepted.2 hacc))
  rw [hsame] at hr
  exact (Sound.isResolved_iff hs₀ hacc₀).2 hr

/-- **What a submission knows when it chooses makes its choice right.** -/
theorem chosen_of_search (hs₀ : r₀.IsSound) (hp₀ : Tailed r₀.history r₀.pool)
    (hopen₀ : r₀.pool.closed = false) (hsub₀ : r₀.pool.submission = some ⟨job, .entering⟩)
    (hs : r.IsSound) (hp : Tailed r.history r.pool) (hopen : r.pool.closed = false)
    (hhistory : r₀.history ⊆ r.history) (hsearch : Search r₀ r job .enlisting) :
    Chosen r₀ r := by
  have hclear₀ {i : Nat} (hi : i < r₀.pool.size) :=
    isClear_iff hs₀ hp₀ hopen₀ hsub₀ rfl hi
  have hclear {i : Nat} (hi : i < r₀.pool.size) :=
    isClear_iff hs hp hopen hsearch.holds rfl (hsearch.size ▸ hi)
  have hpos : 0 < r₀.pool.size := Nat.lt_of_le_of_lt (Nat.zero_le _) hs₀.phased.cursor_lt
  have hlt (k : Nat) : r₀.slotAfter k < r₀.pool.size := Nat.mod_lt _ hpos
  have hbusy {k : Nat} (hb : r₀.scheduler.isFree (r₀.slotAfter k) = false) :
      ¬r₀.IsClear (r₀.slotAfter k) := fun hx => by
    rw [(hclear₀ (hlt k)).1 hx] at hb
    cases hb
  rcases hsearch.knows with ⟨k, hk, hcursor, hfree, hj⟩ | ⟨hcursor, hall⟩
  · -- the slot at the cursor was found free, and those before it were busy
    have hclearCursor : r.IsClear r.pool.cursor :=
      (hclear (by rw [hcursor]; exact hlt k)).2 hfree
    refine ⟨fun _ => hclearCursor, fun hsame _ => ?_, fun hnone => ?_⟩
    · refine ⟨k, hk, hcursor, ?_, fun j hjk => hbusy (hj j hjk)⟩
      exact hcursor ▸ hclearCursor.before hs₀ hs hhistory hsame
    · exact absurd hclearCursor (hnone _ (by rw [hcursor]; exact hlt k))
  · -- all slots were busy
    have hnone : ¬∃ i < r₀.pool.size, r₀.IsClear i := by
      rintro ⟨i, hi, hx⟩
      obtain ⟨k, hk, rfl⟩ := exists_slotAfter hi
      exact hbusy (hall k hk) hx
    exact ⟨fun hx => absurd hx hnone, fun _ hx => absurd hx hnone, fun _ => hcursor⟩

/-! ### From the choice to the queue -/

/-- A submission that has chosen a slot and still holds the lock has its cursor there, and one that
has given it back has put its job into the queue there. -/
def IsBound (r : Run ρ S) (job : Job) (slot : Nat) : Prop :=
  (∃ next : SubmissionStep, (next = .enlisting ∨ next.isEnlisted = true) ∧
      r.pool.submission = some ⟨job, next⟩ ∧ r.pool.cursor = slot) ∨
    Event.accepted job slot ∈ r.history

/-- Every turn keeps a submission bound to its slot. -/
theorem IsBound.turn {slot : Nat} (hb : IsBound r job slot) (ht : r.turn exec t = some r') :
    IsBound r' job slot := by
  rcases hb with ⟨next, hn, hsub, hcursor⟩ | hacc
  · rcases turn_cases ht with ⟨move, s, e, -, -, hstep, rfl⟩ | ⟨hpool, -⟩
    · rcases Scheduler.onward_of_transition hstep hsub with ⟨hsub', hcursor'⟩ | ⟨next', hon, hsub'⟩
      · exact Or.inl ⟨next, hn, hsub', hcursor'.trans hcursor⟩
      · generalize hc : s.pool.cursor = cursor at hon
        cases hon with
        | enlist => exact Or.inl ⟨_, Or.inr rfl, hsub', hc.trans hcursor⟩
        | deepen => exact Or.inl ⟨_, Or.inr rfl, hsub', hc.trans hcursor⟩
        | count => exact Or.inl ⟨_, Or.inr rfl, hsub', hc.trans hcursor⟩
        | accept =>
            have hcursor' : r.scheduler.pool.cursor = slot := hcursor
            exact Or.inr (List.mem_append_right _ (by simp [hcursor']))
        | _ => rcases hn with hn | hn <;> cases hn
    · exact Or.inl ⟨next, hn, hpool ▸ hsub, hpool ▸ hcursor⟩
  · exact Or.inr (history_subset_turn ht hacc)

theorem slot_of_choice {slot : Nat} (hsub : r.pool.submission = some ⟨job, .enlisting⟩)
    (hr : turns exec ts r = some r') (hs' : r'.IsSound)
    (hacc : Event.accepted job slot ∈ r'.history) : slot = r.pool.cursor := by
  have hb : IsBound r' job r.pool.cursor :=
    foldlM_induction (motive := fun r' => IsBound r' job r.pool.cursor) hr
      (Or.inl ⟨_, Or.inl rfl, hsub, rfl⟩) fun _ _ _ hb ht => hb.turn ht
  rcases hb with ⟨next, -, hsub', -⟩ | hacc'
  · exact absurd rfl (Sound.answer_ne_submission hs' hsub' hacc rfl)
  · exact (Sound.accepted_inj hs' hacc hacc' rfl).2

/-- A submission that has not chosen a slot yet is still before its choice after a turn, unless it
is refused. -/
theorem turn_before_choice (hsub : r.pool.submission = some ⟨job, next⟩)
    (hnext : next.isEnlisted = false) (hne : next ≠ .enlisting) (ht : r.turn exec t = some r') :
    (∃ next' : SubmissionStep, next'.isEnlisted = false ∧
        r'.pool.submission = some ⟨job, next'⟩) ∨ Event.refused job ∈ r'.history := by
  rcases turn_cases ht with ⟨move, s, e, -, -, hstep, rfl⟩ | ⟨hpool, -⟩
  · rcases Scheduler.onward_of_transition hstep hsub with ⟨hsub', -⟩ | ⟨next', hon, hsub'⟩
    · exact Or.inl ⟨next, hnext, hsub'⟩
    · generalize s.pool.cursor = cursor at hon
      cases hon with
      | refuse => exact Or.inr (List.mem_append_right _ (by simp))
      | enter | glanceFree | glanceBusy | scanFree | scanBusy | scanOut =>
          exact Or.inl ⟨_, rfl, hsub'⟩
      | enlist => exact absurd rfl hne
      | deepen | count | accept => cases hnext
  · exact Or.inl ⟨next, hnext, hpool ▸ hsub⟩

theorem exists_choice {slot : Nat} (hs : r.IsSound)
    (hsub : r.pool.submission = some ⟨job, next⟩) (hnext : next.isEnlisted = false)
    (hr : turns exec ts r = some r') (hacc : Event.accepted job slot ∈ r'.history) :
    ∃ ts₁ ts₂ r₁, ts = ts₁ ++ ts₂ ∧ turns exec ts₁ r = some r₁ ∧ turns exec ts₂ r₁ = some r' ∧
      r₁.pool.submission = some ⟨job, .enlisting⟩ := by
  induction ts generalizing r next with
  | nil =>
      obtain rfl : r = r' := Option.some_inj.1 hr
      exact absurd rfl (Sound.answer_ne_submission hs hsub hacc rfl)
  | cons t ts ih =>
      by_cases hne : next = .enlisting
      · exact ⟨[], t :: ts, r, rfl, rfl, hr, hne ▸ hsub⟩
      · obtain ⟨r₁, ht, hr₁⟩ := Option.bind_eq_some_iff.1 hr
        have hs₁ : r₁.IsSound := hs.turn ht
        rcases turn_before_choice hsub hnext hne ht with ⟨next', hnext', hsub'⟩ | href
        · obtain ⟨ts₁, ts₂, r₂, rfl, h₁, h₂, hchoice⟩ := ih hs₁ hsub' hnext' hr₁
          exact ⟨t :: ts₁, ts₂, r₂, rfl, (foldlM_cons_of_eq_some ht).trans h₁, h₂, hchoice⟩
        · -- a job is not both refused and accepted
          have heq := Sound.answer_inj (hs₁.turns hr₁) (history_subset hr₁ href) hacc rfl rfl rfl
          cases heq

theorem size_eq {slots : Nat} {shared : S}
    (hr : turns exec ts (start slots shared) = some r) : r.pool.size = slots := by
  refine foldlM_induction (motive := fun r => r.pool.size = slots) hr ?_ fun r₁ r₂ t hsize ht => ?_
  · simp [start, pool, fresh, size]
  · rcases turn_cases ht with ⟨move, s, e, -, -, hstep, rfl⟩ | ⟨hpool, -⟩
    · exact (size_of_transition hstep).trans hsize
    · rw [hpool, hsize]

theorem cursor_of_accepted {slot : Nat} (ht : r.turn exec t = some r')
    (hacc : r'.history = r.history ++ [.accepted job slot]) : r'.pool.cursor = slot := by
  rcases turn_cases ht with ⟨move, s, e, -, -, hstep, rfl⟩ | ⟨-, hh, -⟩
  · obtain rfl : e = some (.accepted job slot) := by
      simpa [after] using hacc
    cases hstep with
    | accept => rfl
    | finish _ _ _ _ _ _ _ _ hf | drainFinish _ _ _ _ _ _ hf => cases hf
  · simp [hh] at hacc

/-- **Free slots are preferred in every run**: the tail of a slot is the completion of the last job
routed there; in an open pool it is resolved exactly when all jobs routed there are; and a
submission chooses a slot as `Chosen` says, puts its job into the queue there, and leaves the cursor
there. -/
theorem routed_to_free {slots : Nat} {shared : S} (hslots : 1 ≤ slots)
    (hr : turns exec ts (start slots shared) = some r) :
    r.pool.size = slots ∧ r.pool.cursor < slots ∧
    (∀ i lane, r.pool.lanes[i]? = some lane →
      lane.tail = lastTicket (routed i r.history r.pool)) ∧
    (r.pool.closed = false → ∀ i lane, r.pool.lanes[i]? = some lane →
      (lane.tail.all r.ledger.isResolved = true ↔
        ∀ job ∈ routed i r.history r.pool, r.ledger.isResolved job.ticket = true)) ∧
    (∀ job, r.pool.closed = false → r.pool.submission = some ⟨job, .entering⟩ →
      ∀ ts' r', turns exec ts' r = some r' →
        (r'.pool.submission = some ⟨job, .enlisting⟩ → Chosen r r' ∧
          ∀ ts'' r'' slot, turns exec ts'' r' = some r'' →
            Event.accepted job slot ∈ r''.history → slot = r'.pool.cursor) ∧
        ∀ slot, Event.accepted job slot ∈ r'.history →
          ∃ ts₁ ts₂ r₁, ts' = ts₁ ++ ts₂ ∧ turns exec ts₁ r = some r₁ ∧
            turns exec ts₂ r₁ = some r' ∧ r₁.pool.submission = some ⟨job, .enlisting⟩) ∧
    (∀ t r' job slot, r.turn exec t = some r' →
      r'.history = r.history ++ [.accepted job slot] → r'.pool.cursor = slot) := by
  have hs : r.IsSound := sound hslots hr
  have hp : Tailed r.history r.pool := tailed hr
  have hsize : r.pool.size = slots := size_eq hr
  refine ⟨hsize, hsize ▸ hs.phased.cursor_lt, hp, ?_, ?_, ?_⟩
  · intro hopen i lane hl
    have hfree : r.scheduler.isFree i = lane.tail.all r.ledger.isResolved := by
      have hl' : r.scheduler.pool.lanes[i]? = some lane := hl
      simp [Scheduler.isFree, hl', ledger]
    rw [← hfree]
    exact Sound.isFree_iff hs hp hopen hl
  · intro job hopen hsub ts' r' hr'
    have hs' : r'.IsSound := hs.turns hr'
    constructor
    · intro hsub'
      -- nobody closes a pool whose lock is held by a submission that has come past the check
      have hopen' : r'.pool.closed = false := by
        by_contra hclosed
        have hnext := hs'.phased.entering (eq_true_of_ne_false hclosed) _ hsub'
        cases hnext
      have hstart : turns exec (ts ++ ts') (start slots shared) = some r' :=
        foldlM_append_eq_some.2 ⟨r, hr, hr'⟩
      constructor
      · exact chosen_of_search hs hp hopen hsub hs' (tailed hstart) hopen' (history_subset hr')
          (search_of_enlisting hr' hs' hsub hsub')
      · intro ts'' r'' slot hr'' hacc
        exact slot_of_choice hsub' hr'' (hs'.turns hr'') hacc
    · intro slot hacc
      exact exists_choice hs hsub rfl hr' hacc
  · intro t r' job slot ht hacc
    exact cursor_of_accepted ht hacc

/-- Both of two slots have had a job, the one on the first slot is resolved, and a third submission
has the lock. -/
def nextBusy : List (Turn Unit) :=
  [.call, .call, .call] ++
    .move (.submit ⟨0, [7]⟩) :: Turn.often 6 .proceed ++
    .move (.submit ⟨1, [8]⟩) :: Turn.often 6 .proceed ++
    Turn.often 7 (.work 0) ++ [.move (.submit ⟨2, [9]⟩)]

theorem history_nextBusy :
    (turns echo nextBusy (start 2 ())).map (fun r =>
        (r.history, r.ledger.isResolved 1, r.pool.closed, r.pool.submission)) = some
      ([.accepted ⟨0, [7]⟩ 1, .accepted ⟨1, [8]⟩ 0, .begun ⟨1, [8]⟩ 0,
        .returned ⟨1, [8]⟩ 0 (.ok [8]), .resolved ⟨1, [8]⟩ 0 (.ok [8])], true, false,
        some ⟨⟨2, [9]⟩, .entering⟩) := by
  decide +kernel

theorem choice_nextBusy :
    (turns echo (nextBusy ++ Turn.often 4 .proceed) (start 2 ())).map (fun r =>
        (r.pool.submission, r.pool.cursor)) = some (some ⟨⟨2, [9]⟩, .enlisting⟩, 0) := by
  decide +kernel

/-- The third job goes to the first slot, although the cursor comes past the second one first. -/
theorem routed_to_free_nextBusy :
    ∃ r r', turns echo nextBusy (start 2 ()) = some r ∧
      turns echo (Turn.often 4 .proceed) r = some r' ∧ r'.pool.cursor = 0 ∧
      r'.IsClear r'.pool.cursor := by
  obtain ⟨r', hr', hchosen⟩ := Option.map_eq_some_iff.1 choice_nextBusy
  obtain ⟨hsub', hcursor⟩ := Prod.mk.inj hchosen
  obtain ⟨r, hr, hr'⟩ := foldlM_append_eq_some.1 hr'
  have heq := history_nextBusy
  rw [turns, hr, Option.map_some, Option.some.injEq] at heq
  simp only [Prod.mk.injEq] at heq
  obtain ⟨hh, hres, hopen, hsub⟩ := heq
  obtain ⟨hsize, -, -, -, hchoice, -⟩ := routed_to_free (by decide : 1 ≤ 2) hr
  have hchosen := ((hchoice _ hopen hsub _ _ hr').1 hsub').1
  refine ⟨r, r', hr, hr', hcursor, hchosen.clear ⟨0, by omega, fun job hj => ?_⟩⟩
  obtain rfl : job = ⟨1, [8]⟩ := by simpa [hh, jobsOf, List.filter, Event.slot?, Event.job] using hj
  exact hres

end Run

end Offload.Pool

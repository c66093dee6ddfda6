/-
**A burst of submissions.**

While no job is resolved, the slots that submissions choose are determined by the cursor and by the
slots that are free when the first of them takes the lock, whatever the workers and the callers do
in between: every submission replaces the tail of its slot, and nothing else changes which slots are
free.

Main definitions:

* `Pool.destinations` — the slots where jobs were accepted, in this order;
* `Pool.tail?` — the tail of a slot;
* `Pool.enlistedSlot`, `Pool.Stands` — the slot of a submission that has replaced a tail, and where
  a submission that has not stands in its search;
* `Pool.Run.Course` — **the invariant of a burst**.

Main results:

* `Pool.Scheduler.tail?_of_transition`, `Pool.Scheduler.tail?_of_enlist` — which step replaces a
  tail;
* `Pool.Run.Course.turn` — every turn keeps the invariant;
* `Pool.Run.course` — **so it holds through a burst**.
-/

import Offload.Proofs.Pool.Ring
import Offload.Proofs.Pool.Routing

set_option autoImplicit false
set_option relaxedAutoImplicit false

namespace Offload

/-! ### Completions that stay as they are -/

namespace Ledger

variable {l : Ledger} {t u : Ticket}

theorem isResolved_modify {change : Completion → Completion}
    (hsame : ∀ c, (change c).resolved = c.resolved) :
    (l.modify t change).isResolved u = l.isResolved u := by
  rw [isResolved, isResolved, cell?_modify]
  by_cases htu : t = u
  · rw [if_pos htu]
    cases l.cell? u <;> simp [hsame]
  · rw [if_neg htu]

@[simp] theorem isResolved_look (w : Waker) : (l.look t w).2.isResolved u = l.isResolved u :=
  isResolved_modify fun c => by cases hc : c.resolved <;> simp [Completion.look, hc]

@[simp] theorem isResolved_take : (l.take t).2.isResolved u = l.isResolved u :=
  isResolved_modify fun _ => rfl

@[simp] theorem isResolved_issue : l.issue.2.isResolved u = l.isResolved u := by
  rw [isResolved, isResolved, cell?, cell?, issue]
  rcases Nat.lt_trichotomy u l.cells.length with hu | rfl | hu
  · rw [List.getElem?_append_left hu]
  · simp [Completion.unresolved]
  · rw [List.getElem?_eq_none (by simp; omega), List.getElem?_eq_none (Nat.le_of_lt hu)]

theorem isResolved_of_le (h : l.cells.length ≤ t) : l.isResolved t = false := by
  simp [isResolved, cell?, List.getElem?_eq_none h]

end Ledger

namespace Pool

variable {ρ S : Type}

/-! ### Where jobs go -/

/-- The slot where a job is accepted. -/
def Event.destination? : Event → Option Nat
  | .accepted _ slot => some slot
  | _ => none

/-- The slots where jobs were accepted, in this order. -/
def destinations (h : History) : List Nat := h.filterMap Event.destination?

@[simp] theorem destinations_append (h h' : History) :
    destinations (h ++ h') = destinations h ++ destinations h' := List.filterMap_append

/-- The tail of a slot. -/
def tail? (p : Pool ρ) (slot : Nat) : Option (Option Ticket) := (p.lanes[slot]?).map (·.tail)

theorem tail?_modifyLane {p : Pool ρ} {slot : Nat} {change : Lane ρ → Lane ρ}
    (hsame : ∀ lane, (change lane).tail = lane.tail) (i : Nat) :
    (p.modifyLane slot change).tail? i = p.tail? i := by
  rw [tail?, tail?, modifyLane, List.getElem?_modify]
  by_cases hi : slot = i
  · cases p.lanes[i]? <;> simp [hi, hsame]
  · cases p.lanes[i]? <;> simp [hi]

namespace Scheduler

variable {exec : Executor ρ S} {s s' : Scheduler ρ S} {move : Move} {e : Option Event}

theorem isFree_eq_tail (s : Scheduler ρ S) (i : Nat) :
    s.isFree i = ((s.pool.tail? i).map (·.all s.ledger.isResolved)).getD false := by
  rw [isFree, tail?, Option.map_map]
  rfl

theorem tail?_of_finishing {slot : Nat} {f : Finish} {f' : Option Finish}
    (hf : Finishing s slot f f' e s') (i : Nat) : s'.pool.tail? i = s.pool.tail? i := by
  cases hf with
  | count job outcome => cases outcome <;> rfl
  | leave => exact tail?_modifyLane (by intro; rfl) i
  | resolve | wake => rfl

/-- Only the step that enlists a job replaces a tail. -/
theorem tail?_of_transition (ht : Transition exec s move e s')
    (hkeep : ∀ job, s.pool.submission = some ⟨job, .enlisting⟩ →
      s'.pool.submission ≠ some ⟨job, .deepening⟩) (i : Nat) :
    s'.pool.tail? i = s.pool.tail? i := by
  cases ht with
  | enlist job hsub => exact absurd rfl (hkeep job hsub)
  | finish _ _ _ _ _ _ _ _ hf =>
      exact (tail?_modifyLane (by intro; rfl) i).trans (tail?_of_finishing hf i :)
  | drainFinish _ _ _ _ _ _ hf => exact (tail?_of_finishing hf i :)
  | deepen | accept | start | miss | find | reject | begin | goOn | «return» | die | doubtOpen
  | doubtClosed | stop | drainFind => exact tail?_modifyLane (by intro; rfl) i
  | _ => rfl

/-- That step replaces the tail of the slot at the cursor. -/
theorem tail?_of_enlist (ht : Transition exec s move e s') {job : Job}
    (hsub : s.pool.submission = some ⟨job, .enlisting⟩)
    (hsub' : s'.pool.submission = some ⟨job, .deepening⟩) (i : Nat) :
    s'.pool.tail? i =
      if i = s.pool.cursor then (s.pool.tail? i).map fun _ => some job.ticket
      else s.pool.tail? i := by
  cases ht with
  | enlist job' hsub₀ =>
      obtain rfl : job = job' := by simpa [hsub] using hsub₀
      rw [tail?, tail?, modifyLane, List.getElem?_modify]
      by_cases hi : i = s.pool.cursor
      · subst hi
        cases s.pool.lanes[s.pool.cursor]? <;> simp
      · cases s.pool.lanes[i]? <;> simp [hi, Ne.symm hi]
  | finish _ _ _ _ _ _ _ _ hf | drainFinish _ _ _ _ _ _ hf =>
      obtain ⟨change, -, hfin⟩ := laneFinish_of_finishing hf
      have hsame := hfin.submission.symm.trans hsub'
      simp [hsub] at hsame
  | lock _ hnone | closeAgain hnone | close hnone => simp [hsub] at hnone
  | refuse _ hsub₀ | enter _ hsub₀ | glanceFree _ hsub₀ | glanceBusy _ hsub₀ | scanFree _ _ _ hsub₀
  | scanBusy _ _ _ hsub₀ | scanOut _ _ _ hsub₀ | deepen _ hsub₀ | countSubmitted _ hsub₀
  | accept _ hsub₀ => simp [hsub] at hsub₀
  | _ => simp [hsub] at hsub'

/-- A step that resolves no job leaves every completion as resolved as it was. -/
theorem isResolved_eq_of_transition (ht : Transition exec s move e s')
    (he : ∀ e', e = some e' → e'.isResolution = false) (t : Ticket) :
    s'.ledger.isResolved t = s.ledger.isResolved t := by
  rcases ledger_of_transition ht with ⟨job, slot, outcome, rfl, -⟩ | ⟨-, hl⟩
  · exact absurd (he _ rfl) (by simp)
  · rw [Ledger.isResolved, Ledger.isResolved, Ledger.cell?, Ledger.cell?, hl]

theorem destinations_of_held (ht : Transition exec s move e s') {submission : Submission}
    (hsub : s'.pool.submission = some submission) : destinations e.toList = [] := by
  cases ht with
  | accept => cases hsub
  | finish _ _ _ _ _ _ _ _ hf | drainFinish _ _ _ _ _ _ hf => cases hf <;> rfl
  | _ => rfl

theorem lock_of_transition (ht : Transition exec s move e s') (hsub : s.pool.submission = none) :
    s'.pool.cursor = s.pool.cursor ∧ destinations e.toList = [] ∧
      (s'.pool.submission = none ∨
        ∃ job, move = .submit job ∧ s'.pool.submission = some ⟨job, .entering⟩) := by
  cases ht with
  | lock job => exact ⟨rfl, rfl, Or.inr ⟨job, rfl, rfl⟩⟩
  | refuse _ hsub' | enter _ hsub' | glanceFree _ hsub' | glanceBusy _ hsub' | scanFree _ _ _ hsub'
  | scanBusy _ _ _ hsub' | scanOut _ _ _ hsub' | enlist _ hsub' | deepen _ hsub'
  | countSubmitted _ hsub' | accept _ hsub' =>
      rw [hsub] at hsub'
      cases hsub'
  | finish _ _ _ _ _ _ _ _ hf | drainFinish _ _ _ _ _ _ hf =>
      obtain ⟨change, -, hfin⟩ := laneFinish_of_finishing hf
      refine ⟨hfin.cursor, ?_, Or.inl (hfin.submission.trans hsub)⟩
      cases hf <;> rfl
  | _ => exact ⟨rfl, rfl, Or.inl hsub⟩

/-- Whether a slot is free depends on its tail and on what is resolved. -/
theorem isFree_congr {i : Nat} (htail : s'.pool.tail? i = s.pool.tail? i)
    (hres : ∀ t, s'.ledger.isResolved t = s.ledger.isResolved t) : s'.isFree i = s.isFree i := by
  have hsame : s'.ledger.isResolved = s.ledger.isResolved := funext hres
  rw [isFree_eq_tail, isFree_eq_tail, htail, hsame]

end Scheduler

/-! ### The course of a burst -/

/-- The slot of the submission that has replaced a tail and still holds the lock. -/
def enlistedSlot (p : Pool ρ) : List Nat :=
  match p.submission with
  | some submission => if submission.next.isEnlisted then [p.cursor] else []
  | none => []

/-- Where the cursor of `n` slots is while a submission stands at a step, or nobody holds the lock:
`free` are the slots that were free at the beginning, `c` was the cursor, and `sent` are the slots
that have been chosen since. -/
def Stands (n : Nat) (free : Nat → Bool) (c : Nat) (sent : List Nat) (cursor : Nat) :
    Option SubmissionStep → Prop
  | none | some .entering | some .deepening | some .counting | some .queueing =>
      cursor = cursorAfter c sent
  | some .glancing => cursor = (cursorAfter c sent + 1) % n
  | some (.scanning start offset) =>
      start = (cursorAfter c sent + 1) % n ∧ cursor = start ∧
        ∀ k < offset, freeAfter free sent ((start + k) % n) = false
  | some .enlisting => cursor = pick n (freeAfter free sent) (cursorAfter c sent)

namespace Run

variable {exec : Executor ρ S} {r₀ r r' : Run ρ S} {t : Turn S} {ts : List (Turn S)}
  {new : History} {sent : List Nat}

/-- **The invariant of a burst** that began in `r₀`: `new` is what has happened since, and `sent` are
the slots that have been chosen. -/
structure Course (r₀ r : Run ρ S) (new : History) (sent : List Nat) : Prop where
  size : r.pool.size = r₀.pool.size
  isResolved_eq : ∀ u, r.ledger.isResolved u = r₀.ledger.isResolved u
  calls : ∀ u ∈ r.calls, r.ledger.isResolved u = false
  job : ∀ submission, r.pool.submission = some submission →
    r.ledger.isResolved submission.job.ticket = false
  free : ∀ i, r.scheduler.isFree i = freeAfter r₀.scheduler.isFree sent i
  sent_eq : sent = route r₀.pool.size r₀.scheduler.isFree r₀.pool.cursor sent.length
  stands : Stands r₀.pool.size r₀.scheduler.isFree r₀.pool.cursor sent r.pool.cursor
    (r.pool.submission.map (·.next))
  destinations_eq : destinations new ++ enlistedSlot r.pool = sent

theorem Course.start (hlock : r₀.pool.submission = none)
    (hcalls : ∀ u ∈ r₀.calls, r₀.ledger.isResolved u = false) : Course r₀ r₀ [] [] where
  size := rfl
  isResolved_eq _ := rfl
  calls := hcalls
  job submission hsub := by simp [hlock] at hsub
  free i := by simp [freeAfter]
  sent_eq := rfl
  stands := by simp [hlock, Stands]
  destinations_eq := by simp [enlistedSlot, hlock, destinations]

theorem Course.aside (h : Course r₀ r new sent) (hp : r'.pool = r.pool)
    (hres : ∀ u, r'.ledger.isResolved u = r.ledger.isResolved u)
    (hcalls : ∀ u ∈ r'.calls, r.ledger.isResolved u = false) : Course r₀ r' (new ++ []) sent where
  size := by rw [hp, h.size]
  isResolved_eq u := by rw [hres, h.isResolved_eq]
  calls u hu := by rw [hres, hcalls u hu]
  job submission hsub := by rw [hres, h.job submission (hp ▸ hsub)]
  free i := by
    have htail : r'.scheduler.pool.tail? i = r.scheduler.pool.tail? i := congrArg (·.tail? i) hp
    rw [Scheduler.isFree_congr htail hres, h.free]
  sent_eq := h.sent_eq
  stands := by rw [hp]; exact h.stands
  destinations_eq := by rw [List.append_nil, hp, h.destinations_eq]

/-- A step that chooses no slot: what is left to be seen to is where the cursor is. -/
theorem Course.still (h : Course r₀ r new sent) {move : Move} {e : Option Event}
    {s : Scheduler ρ S} (hstep : Scheduler.Transition exec r.scheduler move e s)
    (hready : IsReady r.calls move) (hres : ∀ e', e = some e' → e'.isResolution = false)
    (hkeep : ∀ job, r.pool.submission = some ⟨job, .enlisting⟩ →
      s.pool.submission ≠ some ⟨job, .deepening⟩)
    (hjob : ∀ submission, s.pool.submission = some submission →
      r.ledger.isResolved submission.job.ticket = false)
    (hstands : Stands r₀.pool.size r₀.scheduler.isFree r₀.pool.cursor sent s.pool.cursor
      (s.pool.submission.map (·.next)))
    (hslots : destinations e.toList ++ enlistedSlot s.pool = enlistedSlot r.pool) :
    Course r₀ (r.after move s e) (new ++ e.toList) sent := by
  have hsame := Scheduler.isResolved_eq_of_transition hstep hres
  refine ⟨(size_of_transition hstep).trans h.size, fun u => (hsame u).trans (h.isResolved_eq u),
    fun u hu => (hsame u).trans (h.calls u ?_), fun sub hsub => (hsame _).trans (hjob sub hsub),
    fun i => ?_, h.sent_eq, hstands, ?_⟩
  · exact (perm_callsAfter hready).subset (List.mem_append_right _ hu)
  · exact (Scheduler.isFree_congr (Scheduler.tail?_of_transition hstep hkeep i) hsame).trans
      (h.free i)
  · rw [destinations_append, List.append_assoc]
    exact (congrArg (destinations new ++ ·) hslots).trans h.destinations_eq

/-- A search that goes on finds out where `pick` leads. -/
theorem Course.stands_onward (h : Course r₀ r new sent) {job : Job} {next : SubmissionStep}
    {next' : Option SubmissionStep} {cursor : Nat} {e : Option Event}
    (hsub : r.pool.submission = some ⟨job, next⟩)
    (hon : Scheduler.Onward r.scheduler job next next' cursor e) (hne : next ≠ .enlisting) :
    Stands r₀.pool.size r₀.scheduler.isFree r₀.pool.cursor sent cursor next' := by
  have hst := h.stands
  have hsize : r.scheduler.pool.size = r₀.pool.size := h.size
  simp only [hsub, Option.map_some] at hst
  cases hon with
  | refuse | deepen | count | accept => exact hst
  | enter =>
      have hcursor : r.scheduler.pool.cursor = cursorAfter r₀.pool.cursor sent := hst
      rw [Stands, hsize, hcursor]
  | glanceFree hfree =>
      have hcursor : r.scheduler.pool.cursor = (cursorAfter r₀.pool.cursor sent + 1) % r₀.pool.size :=
        hst
      have hpos : 0 < r₀.pool.size := hsize ▸ Nat.zero_lt_of_lt (Scheduler.lt_of_isFree hfree)
      rw [h.free, hcursor] at hfree
      rw [Stands, hcursor, pick_of_free hpos (by simpa using hfree) (by simp)]
      simp
  | glanceBusy => exact ⟨hst, rfl, by simp⟩
  | scanFree start offset hoffset hfree =>
      obtain ⟨rfl, -, hbusy⟩ := hst
      rw [hsize] at hoffset hfree ⊢
      rw [h.free] at hfree
      exact (pick_of_free hoffset hfree hbusy).symm
  | scanBusy start offset hoffset hbusy =>
      obtain ⟨hstart, hcursor, hall⟩ := hst
      rw [hsize, h.free] at hbusy
      refine ⟨hstart, hcursor, fun k hk => ?_⟩
      rcases Nat.lt_or_eq_of_le (Nat.lt_succ_iff.1 hk) with hk | rfl
      · exact hall k hk
      · exact hbusy
  | scanOut start offset hoffset =>
      obtain ⟨rfl, hcursor, hall⟩ := hst
      rw [hsize] at hoffset
      exact hcursor.trans (pick_of_busy fun k hk => hall k (Nat.lt_of_lt_of_le hk hoffset)).symm
  | enlist => exact absurd rfl hne

theorem slots_onward {s : Scheduler ρ S} {job : Job} {next : SubmissionStep}
    {next' : Option SubmissionStep} {e : Option Event}
    (hsub : r.pool.submission = some ⟨job, next⟩)
    (hon : Scheduler.Onward r.scheduler job next next' s.pool.cursor e)
    (hsub' : s.pool.submission = next'.map (⟨job, ·⟩)) (hne : next ≠ .enlisting) :
    destinations e.toList ++ enlistedSlot s.pool = enlistedSlot r.pool := by
  rw [enlistedSlot, enlistedSlot, hsub, hsub']
  generalize hc : s.pool.cursor = cursor at hon
  cases hon with
  | enlist => exact absurd rfl hne
  | _ => rfl

/-- The step that enlists a job adds its slot to those that have been chosen. -/
theorem Course.enlist (h : Course r₀ r new sent) {s : Scheduler ρ S} {job : Job} {move : Move}
    {e : Option Event} (hstep : Scheduler.Transition exec r.scheduler move e s)
    (hready : IsReady r.calls move) (hres : ∀ e', e = some e' → e'.isResolution = false)
    (hsub : r.pool.submission = some ⟨job, .enlisting⟩)
    (hsub' : s.pool.submission = some ⟨job, .deepening⟩)
    (hcursor : s.pool.cursor = r.pool.cursor) (he : destinations e.toList = []) :
    Course r₀ (r.after move s e) (new ++ e.toList) (sent ++ [r.pool.cursor]) := by
  have hsame := Scheduler.isResolved_eq_of_transition hstep hres
  have hjob := h.job _ hsub
  have hslot : r.pool.cursor =
      pick r₀.pool.size (freeAfter r₀.scheduler.isFree sent) (cursorAfter r₀.pool.cursor sent) := by
    have hst := h.stands
    rwa [hsub] at hst
  refine ⟨(size_of_transition hstep).trans h.size, fun u => (hsame u).trans (h.isResolved_eq u),
    fun u hu => (hsame u).trans (h.calls u ?_), fun sub hs => ?_, fun i => ?_, ?_, ?_, ?_⟩
  · exact (perm_callsAfter hready).subset (List.mem_append_right _ hu)
  · obtain rfl : sub = ⟨job, .deepening⟩ := by simpa [after, pool, hsub'] using hs.symm
    exact (hsame _).trans hjob
  · -- the slot at the cursor is not free any more, the others are as they were
    have hold := h.free i
    have hsame' : s.ledger.isResolved = r.ledger.isResolved := funext hsame
    have hnew : s.isFree i = (!decide (i = r.pool.cursor) && r.scheduler.isFree i) := by
      rw [Scheduler.isFree_eq_tail, Scheduler.isFree_eq_tail,
        Scheduler.tail?_of_enlist hstep hsub hsub', hsame']
      by_cases hi : i = r.scheduler.pool.cursor
      · cases htail : r.scheduler.pool.tail? i <;> simp [hi, pool, hjob]
      · simp [hi, pool, ledger]
    rw [after, hnew, hold, freeAfter, freeAfter]
    by_cases hi : i = r.pool.cursor <;> simp [hi]
  · rw [List.length_append, List.length_singleton, route, ← h.sent_eq, ← hslot]
  · simp [after, pool, hsub', Stands, hcursor]
  · simp [after, pool, hsub', enlistedSlot, SubmissionStep.isEnlisted, hcursor, he]
    have := h.destinations_eq
    simp [enlistedSlot, hsub, SubmissionStep.isEnlisted] at this
    exact this

/-- A step that finds the lock free leaves it free, or a submission takes it. -/
theorem Course.unlocked (h : Course r₀ r new sent) {s : Scheduler ρ S} {move : Move}
    {e : Option Event} (hstep : Scheduler.Transition exec r.scheduler move e s)
    (hready : IsReady r.calls move) (hres : ∀ e', e = some e' → e'.isResolution = false)
    (hsub : r.pool.submission = none) : Course r₀ (r.after move s e) (new ++ e.toList) sent := by
  obtain ⟨hcursor, he, hlock⟩ := Scheduler.lock_of_transition hstep hsub
  have hst : r.scheduler.pool.cursor = cursorAfter r₀.pool.cursor sent := by
    have hst := h.stands
    rwa [hsub] at hst
  rcases hlock with hnone | ⟨job, rfl, hentering⟩
  · refine h.still hstep hready hres (by simp [hsub]) (by simp [hnone]) ?_ ?_
    · rw [hnone]
      exact hcursor.trans hst
    · rw [he, enlistedSlot, enlistedSlot, hsub, hnone]
      rfl
  · refine h.still hstep hready hres (by simp [hsub]) (fun sub hs => ?_) ?_ ?_
    · obtain rfl : sub = ⟨job, .entering⟩ := by simpa [hentering] using hs.symm
      exact h.calls _ hready
    · rw [hentering]
      exact hcursor.trans hst
    · rw [he, enlistedSlot, enlistedSlot, hsub, hentering]
      rfl

/-- A step that finds the lock held is the next one of the submission that holds it, or somebody
else's. -/
theorem Course.locked (h : Course r₀ r new sent) {s : Scheduler ρ S} {move : Move}
    {e : Option Event} (hstep : Scheduler.Transition exec r.scheduler move e s)
    (hready : IsReady r.calls move) (hres : ∀ e', e = some e' → e'.isResolution = false) {job : Job}
    {next : SubmissionStep} (hsub : r.pool.submission = some ⟨job, next⟩) :
    ∃ sent', Course r₀ (r.after move s e) (new ++ e.toList) sent' := by
  rcases Scheduler.onward_of_transition hstep hsub with ⟨hsub', hcursor⟩ | ⟨next', hon, hsub'⟩
  · have he := Scheduler.destinations_of_held hstep hsub'
    refine ⟨sent, h.still hstep hready hres (fun job' henl => ?_) (fun sub hs => ?_) ?_ ?_⟩
    · rw [hsub', ← hsub, henl]
      simp
    · exact h.job sub (hsub.trans (hsub'.symm.trans hs))
    · rw [hcursor, hsub', ← hsub]
      exact h.stands
    · rw [he, enlistedSlot, enlistedSlot, hsub', hsub, hcursor]
      rfl
  · by_cases hne : next = .enlisting
    · subst hne
      generalize hc : s.pool.cursor = cursor at hon
      cases hon with
      | enlist => exact ⟨_, h.enlist hstep hready hres hsub hsub' hc rfl⟩
    · refine ⟨sent, h.still hstep hready hres (fun job' henl => ?_) (fun sub hs => ?_) ?_
        (slots_onward hsub hon hsub' hne)⟩
      · rw [hsub, Option.some.injEq, Submission.mk.injEq] at henl
        exact absurd henl.2 hne
      · rw [hsub'] at hs
        obtain ⟨_, -, rfl⟩ := Option.map_eq_some_iff.1 hs
        exact h.job ⟨job, next⟩ hsub
      · have hst := h.stands_onward hsub hon hne
        rw [hsub', Option.map_map]
        simpa [Function.comp_def] using hst

/-- **Every turn keeps the invariant of a burst** unless it resolves a job. -/
theorem Course.turn (h : Course r₀ r new sent) (ht : r.turn exec t = some r') {new' : History}
    (hnew : r'.history = r.history ++ new') (hres : ∀ e ∈ new', e.isResolution = false) :
    ∃ sent', Course r₀ r' (new ++ new') sent' := by
  cases turned_of_turn ht with
  | call =>
      obtain rfl : new' = [] := by simpa [withLedger] using hnew
      refine ⟨sent, h.aside rfl (fun _ => Ledger.isResolved_issue) fun u hu => ?_⟩
      rcases List.mem_append.1 hu with hu | hu
      · exact h.calls u hu
      · rw [List.mem_singleton.1 hu]
        exact Ledger.isResolved_of_le (Nat.le_refl _)
  | look u w =>
      obtain rfl : new' = [] := by simpa [withLedger] using hnew
      exact ⟨sent, h.aside rfl (fun _ => Ledger.isResolved_look w) h.calls⟩
  | take u =>
      obtain rfl : new' = [] := by simpa [withLedger] using hnew
      exact ⟨sent, h.aside rfl (fun _ => Ledger.isResolved_take) h.calls⟩
  | share =>
      obtain rfl : new' = [] := by simpa using hnew
      exact ⟨sent, h.aside rfl (fun _ => rfl) h.calls⟩
  | move move s e hready hstep =>
      obtain rfl : new' = e.toList := (List.append_cancel_left hnew).symm
      have hres' : ∀ e', e = some e' → e'.isResolution = false := fun e' he =>
        hres e' (by simp [he])
      cases hsub : r.pool.submission with
      | none => exact ⟨sent, h.unlocked hstep hready hres' hsub⟩
      | some submission => exact h.locked hstep hready hres' hsub

/-- So does a whole burst. -/
theorem course (hlock : r₀.pool.submission = none)
    (hcalls : ∀ u ∈ r₀.calls, r₀.ledger.isResolved u = false) (hr : turns exec ts r₀ = some r)
    (hnew : r.history = r₀.history ++ new) (hres : ∀ e ∈ new, e.isResolution = false) :
    ∃ sent, Course r₀ r new sent := by
  suffices h : ∃ new, r.history = r₀.history ++ new ∧
      ((∀ e ∈ new, e.isResolution = false) → ∃ sent, Course r₀ r new sent) by
    obtain ⟨new', hnew', hcourse⟩ := h
    obtain rfl : new = new' := List.append_cancel_left (hnew.symm.trans hnew')
    exact hcourse hres
  refine foldlM_induction (motive := fun r => ∃ new, r.history = r₀.history ++ new ∧
    ((∀ e ∈ new, e.isResolution = false) → ∃ sent, Course r₀ r new sent)) hr
    ⟨[], by simp, fun _ => ⟨[], .start hlock hcalls⟩⟩ ?_
  rintro r₁ r₂ t ⟨new₁, hnew₁, hcourse⟩ ht
  obtain ⟨new₂, hnew₂⟩ : ∃ new₂, r₂.history = r₁.history ++ new₂ := by
    rcases turn_cases ht with ⟨move, s, e, -, -, -, rfl⟩ | ⟨-, hh, -⟩
    · exact ⟨e.toList, rfl⟩
    · exact ⟨[], by rw [hh, List.append_nil]⟩
  refine ⟨new₁ ++ new₂, by rw [hnew₂, hnew₁, List.append_assoc], fun hres => ?_⟩
  obtain ⟨sent, h⟩ := hcourse fun e' he => hres e' (List.mem_append_left _ he)
  exact h.turn ht hnew₂ fun e' he => hres e' (List.mem_append_right _ he)

end Run

end Pool

end Offload

/-
**One completion, polled, awaited and resolved by many threads.**

A completion is resolved by one thread and asked for its outcome by others.  Each of these calls
consists of critical sections, and those of different threads come in any order: a call that has
seen that the completion is resolved takes the outcome in a section of its own, and the thread that
has resolved it notifies the sleeping waits and wakes the waker only after it has let the lock go.
What is seen of the completion from outside is recorded in a trace.

A section is one act, also for the flag that is read without the lock: such a reader sees the flag
and nothing else, and the section that sets it does so once.

Main definitions:

* `Completion.lookKeeping` — looking at a completion, where a waker that would wake the same task is
  kept instead of being replaced;
* `Watch` — a completion, the threads that stand between two of their sections, and the trace;
* `Watch.Act`, `Watch.step`, `Watch.steps` — the critical sections, in any order;
* `Watch.PendingOrResolved` — **the invariant**.

Main results:

* `Completion.lookKeeping_eq_look` — keeping such a waker comes to replacing it;
* `Watch.PendingOrResolved.step` — every section keeps the invariant;
* `Watch.one_shot` — **the outcome is delivered once, the last waker is woken once, and none is
  lost**.
-/

import Mathlib.Data.List.Basic
import Offload.Completion
import Offload.Proofs.Runs

set_option autoImplicit false
set_option relaxedAutoImplicit false

namespace Offload

/-! ### Looking at a completion -/

/-- Looking at a completion leaves the waker alone that it holds if that one would wake the same
task. -/
def Completion.lookKeeping (willWake : Waker → Waker → Bool) (waker : Waker) (c : Completion) :
    Bool × Completion :=
  if c.resolved then (true, c)
  else match c.waker with
    | some held =>
        if willWake held waker then (false, c) else (false, { c with waker := some waker })
    | none => (false, { c with waker := some waker })

/-- **Keeping a waker comes to replacing it**, if only a waker of the same task is kept. -/
theorem Completion.lookKeeping_eq_look {willWake : Waker → Waker → Bool}
    (hsame : ∀ w w', willWake w w' = true → w = w') (waker : Waker) (c : Completion) :
    c.lookKeeping willWake waker = c.look waker := by
  obtain ⟨resolved, outcome, held⟩ := c
  cases resolved with
  | true => rfl
  | false =>
      cases held with
      | none => rfl
      | some held =>
          by_cases hkeep : willWake held waker = true
          · simp [lookKeeping, look, hsame held waker hkeep]
          · simp [lookKeeping, look, hkeep]

/-! ### Threads and their sections -/

/-- What is seen of a completion from outside. -/
inductive Watch.Report where
  /-- A poll came back without an outcome and has left its waker behind. -/
  | pending (waker : Waker)
  /-- A poll or a wait came back with an outcome. -/
  | returned (outcome : Outcome Bytes)
  /-- Whether the job is finished. -/
  | finished (answer : Bool)
  /-- The result has become visible. -/
  | resolved (result : Outcome Bytes)
  | woken (waker : Waker)
  deriving DecidableEq

/-- A completion together with the threads that use it. -/
structure Watch where
  cell : Completion
  /-- The waits that sleep until they are notified. -/
  asleep : Nat
  /-- The polls and waits that have seen the flag and have yet to take the outcome. -/
  collecting : Nat
  /-- The threads that have resolved the completion and have yet to notify the sleeping waits, with
  the wakers that came out. -/
  notifying : List (Option Waker)
  /-- The wakers that threads have yet to wake. -/
  waking : List Waker
  trace : List Watch.Report
  deriving DecidableEq

namespace Watch

/-- A critical section, or what a thread does between two of them. -/
inductive Act where
  | isFinished
  /-- A poll looks at the completion. -/
  | poll (waker : Waker)
  /-- A wait looks at the completion and falls asleep if it is unresolved. -/
  | wait
  /-- A sleeping wait wakes up of its own. -/
  | rouse
  /-- A poll or a wait that has seen the flag takes the outcome. -/
  | collect
  | resolve (result : Outcome Bytes)
  /-- A thread that has resolved the completion notifies the sleeping waits. -/
  | notify (waker : Option Waker)
  /-- It wakes the waker that came out. -/
  | wake (waker : Waker)
  deriving DecidableEq

/-- The acts by which a thread finishes what it began when it resolved the completion. -/
def Act.isErrand : Act → Bool
  | .notify _ | .wake _ => true
  | _ => false

/-- The completion of a job that has just been submitted. -/
def fresh : Watch := ⟨.unresolved, 0, 0, [], [], []⟩

/-- The wakers that have come out of the completion and have yet to be woken. -/
def owed (s : Watch) : List Waker := s.waking ++ s.notifying.filterMap id

variable (willWake : Waker → Waker → Bool)

/-- One act, which is missing when no thread stands where it would be made. -/
def step (s : Watch) : Act → Option Watch
  | .isFinished => some { s with trace := s.trace ++ [.finished s.cell.resolved] }
  | .poll waker =>
      match s.cell.lookKeeping willWake waker with
      | (true, cell) => some { s with cell, collecting := s.collecting + 1 }
      | (false, cell) => some { s with cell, trace := s.trace ++ [.pending waker] }
  | .wait =>
      if s.cell.resolved then some { s with collecting := s.collecting + 1 }
      else some { s with asleep := s.asleep + 1 }
  | .rouse => if s.asleep = 0 then none else some { s with asleep := s.asleep - 1 }
  | .collect =>
      if s.collecting = 0 then none
      else
        let (outcome, cell) := s.cell.take
        some { s with
          cell, collecting := s.collecting - 1, trace := s.trace ++ [.returned outcome] }
  | .resolve result =>
      let (waker, cell) := s.cell.resolve result
      if s.cell.resolved then some { s with cell }
      else some { s with
        cell, notifying := s.notifying ++ [waker], trace := s.trace ++ [.resolved result] }
  | .notify waker =>
      if waker ∈ s.notifying then
        some { s with
          asleep := 0
          notifying := s.notifying.erase waker
          waking := s.waking ++ waker.toList }
      else none
  | .wake waker =>
      if waker ∈ s.waking then
        some { s with waking := s.waking.erase waker, trace := s.trace ++ [.woken waker] }
      else none

/-- Many acts. -/
def steps (acts : List Act) (s : Watch) : Option Watch := acts.foldlM (step willWake) s

/-! ### Reading a trace -/

namespace Report

/-- What may be seen before the completion is resolved. -/
def isEarly : Report → Bool
  | .pending _ | .finished false => true
  | _ => false

/-- What may be seen after it has been resolved. -/
def isLate : Report → Bool
  | .returned _ | .finished true | .woken _ => true
  | _ => false

/-- The waker that a pending poll has left behind. -/
def left? : Report → Option Waker
  | .pending waker => some waker
  | _ => none

def woken? : Report → Option Waker
  | .woken waker => some waker
  | _ => none

def outcome? : Report → Option (Outcome Bytes)
  | .returned outcome => some outcome
  | _ => none

end Report

/-- The wakers of the pending polls, in their order. -/
def left (trace : List Report) : List Waker := trace.filterMap Report.left?

/-- The wakers that have been woken. -/
def woken (trace : List Report) : List Waker := trace.filterMap Report.woken?

/-- The outcomes with which polls and waits came back. -/
def outcomes (trace : List Report) : List (Outcome Bytes) := trace.filterMap Report.outcome?

@[simp] theorem left_append (tr tr' : List Report) : left (tr ++ tr') = left tr ++ left tr' :=
  List.filterMap_append

@[simp] theorem left_cons (e : Report) (tr : List Report) :
    left (e :: tr) = e.left?.toList ++ left tr := by
  cases e <;> rfl

@[simp] theorem left_nil : left [] = [] := rfl

@[simp] theorem woken_nil : woken [] = [] := rfl

@[simp] theorem woken_concat (tr : List Report) (e : Report) :
    woken (tr ++ [e]) = woken tr ++ e.woken?.toList := by
  cases e <;> simp [woken, Report.woken?]

@[simp] theorem outcomes_concat (tr : List Report) (e : Report) :
    outcomes (tr ++ [e]) = outcomes tr ++ e.outcome?.toList := by
  cases e <;> simp [outcomes, Report.outcome?]

theorem left_eq_nil {tr : List Report} (hlate : ∀ e ∈ tr, e.isLate = true) : left tr = [] :=
  List.filterMap_eq_nil_iff.2 fun e he => by
    have := hlate e he
    cases e <;> simp_all [Report.isLate, Report.left?]

theorem mem_of_mem_woken {tr : List Report} {w : Waker} (hw : w ∈ woken tr) : .woken w ∈ tr := by
  obtain ⟨e, he, hew⟩ := List.mem_filterMap.1 hw
  cases e <;> simp_all [Report.woken?]

/-! ### The invariant -/

/-- How far the thread that has resolved the completion has come, if `waker` came out: it has yet
to notify the sleeping waits, it has yet to wake the waker, or it is done. -/
inductive Errand (waker : Option Waker) : List (Option Waker) → List Waker → List Waker → Prop
  | notify : Errand waker [waker] [] []
  | wake : Errand waker [] waker.toList []
  | done : Errand waker [] [] waker.toList

/-- The outcome is in the completion until the first call takes it; the calls that come later find
it closed. -/
inductive Delivery (result : Outcome Bytes) : Option (Outcome Bytes) → List (Outcome Bytes) → Prop
  | open : Delivery result (some result) []
  | made (n : Nat) : Delivery result none (result :: List.replicate n (.error .closed))

section

variable {waker : Option Waker} {notifying : List (Option Waker)} {waking already : List Waker}
  {result : Outcome Bytes} {held : Option (Outcome Bytes)} {earlier : List (Outcome Bytes)}

theorem Errand.notified (h : Errand waker notifying waking already) {w : Option Waker}
    (hw : w ∈ notifying) :
    Errand waker (notifying.erase w) (waking ++ w.toList) already := by
  cases h with
  | notify =>
      obtain rfl := List.mem_singleton.1 hw
      simpa using Errand.wake
  | wake | done => cases hw

theorem Errand.woke (h : Errand waker notifying waking already) {w : Waker} (hw : w ∈ waking) :
    Errand waker notifying (waking.erase w) (already ++ [w]) := by
  cases h with
  | wake =>
      obtain rfl := Option.mem_toList.1 hw
      simpa using (Errand.done : Errand (some w) [] [] [w])
  | notify | done => cases hw

/-- The first call takes the outcome, all others find the completion closed. -/
theorem Delivery.taken (h : Delivery result held earlier) :
    Delivery result none (earlier ++ [held.getD (.error .closed)]) := by
  cases h with
  | «open» => exact .made 0
  | made n =>
      rw [List.cons_append, Option.getD_none, ← List.replicate_succ']
      exact .made (n + 1)

end

/-- A completion that has not been resolved holds the waker of the last pending poll. -/
structure Pending (s : Watch) : Prop where
  cell : s.cell = ⟨false, none, (left s.trace).getLast?⟩
  early : ∀ e ∈ s.trace, e.isEarly = true
  collecting : s.collecting = 0
  notifying : s.notifying = []
  waking : s.waking = []

/-- A completion that has been resolved with `result`, with what was seen of it before and
after. -/
structure Resolved (s : Watch) (before : List Report) (result : Outcome Bytes)
    (after : List Report) : Prop where
  trace : s.trace = before ++ .resolved result :: after
  resolved : s.cell.resolved = true
  waker : s.cell.waker = none
  early : ∀ e ∈ before, e.isEarly = true
  late : ∀ e ∈ after, e.isLate = true
  errand : Errand (left before).getLast? s.notifying s.waking (woken after)
  delivery : Delivery result s.cell.outcome (outcomes after)
  /-- Whoever sleeps will be notified. -/
  asleep : s.asleep = 0 ∨ s.notifying ≠ []

/-- **The invariant**: a completion is pending, or it has been resolved once. -/
inductive PendingOrResolved (s : Watch) : Prop
  | pending (h : Pending s)
  | resolved (before : List Report) (result : Outcome Bytes) (after : List Report)
      (h : Resolved s before result after)

theorem PendingOrResolved.fresh : PendingOrResolved fresh :=
  .pending ⟨rfl, by simp [Watch.fresh], rfl, rfl, rfl⟩

variable {willWake} {s s' : Watch} {a : Act} {before after : List Report} {result : Outcome Bytes}

/-- While a completion is pending, polls leave their wakers, waits fall asleep, and somebody may
resolve it. -/
theorem Pending.step (hsame : ∀ w w', willWake w w' = true → w = w') (h : Pending s)
    (ha : s.step willWake a = some s') : PendingOrResolved s' := by
  have hres : s.cell.resolved = false := by rw [h.cell]
  cases a with
  | isFinished =>
      obtain rfl := Option.some_inj.1 ha
      refine .pending ⟨by simp [h.cell, Report.left?], ?_, h.collecting, h.notifying, h.waking⟩
      simpa [or_imp, forall_and, hres, Report.isEarly] using h.early
  | poll w =>
      rw [Watch.step, Completion.lookKeeping_eq_look hsame, Completion.look, hres] at ha
      obtain rfl := Option.some_inj.1 ha
      refine .pending ⟨by simp [h.cell, Report.left?], ?_, h.collecting, h.notifying, h.waking⟩
      simpa [or_imp, forall_and, Report.isEarly] using h.early
  | wait =>
      rw [Watch.step, hres] at ha
      obtain rfl := Option.some_inj.1 ha
      exact .pending ⟨h.cell, h.early, h.collecting, h.notifying, h.waking⟩
  | rouse =>
      rw [Watch.step] at ha
      split at ha
      · cases ha
      · obtain rfl := Option.some_inj.1 ha
        exact .pending ⟨h.cell, h.early, h.collecting, h.notifying, h.waking⟩
  | collect =>
      rw [Watch.step, if_pos h.collecting] at ha
      cases ha
  | resolve result =>
      rw [Watch.step, Completion.resolve, hres] at ha
      obtain rfl := Option.some_inj.1 ha
      exact .resolved s.trace result []
        { trace := rfl
          resolved := rfl
          waker := rfl
          early := h.early
          late := by simp
          errand := by simpa [h.notifying, h.waking, h.cell] using Errand.notify
          delivery := .open
          asleep := Or.inr (by simp) }
  | notify w =>
      rw [Watch.step, if_neg (by simp [h.notifying])] at ha
      cases ha
  | wake w =>
      rw [Watch.step, if_neg (by simp [h.waking])] at ha
      cases ha

private theorem trace_concat {tr : List Report} (h : tr = before ++ .resolved result :: after)
    (e : Report) : tr ++ [e] = before ++ .resolved result :: (after ++ [e]) := by
  rw [h, List.append_assoc, List.cons_append]

private theorem late_concat (h : ∀ e ∈ after, e.isLate = true) {e : Report}
    (he : e.isLate = true) : ∀ e' ∈ after ++ [e], e'.isLate = true := by
  simpa [or_imp, forall_and, he] using h

/-- Once a completion is resolved, calls come back with an outcome, and the thread that has resolved
it goes about its errand. -/
theorem Resolved.step (h : Resolved s before result after) (ha : s.step willWake a = some s') :
    ∃ after', Resolved s' before result after' := by
  cases a with
  | isFinished =>
      obtain rfl := Option.some_inj.1 ha
      refine ⟨_, { h with trace := trace_concat h.trace _, late := late_concat h.late ?_,
                          errand := ?_, delivery := ?_ }⟩
      · simp [h.resolved, Report.isLate]
      · simpa [Report.woken?] using h.errand
      · simpa [Report.outcome?] using h.delivery
  | poll w =>
      rw [Watch.step, Completion.lookKeeping, if_pos h.resolved] at ha
      obtain rfl := Option.some_inj.1 ha
      exact ⟨after, { h with }⟩
  | wait =>
      rw [Watch.step, if_pos h.resolved] at ha
      obtain rfl := Option.some_inj.1 ha
      exact ⟨after, { h with }⟩
  | rouse =>
      rw [Watch.step] at ha
      split at ha
      · cases ha
      · obtain rfl := Option.some_inj.1 ha
        exact ⟨after, { h with asleep := h.asleep.imp_left fun h0 => by simp [h0] }⟩
  | collect =>
      rw [Watch.step] at ha
      split at ha
      · cases ha
      · obtain rfl := Option.some_inj.1 ha
        refine ⟨_, { h with trace := trace_concat h.trace _, late := late_concat h.late rfl,
                            errand := ?_, delivery := ?_ }⟩
        · simpa [Report.woken?] using h.errand
        · rw [outcomes_concat]
          exact h.delivery.taken
  | resolve result' =>
      rw [Watch.step, Completion.resolve, if_pos h.resolved] at ha
      simp only [h.resolved, if_true] at ha
      obtain rfl := Option.some_inj.1 ha
      exact ⟨after, { h with }⟩
  | notify w =>
      rw [Watch.step] at ha
      split at ha
      case isFalse => cases ha
      case isTrue hw =>
        obtain rfl := Option.some_inj.1 ha
        exact ⟨after, { h with errand := h.errand.notified hw, asleep := Or.inl rfl }⟩
  | wake w =>
      rw [Watch.step] at ha
      split at ha
      case isFalse => cases ha
      case isTrue hw =>
        obtain rfl := Option.some_inj.1 ha
        refine ⟨_, { h with trace := trace_concat h.trace _, late := late_concat h.late rfl,
                            errand := ?_, delivery := ?_ }⟩
        · rw [woken_concat]
          exact h.errand.woke hw
        · simpa [Report.outcome?] using h.delivery

/-- **Every act keeps the invariant.** -/
theorem PendingOrResolved.step (hsame : ∀ w w', willWake w w' = true → w = w')
    (h : PendingOrResolved s) (ha : s.step willWake a = some s') : PendingOrResolved s' := by
  cases h with
  | pending h => exact h.step hsame ha
  | resolved before result after h =>
      obtain ⟨after', h'⟩ := h.step ha
      exact .resolved before result after' h'

/-- So do many acts. -/
theorem PendingOrResolved.steps (hsame : ∀ w w', willWake w w' = true → w = w') {acts : List Act}
    (h : PendingOrResolved s) (hs : steps willWake acts s = some s') : PendingOrResolved s' :=
  foldlM_induction hs h fun _ _ _ h ha => h.step hsame ha

/-! ### What a pending completion will do -/

theorem Pending.poll (hsame : ∀ w w', willWake w w' = true → w = w') (h : Pending s) (w : Waker) :
    ∃ s', s.step willWake (.poll w) = some s' ∧ s'.trace = s.trace ++ [.pending w] ∧
      s'.cell.waker = some w := by
  have hres : s.cell.resolved = false := by rw [h.cell]
  refine ⟨{ s with cell := { s.cell with waker := some w }, trace := s.trace ++ [.pending w] },
    ?_, rfl, rfl⟩
  simp [Watch.step, Completion.lookKeeping_eq_look hsame, Completion.look, hres]

/-- Resolving a pending completion brings out the waker of the last pending poll. -/
theorem Pending.resolve (h : Pending s) (result : Outcome Bytes) :
    ∃ s', s.step willWake (.resolve result) = some s' ∧
      s'.trace = s.trace ++ [.resolved result] ∧ s'.owed = (left s.trace).getLast?.toList := by
  have hres : s.cell.resolved = false := by rw [h.cell]
  refine ⟨{ s with cell := ⟨true, some result, none⟩, notifying := [s.cell.waker]
                   trace := s.trace ++ [.resolved result] }, ?_, rfl, ?_⟩
  · simp [Watch.step, Completion.resolve, hres, h.notifying]
  · simp only [owed, h.waking, h.cell]
    cases (left s.trace).getLast? <;> rfl

/-! ### What a resolved completion will do -/

/-- The waker of the last pending poll has been woken or has yet to be woken, once; no other waker
is woken. -/
theorem Resolved.woken_owed (h : Resolved s before result after) :
    woken after ++ s.owed = (left before).getLast?.toList := by
  have he := h.errand
  rw [owed]
  generalize s.notifying = notifying, s.waking = waking, woken after = already,
    (left before).getLast? = waker at he
  cases he with
  | notify => cases waker <;> rfl
  | wake => simp
  | done => simp

/-- The first outcome is the result, the others say that the completion is closed. -/
theorem Resolved.eq_of_getElem? (h : Resolved s before result after) {i : Nat}
    {outcome : Outcome Bytes} (hi : (outcomes after)[i]? = some outcome) :
    outcome = if i = 0 then result else .error .closed := by
  have hd := h.delivery
  generalize s.cell.outcome = held, outcomes after = earlier at hd hi
  cases hd with
  | «open» => simp at hi
  | made n =>
      cases i with
      | zero => simpa [eq_comm] using hi
      | succ i =>
          rw [List.getElem?_cons_succ] at hi
          simpa using List.eq_of_mem_replicate (List.mem_of_getElem? hi)

theorem Resolved.call (h : Resolved s before result after) {look : Act}
    (hlook : look = .wait ∨ ∃ w, look = .poll w) :
    ∃ s', steps willWake [look, .collect] s = some s' ∧
      s'.trace = s.trace ++
        [.returned (if outcomes after = [] then result else .error .closed)] := by
  have hlooked : s.step willWake look = some { s with collecting := s.collecting + 1 } := by
    rcases hlook with rfl | ⟨w, rfl⟩
    · rw [Watch.step, if_pos h.resolved]
    · rw [Watch.step, Completion.lookKeeping, if_pos h.resolved]
  have hout : s.cell.outcome.getD (.error .closed) =
      if outcomes after = [] then result else .error .closed := by
    have hd := h.delivery
    generalize s.cell.outcome = held, outcomes after = earlier at hd
    cases hd <;> simp
  refine ⟨{ s with cell := s.cell.take.2, trace := s.trace ++ [.returned s.cell.take.1] }, ?_,
    congrArg (fun o => s.trace ++ [Report.returned o]) hout⟩
  rw [steps, foldlM_cons_of_eq_some hlooked]
  simp [Watch.step]

/-- The thread that has resolved the completion can always go on, and then nobody sleeps any more
and every waker is woken that came out. -/
theorem Resolved.errands (h : Resolved s before result after) :
    ∃ acts s', (∀ a ∈ acts, a.isErrand = true) ∧ steps willWake acts s = some s' ∧
      s'.owed = [] ∧ s'.asleep = 0 ∧ s'.trace = s.trace ++ s.owed.map .woken := by
  obtain ⟨cell, asleep, collecting, notifying, waking, trace⟩ := s
  have he := h.errand
  have hasleep := h.asleep
  clear h
  dsimp only at he hasleep
  generalize woken after = already, (left before).getLast? = waker at he
  cases he with
  | notify =>
      cases waker with
      | none => exact ⟨[.notify none], _, by simp [Act.isErrand], rfl, rfl, rfl, by simp [owed]⟩
      | some w =>
          refine ⟨[.notify (some w), .wake w], ⟨cell, 0, collecting, [], [], trace ++ [.woken w]⟩,
            by simp [Act.isErrand], ?_, rfl, rfl, rfl⟩
          simp [steps, Watch.step]
  | wake =>
      obtain rfl : asleep = 0 := by simpa using hasleep
      cases waker with
      | none => exact ⟨[], _, by simp, rfl, rfl, rfl, by simp [owed]⟩
      | some w =>
          refine ⟨[.wake w], ⟨cell, 0, collecting, [], [], trace ++ [.woken w]⟩,
            by simp [Act.isErrand], ?_, rfl, rfl, rfl⟩
          simp [steps, Watch.step]
  | done =>
      obtain rfl : asleep = 0 := by simpa using hasleep
      exact ⟨[], _, by simp, rfl, rfl, rfl, by simp [owed]⟩

/-- A poll that came back without an outcome did so before the completion was resolved. -/
theorem Resolved.late_subset (h : Resolved s before result after) {earlier later : List Report}
    {w : Waker} (htrace : s.trace = earlier ++ .pending w :: later) : after ⊆ later := by
  rcases List.append_eq_append_iff.1 (h.trace.symm.trans htrace) with
    ⟨between, -, hsplit⟩ | ⟨between, -, hsplit⟩
  · -- the poll would be among what was seen afterwards
    have hmem : Report.pending w ∈ Report.resolved result :: after := by simp [hsplit]
    have := h.late _ (by simpa using hmem)
    cases this
  · cases between with
    | nil => cases hsplit
    | cons e between =>
        obtain ⟨-, rfl⟩ := List.cons.inj hsplit
        exact List.subset_append_of_subset_right _ (List.subset_cons_self _ _)

/-- **No waker is lost**: a later poll takes its place, the completion holds it still, or it is woken
or about to be. -/
theorem PendingOrResolved.not_lost (h : PendingOrResolved s) {earlier later : List Report}
    {w : Waker} (htrace : s.trace = earlier ++ .pending w :: later) :
    left later ≠ [] ∨ (s.cell.resolved = false ∧ s.cell.waker = some w) ∨ w ∈ s.owed ∨
      .woken w ∈ later := by
  by_cases hleft : left later = []
  case neg => exact Or.inl hleft
  have hlast : (left s.trace).getLast? = some w := by simp [htrace, hleft, Report.left?]
  cases h with
  | pending h => exact Or.inr (Or.inl ⟨by rw [h.cell], by rw [h.cell, hlast]⟩)
  | resolved before result after h =>
      have hbefore : (left before).getLast? = some w := by
        simpa [h.trace, left_eq_nil h.late, Report.left?] using hlast
      have hw : w ∈ woken after ++ s.owed := by simp [h.woken_owed, hbefore]
      rcases List.mem_append.1 hw with hw | hw
      · refine Or.inr (Or.inr (Or.inr (h.late_subset htrace (mem_of_mem_woken hw))))
      · exact Or.inr (Or.inr (Or.inl hw))

/-! ### One outcome, one wake-up -/

/-- **The outcome is delivered once, the last waker is woken once, and none is lost.**

As long as a completion is not resolved, every poll comes back pending and leaves its waker in the
place of an earlier one, the job is not finished, and no waker is woken.  The first result with which
it is resolved is the one that counts.  From then on no poll is pending and the job is finished; the
waker of the last pending poll is woken, once and no other, by the thread that has resolved it,
which nothing keeps from doing so; and every call comes back at once, the first with the result and
the others finding the completion closed.  A poll that was pending leaves a waker that is woken or
about to be, unless a later one takes its place. -/
theorem one_shot (hsame : ∀ w w', willWake w w' = true → w = w') {acts : List Act}
    (hs : steps willWake acts fresh = some s) :
    ((s.cell.resolved = false ∧ s.owed = [] ∧ (∀ e ∈ s.trace, e.isEarly = true) ∧
        (∀ w, ∃ s', s.step willWake (.poll w) = some s' ∧
          s'.trace = s.trace ++ [.pending w] ∧ s'.cell.waker = some w) ∧
        ∀ result, ∃ s', s.step willWake (.resolve result) = some s' ∧
          s'.trace = s.trace ++ [.resolved result] ∧
          s'.owed = (left s.trace).getLast?.toList) ∨
      ∃ before result after, s.cell.resolved = true ∧
        s.trace = before ++ .resolved result :: after ∧
        (∀ e ∈ before, e.isEarly = true) ∧ (∀ e ∈ after, e.isLate = true) ∧
        woken after ++ s.owed = (left before).getLast?.toList ∧
        (∃ errands s', (∀ a ∈ errands, a.isErrand = true) ∧ steps willWake errands s = some s' ∧
          s'.owed = [] ∧ s'.asleep = 0 ∧ s'.trace = s.trace ++ s.owed.map .woken) ∧
        (∀ i outcome, (outcomes after)[i]? = some outcome →
          outcome = if i = 0 then result else .error .closed) ∧
        ∀ look, (look = .wait ∨ ∃ w, look = .poll w) →
          ∃ s', steps willWake [look, .collect] s = some s' ∧
            s'.trace = s.trace ++
              [.returned (if outcomes after = [] then result else .error .closed)]) ∧
    ∀ earlier w later, s.trace = earlier ++ .pending w :: later →
      left later ≠ [] ∨ (s.cell.resolved = false ∧ s.cell.waker = some w) ∨ w ∈ s.owed ∨
        .woken w ∈ later := by
  have hst : PendingOrResolved s := PendingOrResolved.fresh.steps hsame hs
  refine ⟨?_, fun earlier w later htrace => hst.not_lost htrace⟩
  cases hst with
  | pending h =>
      exact Or.inl ⟨by rw [h.cell], by simp [owed, h.waking, h.notifying], h.early, h.poll hsame,
        h.resolve⟩
  | resolved before result after h =>
      exact Or.inr ⟨before, result, after, h.resolved, h.trace, h.early, h.late, h.woken_owed,
        h.errands, fun _ _ hi => h.eq_of_getElem? hi, fun _ hlook => h.call hlook⟩

/-- Two polls by different tasks, the second of them twice; a poll that sees the flag while the
thread that has set it has still to wake the second task, a result that comes too late, and a wait
that takes the outcome before the poll does. -/
private def contended : List Act :=
  [.isFinished, .poll ⟨"first"⟩, .wait, .poll ⟨"second"⟩, .poll ⟨"second"⟩, .resolve (.ok [7]),
    .isFinished, .poll ⟨"third"⟩, .resolve (.error .closed), .notify (some ⟨"second"⟩), .wait,
    .collect, .wake ⟨"second"⟩, .collect, .isFinished]

private theorem steps_contended :
    steps (fun w w' => decide (w = w')) contended fresh =
      some ⟨⟨true, none, none⟩, 0, 0, [], [],
        [.finished false, .pending ⟨"first"⟩, .pending ⟨"second"⟩, .pending ⟨"second"⟩,
          .resolved (.ok [7]), .finished true, .returned (.ok [7]), .woken ⟨"second"⟩,
          .returned (.error .closed), .finished true]⟩ := by
  decide +kernel

/-- The last of the polls that were pending when the result came left the waker that is woken. -/
theorem one_shot_contended :
    ∃ s before result after, steps (fun w w' => decide (w = w')) contended fresh = some s ∧
      s.trace = before ++ .resolved result :: after ∧
      woken after ++ s.owed = (left before).getLast?.toList := by
  have hsame : ∀ w w' : Waker, decide (w = w') = true → w = w' := fun _ _ => of_decide_eq_true
  rcases (one_shot hsame steps_contended).1 with ⟨hres, -⟩ | ⟨before, result, after, -, h, -, -, hw, -⟩
  · cases hres
  · exact ⟨_, before, result, after, steps_contended, h, hw⟩

end Watch

end Offload

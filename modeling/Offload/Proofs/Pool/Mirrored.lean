/-
**Pools whose jobs mirror each other.**

A pool counts the outcomes of its jobs and hands them on, but never looks into an error, and takes
the jobs in progress as they are.  So two pools at the same place, with jobs in progress that mirror
each other, make the same steps: what has been retold in one way is retold in every place that it
gets to.

Main definitions:

* `Ledger.retold`, `Pool.Event.retold` — completions and events with all errors retold;
* `Pool.Mirrors`, `Pool.Scheduler.Mirrors` — **pools at the same place**;
* `Pool.Executor.Mirrors` — two ways to run jobs that mirror each other.

Main results:

* `Pool.Scheduler.mirrors_proceed`, `Pool.Scheduler.mirrors_finish` — the steps of a submission and
  of what finishes a job;
* `Pool.Scheduler.mirrors_step` — **every step can be made by both pools or by none, and leaves
  them at the same place**.
-/

import Mathlib.Data.List.Forall2
import Offload.Pool.Step
import Offload.Proofs.Native.Mirrors

set_option autoImplicit false
set_option relaxedAutoImplicit false

namespace Offload

variable {f : String → String}

/-! ### Options and lists that are related one by one -/

section

variable {α β γ δ : Type} {R : α → β → Prop} {R' : γ → δ → Prop} {l : List α} {l' : List β}

theorem rel_map {o : Option α} {o' : Option β} (h : Option.Rel R o o') {g : α → γ} {g' : β → δ}
    (hg : ∀ a b, R a b → R' (g a) (g' b)) : Option.Rel R' (o.map g) (o'.map g') := by
  cases h with
  | some h => exact .some (hg _ _ h)
  | none => exact .none

theorem rel_bind {o : Option α} {o' : Option β} (h : Option.Rel R o o') {g : α → Option γ}
    {g' : β → Option δ} (hg : ∀ a b, R a b → Option.Rel R' (g a) (g' b)) :
    Option.Rel R' (o.bind g) (o'.bind g') := by
  cases h with
  | some h => exact hg _ _ h
  | none => exact .none

theorem forall₂_getElem? (h : List.Forall₂ R l l') (i : Nat) : Option.Rel R l[i]? l'[i]? := by
  induction h generalizing i with
  | nil => exact .none
  | cons hab _ ih =>
      cases i with
      | zero => exact .some hab
      | succ i => exact ih i

theorem forall₂_modify (h : List.Forall₂ R l l') (i : Nat) {change : α → α} {change' : β → β}
    (hchange : ∀ a b, R a b → R (change a) (change' b)) :
    List.Forall₂ R (l.modify i change) (l'.modify i change') := by
  induction h generalizing i with
  | nil => simp
  | cons hab hrest ih =>
      cases i with
      | zero => exact .cons (hchange _ _ hab) hrest
      | succ i => exact .cons hab (ih i)

theorem forall₂_set (h : List.Forall₂ R l l') (i : Nat) {a : α} {b : β} (hab : R a b) :
    List.Forall₂ R (l.set i a) (l'.set i b) := by
  induction h generalizing i with
  | nil => exact .nil
  | cons hhead hrest ih =>
      cases i with
      | zero => exact .cons hab hrest
      | succ i => exact .cons hhead (ih i)

/-- What changes on one side only stays related to what it was related to. -/
theorem forall₂_set_right (h : List.Forall₂ R l l') {i : Nat} {a : α} {b : β} (ha : l[i]? = some a)
    (hab : R a b) : List.Forall₂ R l (l'.set i b) := by
  have hset := forall₂_set h i hab
  obtain ⟨hlt, rfl⟩ := List.getElem?_eq_some_iff.1 ha
  rwa [List.set_getElem_self] at hset

theorem forall₂_concat (h : List.Forall₂ R l l') {a : α} {b : β} (hab : R a b) :
    List.Forall₂ R (l ++ [a]) (l' ++ [b]) :=
  List.rel_append h (.cons hab .nil)

theorem map_eq_of_forall₂ {g : α → γ} {g' : β → γ} (h : List.Forall₂ R l l')
    (hg : ∀ a b, R a b → g' b = g a) : l'.map g' = l.map g := by
  induction h with
  | nil => rfl
  | cons hab _ ih => rw [List.map_cons, List.map_cons, hg _ _ hab, ih]

end

/-! ### Completions -/

/-- A completion whose error has been retold. -/
def Completion.retold (f : String → String) (c : Completion) : Completion :=
  { c with outcome := c.outcome.map (Outcome.retold f) }

/-- Completions whose errors have been retold. -/
def Ledger.retold (f : String → String) (l : Ledger) : Ledger :=
  { l with cells := l.cells.map (Completion.retold f) }

namespace Ledger

variable (l : Ledger) (t : Ticket)

theorem cell?_retold : (l.retold f).cell? t = (l.cell? t).map (Completion.retold f) :=
  List.getElem?_map

/-- What does not go by errors changes the same. -/
theorem modify_retold {change change' : Completion → Completion}
    (h : ∀ c, change' (c.retold f) = (change c).retold f) :
    (l.retold f).modify t change' = (l.modify t change).retold f := by
  have hcells : (l.cells.map (Completion.retold f)).modify t change' =
      (l.cells.modify t change).map (Completion.retold f) := by
    refine List.ext_getElem? fun i => ?_
    rw [List.getElem?_modify, List.getElem?_map, List.getElem?_map, List.getElem?_modify]
    split <;> cases l.cells[i]? <;> simp [h]
  exact congrArg (fun cells => (⟨cells, l.wakeUps⟩ : Ledger)) hcells

@[simp] theorem isResolved_retold : (l.retold f).isResolved t = l.isResolved t := by
  rw [isResolved, isResolved, cell?_retold]
  cases l.cell? t <;> rfl

theorem resolve_retold (r : Outcome Bytes) :
    (l.retold f).resolve t (r.retold f) = ((l.resolve t r).1, (l.resolve t r).2.retold f) := by
  have hcell (c : Completion) : (c.retold f).resolve (r.retold f) =
      ((c.resolve r).1, (c.resolve r).2.retold f) := by
    obtain ⟨_ | _, outcome, waker⟩ := c <;> rfl
  refine Prod.ext ?_ (modify_retold l t fun c => by rw [hcell])
  rw [resolve, resolve, cell?_retold, Option.bind_map]
  exact congrArg (l.cell? t).bind (funext fun c => by rw [Function.comp_apply, hcell])

theorem wake_retold (waker : Option Waker) :
    (l.retold f).wake t waker = (l.wake t waker).retold f := by
  cases waker <;> rfl

theorem issue_retold : (l.retold f).issue = (l.issue.1, l.issue.2.retold f) := by
  simp [issue, retold, Completion.retold, Completion.unresolved]

theorem look_retold (waker : Waker) :
    (l.retold f).look t waker = ((l.look t waker).1, (l.look t waker).2.retold f) := by
  have hcell (c : Completion) : (c.retold f).look waker =
      ((c.look waker).1, (c.look waker).2.retold f) := by
    obtain ⟨_ | _, outcome, waker⟩ := c <;> rfl
  refine Prod.ext ?_ (modify_retold l t fun c => by rw [hcell])
  rw [look, look, cell?_retold, Option.map_map]
  exact congrArg (fun look => ((l.cell? t).map look).getD false)
    (funext fun c => by rw [Function.comp_apply, hcell])

theorem take_retold :
    (l.retold f).take t = ((l.take t).1.retold f, (l.take t).2.retold f) := by
  have hcell (c : Completion) : (c.retold f).take = (c.take.1.retold f, c.take.2.retold f) := by
    obtain ⟨resolved, _ | outcome, waker⟩ := c <;> rfl
  refine Prod.ext ?_ (modify_retold l t fun c => by rw [hcell])
  rw [take, take, cell?_retold]
  cases l.cell? t with
  | none => rfl
  | some c => simp [hcell]

end Ledger

namespace Pool

variable {ρ ρ' S S' : Type} {R : ρ → ρ' → Prop} {Q : S → S' → Prop}

/-! ### Pools at the same place -/

/-- What is left to do for a job whose error has been retold. -/
def Finish.retold (f : String → String) (finish : Finish) : Finish :=
  { finish with outcome := finish.outcome.retold f }

/-- What can be seen of a step, with its error retold. -/
def Event.retold (f : String → String) : Event → Event
  | .returned job slot outcome => .returned job slot (outcome.retold f)
  | .resolved job slot outcome => .resolved job slot (outcome.retold f)
  | .accepted job slot => .accepted job slot
  | .refused job => .refused job
  | .begun job slot => .begun job slot
  | .died job slot => .died job slot

/-- Where the closing call stands, with the error of the job in its hands retold. -/
def Closing.retold (f : String → String) : Closing → Closing
  | .draining slot current => .draining slot (current.map (Finish.retold f))
  | .notBegun => .notBegun
  | .joining next => .joining next
  | .finished => .finished

/-- Workers at the same place, with jobs in progress that are related. -/
inductive Worker.Mirrors (f : String → String) (R : ρ → ρ' → Prop) : Worker ρ → Worker ρ' → Prop
  | starting : Mirrors f R .starting .starting
  | looking : Mirrors f R .looking .looking
  | holding (job : Job) : Mirrors f R (.holding job) (.holding job)
  | running (job : Job) {run : ρ} {run' : ρ'} (h : R run run') :
      Mirrors f R (.running job run) (.running job run')
  | finishing (finish : Finish) : Mirrors f R (.finishing finish) (.finishing (finish.retold f))
  | doubting : Mirrors f R .doubting .doubting
  | stopping : Mirrors f R .stopping .stopping
  | stopped : Mirrors f R .stopped .stopped
  | died (job : Job) : Mirrors f R (.died job) (.died job)

/-- Slots with the same jobs, and with workers at the same place. -/
structure Lane.Mirrors (f : String → String) (R : ρ → ρ' → Prop) (lane : Lane ρ)
    (lane' : Lane ρ') : Prop where
  tail : lane'.tail = lane.tail
  queue : lane'.queue = lane.queue
  depth : lane'.depth = lane.depth
  worker : lane.worker.Mirrors f R lane'.worker

/-- Pools at the same place. -/
structure Mirrors (f : String → String) (R : ρ → ρ' → Prop) (p : Pool ρ) (p' : Pool ρ') :
    Prop where
  lanes : List.Forall₂ (Lane.Mirrors f R) p.lanes p'.lanes
  cursor : p'.cursor = p.cursor
  closed : p'.closed = p.closed
  submission : p'.submission = p.submission
  closing : p'.closing = p.closing.retold f
  submitted : p'.submitted = p.submitted
  completed : p'.completed = p.completed
  failed : p'.failed = p.failed

/-- A slot that has never had a job. -/
theorem Lane.mirrors_idle : (Lane.idle : Lane ρ).Mirrors f R (Lane.idle : Lane ρ') :=
  ⟨rfl, rfl, rfl, .starting⟩

/-- Pools that have just been built. -/
theorem mirrors_fresh (slots : Nat) : (fresh slots : Pool ρ).Mirrors f R (fresh slots) where
  lanes := by
    show List.Forall₂ (Lane.Mirrors f R) (List.replicate slots .idle) (List.replicate slots .idle)
    induction slots with
    | zero => exact .nil
    | succ slots ih => exact .cons Lane.mirrors_idle ih
  cursor := rfl
  closed := rfl
  submission := rfl
  closing := rfl
  submitted := rfl
  completed := rfl
  failed := rfl

namespace Mirrors

variable {p : Pool ρ} {p' : Pool ρ'}

theorem size (h : p.Mirrors f R p') : p'.size = p.size := h.lanes.length_eq.symm

/-- They count the same. -/
theorem stats (h : p.Mirrors f R p') : p'.stats = p.stats := by
  rw [Pool.stats, Pool.stats, h.submitted, h.completed, h.failed,
    map_eq_of_forall₂ h.lanes fun _ _ hlane => hlane.depth]

theorem modifyLane (h : p.Mirrors f R p') {slot slot' : Nat} (hslot : slot' = slot)
    {change : Lane ρ → Lane ρ} {change' : Lane ρ' → Lane ρ'}
    (hchange : ∀ a b, a.Mirrors f R b → (change a).Mirrors f R (change' b)) :
    (p.modifyLane slot change).Mirrors f R (p'.modifyLane slot' change') := by
  rw [hslot]
  exact { h with lanes := forall₂_modify h.lanes slot hchange }

theorem setWorker (h : p.Mirrors f R p') (slot : Nat) {worker : Worker ρ} {worker' : Worker ρ'}
    (hworker : worker.Mirrors f R worker') :
    (p.setWorker slot worker).Mirrors f R (p'.setWorker slot worker') :=
  h.modifyLane rfl fun _ _ hlane => { hlane with worker := hworker }

theorem withSubmission (h : p.Mirrors f R p') {submission submission' : Option Submission}
    (hsubmission : submission' = submission) :
    ({ p with submission } : Pool ρ).Mirrors f R { p' with submission := submission' } :=
  { h with submission := hsubmission }

theorem withCursor (h : p.Mirrors f R p') {cursor cursor' : Nat} (hcursor : cursor' = cursor)
    (submission : Option Submission) :
    ({ p with cursor, submission } : Pool ρ).Mirrors f R
      { p' with cursor := cursor', submission } :=
  { h with cursor := hcursor, submission := rfl }

theorem withClosing (h : p.Mirrors f R p') (closing : Closing) :
    ({ p with closing } : Pool ρ).Mirrors f R { p' with closing := closing.retold f } :=
  { h with closing := rfl }

theorem counted (h : p.Mirrors f R p') (outcome : Outcome Bytes) :
    (Scheduler.counted p outcome).Mirrors f R (Scheduler.counted p' (outcome.retold f)) := by
  cases outcome with
  | ok => exact { h with completed := congrArg (· + 1) h.completed }
  | error => exact { h with failed := congrArg (· + 1) h.failed }

end Mirrors

/-! ### Steps -/

/-- Steps of jobs that come to the same. -/
inductive Progress.Mirrors (f : String → String) (R : ρ → ρ' → Prop) (Q : S → S' → Prop) :
    Progress ρ S → Progress ρ' S' → Prop
  | blocked : Mirrors f R Q .blocked .blocked
  | continues {run : ρ} {run' : ρ'} {shared : S} {shared' : S'} (hrun : R run run')
      (hshared : Q shared shared') : Mirrors f R Q (.continues run shared) (.continues run' shared')
  | returned (outcome : Outcome Bytes) {shared : S} {shared' : S'} (hshared : Q shared shared') :
      Mirrors f R Q (.returned outcome shared) (.returned (outcome.retold f) shared')
  | died {shared : S} {shared' : S'} (hshared : Q shared shared') :
      Mirrors f R Q (.died shared) (.died shared')

/-- Two ways to run jobs, where jobs in progress that are related make related steps. -/
structure Executor.Mirrors (f : String → String) (R : ρ → ρ' → Prop) (Q : S → S' → Prop)
    (exec : Executor ρ S) (exec' : Executor ρ' S') : Prop where
  begin : ∀ slot input s s', Q s s' → R (exec.begin slot input s).1 (exec'.begin slot input s').1 ∧
    Q (exec.begin slot input s).2 (exec'.begin slot input s').2
  step : ∀ slot run run' s s', R run run' → Q s s' →
    (exec.step slot run s).Mirrors f R Q (exec'.step slot run' s')
  note : ∀ level text s s', Q s s' → Q (exec.note level text s) (exec'.note level text s')

namespace Scheduler

/-- Pools at the same place, with completions whose errors have been retold and with related
states that the jobs share. -/
structure Mirrors (f : String → String) (R : ρ → ρ' → Prop) (Q : S → S' → Prop)
    (s : Scheduler ρ S) (s' : Scheduler ρ' S') : Prop where
  pool : s.pool.Mirrors f R s'.pool
  ledger : s'.ledger = s.ledger.retold f
  shared : Q s.shared s'.shared

/-- Steps that come to the same. -/
structure Result.Mirrors (f : String → String) (R : ρ → ρ' → Prop) (Q : S → S' → Prop)
    (r : Result ρ S) (r' : Result ρ' S') : Prop where
  state : r.1.Mirrors f R Q r'.1
  event : r'.2 = r.2.map (Event.retold f)

variable {s : Scheduler ρ S} {s' : Scheduler ρ' S'} {exec : Executor ρ S} {exec' : Executor ρ' S'}

/-- A step that changes the pool only. -/
theorem mirrors_change (h : s.Mirrors f R Q s') {p : Pool ρ} {p' : Pool ρ'}
    (hp : p.Mirrors f R p') (e : Option Event) :
    Result.Mirrors f R Q ({ s with pool := p }, e)
      ({ s' with pool := p' }, e.map (Event.retold f)) :=
  ⟨⟨hp, h.ledger, h.shared⟩, rfl⟩

theorem mirrors_quietly (h : s.Mirrors f R Q s') {p : Pool ρ} {p' : Pool ρ'}
    (hp : p.Mirrors f R p') : Result.Mirrors f R Q (s.quietly p) (s'.quietly p') :=
  mirrors_change h hp none

/-! #### Submitting -/

theorem isFree_eq (h : s.Mirrors f R Q s') (slot : Nat) : s'.isFree slot = s.isFree slot := by
  rw [isFree, isFree, h.ledger]
  have hlane := forall₂_getElem? h.pool.lanes slot
  revert hlane
  generalize s.pool.lanes[slot]? = lane
  generalize s'.pool.lanes[slot]? = lane'
  rintro (hlane | _)
  · have hresolved : (s.ledger.retold f).isResolved = s.ledger.isResolved :=
      funext s.ledger.isResolved_retold
    rw [Option.map_some, Option.map_some, hlane.tail, hresolved]
  · rfl

/-- **The submission that holds the lock makes the same step.** -/
theorem mirrors_proceed (h : s.Mirrors f R Q s') (job : Job) (next : SubmissionStep) :
    Result.Mirrors f R Q (s.proceed job next) (s'.proceed job next) := by
  have hcursor := h.pool.cursor
  have hsize := h.pool.size
  cases next with
  | entering =>
      simp only [proceed]
      by_cases hclosed : s.pool.closed = true
      · rw [if_pos hclosed, if_pos (h.pool.closed.trans hclosed)]
        exact mirrors_change h (h.pool.withSubmission rfl) (some (.refused job))
      · rw [if_neg hclosed, if_neg (fun hc => hclosed (h.pool.closed.symm.trans hc))]
        refine mirrors_quietly h (h.pool.withCursor ?_ _)
        rw [hcursor, hsize]
  | glancing =>
      refine mirrors_quietly h (h.pool.withSubmission ?_)
      rw [hcursor, isFree_eq h]
  | scanning start offset =>
      simp only [proceed]
      rw [hsize, isFree_eq h]
      split
      · split
        · exact mirrors_quietly h (h.pool.withCursor rfl _)
        · exact mirrors_quietly h (h.pool.withSubmission rfl)
      · exact mirrors_quietly h (h.pool.withSubmission rfl)
  | enlisting =>
      refine mirrors_quietly h
        (Mirrors.withSubmission (h.pool.modifyLane hcursor fun _ _ hlane => ?_) rfl)
      exact { hlane with tail := rfl }
  | deepening =>
      refine mirrors_quietly h
        (Mirrors.withSubmission (h.pool.modifyLane hcursor fun _ _ hlane => ?_) rfl)
      exact { hlane with depth := congrArg (· + 1) hlane.depth }
  | counting =>
      refine mirrors_quietly h ?_
      exact { h.pool with submission := rfl, submitted := congrArg (· + 1) h.pool.submitted }
  | queueing =>
      simp only [proceed]
      rw [hcursor]
      refine mirrors_change h
        (Mirrors.withSubmission (h.pool.modifyLane rfl fun _ _ hlane => ?_) rfl)
        (some (.accepted job s.pool.cursor))
      exact { hlane with queue := congrArg (· ++ [job]) hlane.queue }

/-! #### Finishing -/

/-- **Finishing a job whose error has been retold.** -/
theorem mirrors_finish (h : s.Mirrors f R Q s') (slot : Nat) (finish : Finish) :
    (s'.finish slot (finish.retold f)).1 = (s.finish slot finish).1.map (Finish.retold f) ∧
      Result.Mirrors f R Q (s.finish slot finish).2 (s'.finish slot (finish.retold f)).2 := by
  obtain ⟨job, outcome, next⟩ := finish
  cases next with
  | count => exact ⟨rfl, mirrors_quietly h (h.pool.counted outcome)⟩
  | leave =>
      refine ⟨rfl, mirrors_quietly h (h.pool.modifyLane rfl fun _ _ hlane => ?_)⟩
      exact { hlane with depth := congrArg (· - 1) hlane.depth }
  | resolve =>
      have hresolve := s.ledger.resolve_retold (f := f) job.ticket outcome
      rw [← h.ledger] at hresolve
      refine ⟨?_, ⟨h.pool, congrArg Prod.snd hresolve, h.shared⟩, rfl⟩
      exact congrArg (fun r => some (⟨job, outcome.retold f, .wake r.1⟩ : Finish)) hresolve
  | wake waker =>
      have hwake := s.ledger.wake_retold (f := f) job.ticket waker
      rw [← h.ledger] at hwake
      exact ⟨rfl, ⟨h.pool, hwake, h.shared⟩, rfl⟩

/-! #### Working -/

/-- A worker that is put elsewhere. -/
theorem mirrors_place (h : s.Mirrors f R Q s') (slot : Nat) {shared : S} {shared' : S'}
    (hshared : Q shared shared') {worker : Worker ρ} {worker' : Worker ρ'}
    (hworker : worker.Mirrors f R worker') (e : Option Event) :
    Result.Mirrors f R Q ({ s with shared, pool := s.pool.setWorker slot worker }, e)
      ({ s' with shared := shared', pool := s'.pool.setWorker slot worker' },
        e.map (Event.retold f)) :=
  ⟨⟨h.pool.setWorker slot hworker, h.ledger, hshared⟩, rfl⟩

theorem mirrors_placing {r : Result ρ S} {r' : Result ρ' S'} (h : Result.Mirrors f R Q r r')
    (slot : Nat) {worker : Worker ρ} {worker' : Worker ρ'} (hworker : worker.Mirrors f R worker') :
    Result.Mirrors f R Q (placing slot worker r) (placing slot worker' r') :=
  ⟨⟨h.state.pool.setWorker slot hworker, h.state.ledger, h.state.shared⟩, h.event⟩

/-- **A worker makes the same step.** -/
theorem mirrors_work (hexec : exec.Mirrors f R Q exec') (h : s.Mirrors f R Q s') (slot : Nat)
    {lane : Lane ρ} {lane' : Lane ρ'} (hlane : lane.Mirrors f R lane') :
    Option.Rel (Result.Mirrors f R Q) (s.work exec slot lane) (s'.work exec' slot lane') := by
  obtain ⟨tail, queue, depth, worker⟩ := lane
  obtain ⟨tail', queue', depth', worker'⟩ := lane'
  obtain ⟨-, hqueue, -, hworker⟩ := hlane
  obtain rfl : queue' = queue := hqueue
  cases hworker with
  | starting => exact .some (mirrors_place h slot (hexec.note _ _ _ _ h.shared) .looking none)
  | looking =>
      cases queue' with
      | nil => exact .some (mirrors_quietly h (h.pool.setWorker slot .doubting))
      | cons job queue =>
          refine .some (mirrors_quietly h (h.pool.modifyLane rfl fun _ _ hlane => ?_))
          exact { hlane with queue := rfl, worker := .holding job }
  | holding job =>
      simp only [work, h.pool.closed]
      split
      · exact .some (mirrors_quietly h (h.pool.setWorker slot (.finishing _)))
      · obtain ⟨hrun, hshared⟩ := hexec.begin slot job.input _ _ h.shared
        exact .some (mirrors_place h slot hshared (.running job hrun) (some (.begun job slot)))
  | running job hrun =>
      have hstep := hexec.step slot _ _ _ _ hrun h.shared
      simp only [work]
      revert hstep
      generalize exec.step slot _ s.shared = progress
      generalize exec'.step slot _ s'.shared = progress'
      rintro (_ | ⟨hrun, hshared⟩ | ⟨outcome, hshared⟩ | hshared)
      · exact .none
      · exact .some (mirrors_place h slot hshared (.running job hrun) none)
      · exact .some (mirrors_place h slot hshared (.finishing (.begin job outcome))
          (some (.returned job slot outcome)))
      · exact .some (mirrors_place h slot hshared (.died job) (some (.died job slot)))
  | finishing finish =>
      obtain ⟨hleft, hresult⟩ := mirrors_finish h slot finish
      simp only [work]
      revert hleft hresult
      generalize s.finish slot finish = r
      generalize s'.finish slot (finish.retold f) = r'
      obtain ⟨left, r⟩ := r
      obtain ⟨left', r'⟩ := r'
      intro hleft hresult
      obtain rfl : left' = left.map (Finish.retold f) := hleft
      cases left with
      | none => exact .some (mirrors_placing hresult slot .looking)
      | some left => exact .some (mirrors_placing hresult slot (.finishing left))
  | doubting =>
      simp only [work, h.pool.closed]
      refine .some (mirrors_quietly h (h.pool.setWorker slot ?_))
      split
      · exact .stopping
      · exact .looking
  | stopping => exact .some (mirrors_place h slot (hexec.note _ _ _ _ h.shared) .stopped none)
  | stopped => exact .none
  | died job => exact .none

/-! #### Closing -/

theorem mirrors_winding {r : Result ρ S} {r' : Result ρ' S'} (h : Result.Mirrors f R Q r r')
    (closing : Closing) :
    Result.Mirrors f R Q (winding closing r) (winding (closing.retold f) r') :=
  ⟨⟨h.state.pool.withClosing closing, h.state.ledger, h.state.shared⟩, h.event⟩

/-- **The closing call makes the same step.** -/
theorem mirrors_wind (hexec : exec.Mirrors f R Q exec') (h : s.Mirrors f R Q s') :
    Option.Rel (Result.Mirrors f R Q) (s.wind exec) (s'.wind exec') := by
  have hstay : Result.Mirrors f R Q (s, none) (s', none) := ⟨h, rfl⟩
  simp only [wind, h.pool.closing]
  cases s.pool.closing with
  | notBegun => exact .none
  | finished => exact .none
  | joining next =>
      have hlane := forall₂_getElem? h.pool.lanes next
      simp only [Closing.retold]
      revert hlane
      generalize s.pool.lanes[next]? = lane
      generalize s'.pool.lanes[next]? = lane'
      rintro (hlane | _)
      · obtain ⟨-, -, -, hworker⟩ := hlane
        dsimp only
        revert hworker
        generalize Lane.worker _ = worker
        generalize Lane.worker _ = worker'
        rintro (_ | _)
        all_goals first
          | exact .none
          | exact .some (mirrors_winding hstay (.joining (next + 1)))
          | refine .some (mirrors_winding ⟨⟨h.pool, h.ledger, ?_⟩, rfl⟩ (.joining (next + 1)))
            exact hexec.note _ _ _ _ h.shared
      · exact .some (mirrors_winding hstay (.draining 0 none))
  | draining slot current =>
      cases current with
      | some finish =>
          obtain ⟨hleft, hresult⟩ := mirrors_finish h slot finish
          have hwinding := mirrors_winding hresult (.draining slot (s.finish slot finish).1)
          rw [Closing.retold, ← hleft] at hwinding
          exact .some hwinding
      | none =>
          have hlane := forall₂_getElem? h.pool.lanes slot
          simp only [Closing.retold, Option.map_none]
          revert hlane
          generalize s.pool.lanes[slot]? = lane
          generalize s'.pool.lanes[slot]? = lane'
          rintro (⟨-, hqueue, -, -⟩ | _)
          · dsimp only
            rw [hqueue]
            split
            · exact .some (mirrors_winding hstay (.draining (slot + 1) none))
            · refine .some (mirrors_winding (mirrors_quietly h (h.pool.modifyLane rfl ?_)) _)
              exact fun _ _ hlane => { hlane with queue := rfl }
          · exact .some (mirrors_winding hstay .finished)

/-! #### All moves -/

/-- **Every step can be made by both pools or by none, and leaves them at the same place.** -/
theorem mirrors_step (hexec : exec.Mirrors f R Q exec') (h : s.Mirrors f R Q s') (move : Move) :
    Option.Rel (Result.Mirrors f R Q) (s.step exec move) (s'.step exec' move) := by
  cases move with
  | submit job =>
      simp only [step, h.pool.submission]
      split
      · exact .none
      · exact .some (mirrors_quietly h (h.pool.withSubmission rfl))
  | proceed =>
      simp only [step, h.pool.submission]
      cases s.pool.submission with
      | none => exact .none
      | some submission => exact .some (mirrors_proceed h submission.job submission.next)
  | work slot =>
      exact rel_bind (forall₂_getElem? h.pool.lanes slot) fun _ _ hlane =>
        mirrors_work hexec h slot hlane
  | close =>
      simp only [step, h.pool.submission, h.pool.closed]
      split
      · exact .none
      · split
        · exact .some ⟨h, rfl⟩
        · refine .some (mirrors_quietly h ?_)
          exact { h.pool with closed := rfl, submission := rfl, closing := rfl }
  | wind => exact mirrors_wind hexec h

end Scheduler

end Pool

end Offload

/-
**What the handles of some jobs can show, left out.**

Whoever holds the handle of a job takes the outcome out of its completion and leaves wakers behind
there.  A pool hands outcomes and wakers on, but all that it ever asks of a completion is whether it
is resolved.  So the outcomes and the wakers of some jobs can be left out of a state, before a step
or after it, without a difference to anything else.

The jobs that nothing is left out of are given by their completions, `K`.

Main definitions:

* `Completion.muted`, `Ledger.muted` — completions without the outcomes and wakers of other jobs;
* `Pool.Scheduler.muted` — a pool without them, also where a waker is on its way to be woken.

Main results:

* `Pool.Scheduler.muted_proceed`, `Pool.Scheduler.muted_finish` — the steps of a submission and of
  what finishes a job;
* `Pool.Scheduler.muted_step` — **no step depends on what is left out**.
-/

import Offload.Pool.Step

set_option autoImplicit false
set_option relaxedAutoImplicit false

namespace Offload

/-- What is the same but for something that does not matter to a function, the function takes to
the same. -/
theorem map_eq_of_map_eq {α β γ : Type} {o o' : Option α} {seen : α → β} {g g' : α → γ}
    (h : o'.map seen = o.map seen) (hg : ∀ a a', seen a' = seen a → g' a' = g a) :
    o'.map g' = o.map g := by
  cases o with
  | none => rw [Option.map_eq_none_iff.1 h, Option.map_none, Option.map_none]
  | some a =>
      obtain ⟨a', rfl, ha⟩ := Option.map_eq_some_iff.1 h
      exact congrArg some (hg a a' ha)

/-! ### Completions -/

/-- A completion, of which nothing but whether it is resolved is left unless it is to be kept. -/
def Completion.muted (keep : Bool) (c : Completion) : Completion :=
  if keep then c else ⟨c.resolved, none, none⟩

@[simp] theorem Completion.resolved_muted (keep : Bool) (c : Completion) :
    (c.muted keep).resolved = c.resolved := by
  cases keep <;> rfl

@[simp] theorem Completion.muted_muted (keep : Bool) (c : Completion) :
    (c.muted keep).muted keep = c.muted keep := by
  cases keep <;> rfl

namespace Ledger

/-- Completions, without the outcomes and wakers of all jobs but some. -/
def muted (K : Ticket → Bool) (l : Ledger) : Ledger where
  cells := l.cells.mapIdx fun t c => c.muted (K t)
  wakeUps := l.wakeUps.filter fun w => K w.1

variable {K : Ticket → Bool} {l l' : Ledger} {t : Ticket}

@[simp] theorem length_cells_muted : (l.muted K).cells.length = l.cells.length :=
  List.length_mapIdx

@[simp] theorem cell?_muted : (l.muted K).cell? t = (l.cell? t).map (Completion.muted (K t)) :=
  List.getElem?_mapIdx

/-- Nothing is left out of the completions of the jobs that are kept. -/
theorem cell?_muted_of_kept (ht : K t = true) : (l.muted K).cell? t = l.cell? t := by
  rw [cell?_muted, ht]
  exact congrFun Option.map_id _

@[simp] theorem isResolved_muted : (l.muted K).isResolved t = l.isResolved t := by
  rw [isResolved, isResolved, cell?_muted]
  cases l.cell? t <;> simp

@[simp] theorem muted_muted : (l.muted K).muted K = l.muted K := by
  simp [muted, List.mapIdx_mapIdx, Function.comp_def]

/-- A change of one completion that does not depend on what is left out. -/
theorem muted_modify {change change' : Completion → Completion}
    (h : ∀ c, (change' (c.muted (K t))).muted (K t) = (change c).muted (K t)) :
    ((l.muted K).modify t change').muted K = (l.modify t change).muted K := by
  have hcells : (((l.muted K).modify t change').muted K).cells =
      ((l.modify t change).muted K).cells := by
    refine List.ext_getElem? fun i => ?_
    simp only [muted, modify, List.getElem?_mapIdx, List.getElem?_modify]
    by_cases hi : t = i
    · subst hi
      cases l.cells[t]? <;> simp [h]
    · cases l.cells[i]? <;> simp [hi]
  rw [muted, muted, mk.injEq]
  exact ⟨hcells, congrArg wakeUps (muted_muted (K := K) (l := l))⟩

/-- **Resolving a completion does not depend on what is left out.** -/
theorem muted_resolve (r : Outcome Bytes) :
    ((l.muted K).resolve t r).2.muted K = (l.resolve t r).2.muted K := by
  refine muted_modify fun c => ?_
  obtain ⟨_ | _, outcome, waker⟩ := c <;> cases K t <;> rfl

theorem resolve_muted_of_kept (ht : K t = true) (r : Outcome Bytes) :
    ((l.muted K).resolve t r).1 = (l.resolve t r).1 := by
  rw [resolve, resolve, cell?_muted_of_kept ht]

/-- Waking whoever waited for a job: nobody, if nothing of it is to be kept. -/
theorem muted_wake (waker : Option Waker) :
    ((l.muted K).wake t (if K t then waker else none)).muted K = (l.wake t waker).muted K := by
  cases ht : K t with
  | true => cases waker <;> simp [wake, muted, List.mapIdx_mapIdx, Function.comp_def]
  | false => cases waker <;> simp [wake, muted, List.mapIdx_mapIdx, Function.comp_def, ht]

end Ledger

namespace Pool

variable {ρ S : Type} {K : Ticket → Bool}

/-! ### Pools -/

/-- What is left to do for a job, without the waker that is to be woken. -/
def Finish.muted (K : Ticket → Bool) (f : Finish) : Finish :=
  match f.next with
  | .wake waker => { f with next := .wake (if K f.job.ticket then waker else none) }
  | _ => f

/-- A worker, without the waker that it is to wake. -/
def Worker.muted (K : Ticket → Bool) : Worker ρ → Worker ρ
  | .finishing f => .finishing (f.muted K)
  | w => w

def Lane.muted (K : Ticket → Bool) (lane : Lane ρ) : Lane ρ :=
  { lane with worker := lane.worker.muted K }

/-- Where the closing call stands, without the waker that it is to wake. -/
def Closing.muted (K : Ticket → Bool) : Closing → Closing
  | .draining slot current => .draining slot (current.map (Finish.muted K))
  | c => c

/-- A pool, without the wakers that are to be woken for all jobs but some. -/
def muted (K : Ticket → Bool) (p : Pool ρ) : Pool ρ :=
  { p with lanes := p.lanes.map (Lane.muted K), closing := p.closing.muted K }

/-- Leaving the same out twice. -/
@[simp] theorem Finish.muted_muted (f : Finish) : (f.muted K).muted K = f.muted K := by
  obtain ⟨job, outcome, next⟩ := f
  cases next with
  | wake waker => cases hK : K job.ticket <;> simp [Finish.muted, hK]
  | _ => rfl

@[simp] theorem Lane.muted_muted (lane : Lane ρ) : (lane.muted K).muted K = lane.muted K := by
  obtain ⟨tail, queue, depth, worker⟩ := lane
  cases worker <;> simp [Lane.muted, Worker.muted]

@[simp] theorem Closing.muted_muted (c : Closing) : (c.muted K).muted K = c.muted K := by
  cases c with
  | draining slot current => cases current <;> simp [Closing.muted]
  | _ => rfl

@[simp] theorem muted_muted (p : Pool ρ) : (p.muted K).muted K = p.muted K := by
  simp [muted, Function.comp_def]

@[simp] theorem size_muted (p : Pool ρ) : (p.muted K).size = p.size := List.length_map _

@[simp] theorem lane?_muted (p : Pool ρ) (slot : Nat) :
    (p.muted K).lanes[slot]? = p.lanes[slot]?.map (Lane.muted K) := List.getElem?_map

/-- A change of a slot that does not concern wakers. -/
theorem muted_modifyLane (p : Pool ρ) (slot : Nat) (change' change : Lane ρ → Lane ρ)
    (h : ∀ lane, change' (lane.muted K) = (change lane).muted K) :
    (p.muted K).modifyLane slot change' = (p.modifyLane slot change).muted K := by
  have hlanes : (p.lanes.map (Lane.muted K)).modify slot change' =
      (p.lanes.modify slot change).map (Lane.muted K) := by
    refine List.ext_getElem? fun i => ?_
    simp only [List.getElem?_modify, List.getElem?_map]
    by_cases hi : slot = i <;> cases p.lanes[i]? <;> simp [hi, h]
  rw [modifyLane, modifyLane, muted, muted, hlanes]

theorem muted_setWorker (p : Pool ρ) (slot : Nat) (worker : Worker ρ) :
    (p.muted K).setWorker slot (worker.muted K) = (p.setWorker slot worker).muted K :=
  muted_modifyLane p slot _ _ fun _ => rfl

/-- Nothing that a pool counts is left out. -/
@[simp] theorem stats_muted (p : Pool ρ) : (p.muted K).stats = p.stats := by
  simp [stats, muted, Lane.muted, Function.comp_def]

namespace Scheduler

/-- A pool with its completions, without the outcomes and wakers of all jobs but some. -/
def muted (K : Ticket → Bool) (s : Scheduler ρ S) : Scheduler ρ S :=
  { s with pool := s.pool.muted K, ledger := s.ledger.muted K }

/-- What a step comes to, without them. -/
def Result.muted (K : Ticket → Bool) (r : Result ρ S) : Result ρ S := (r.1.muted K, r.2)

@[simp] theorem muted_muted (s : Scheduler ρ S) : (s.muted K).muted K = s.muted K := by
  simp [muted]

@[simp] theorem Result.muted_muted (r : Result ρ S) : (r.muted K).muted K = r.muted K := by
  simp [Result.muted]

variable {exec : Executor ρ S} (s : Scheduler ρ S)

@[simp] theorem isFree_muted (slot : Nat) : (s.muted K).isFree slot = s.isFree slot := by
  have hresolved : (s.ledger.muted K).isResolved = s.ledger.isResolved :=
    funext fun _ => Ledger.isResolved_muted
  rw [isFree, isFree, muted, lane?_muted, hresolved]
  cases s.pool.lanes[slot]? <;> rfl

/-! ### Submitting -/

/-- **A submission does not depend on what is left out.** -/
theorem muted_proceed (job : Job) (next : SubmissionStep) :
    (s.muted K).proceed job next = Result.muted K (s.proceed job next) := by
  have hsize : (s.muted K).pool.size = s.pool.size := size_muted s.pool
  have hmodify (change : Lane ρ → Lane ρ)
      (h : ∀ lane, change (lane.muted K) = (change lane).muted K)
      (submission : Option Submission) :
      ({ (s.muted K).pool.modifyLane s.pool.cursor change with submission } : Pool ρ) =
        ({ s.pool.modifyLane s.pool.cursor change with submission } : Pool ρ).muted K :=
    congrArg (fun p => ({ p with submission } : Pool ρ))
      (muted_modifyLane s.pool s.pool.cursor _ _ h)
  cases next with
  | entering =>
      simp only [proceed, hsize, apply_ite (Result.muted K)]
      rfl
  | glancing =>
      simp only [proceed, isFree_muted]
      rfl
  | scanning start offset =>
      simp only [proceed, hsize, isFree_muted, apply_ite (Result.muted K)]
      rfl
  | enlisting =>
      exact congrArg (s.muted K).quietly
        (hmodify (fun lane => { lane with tail := some job.ticket }) (fun _ => rfl) _)
  | deepening =>
      exact congrArg (s.muted K).quietly
        (hmodify (fun lane => { lane with depth := lane.depth + 1 }) (fun _ => rfl) _)
  | counting => rfl
  | queueing =>
      exact congrArg
        (fun pool => ({ s.muted K with pool }, some (Event.accepted job s.pool.cursor)))
        (hmodify (fun lane => { lane with queue := lane.queue ++ [job] }) (fun _ => rfl) none)

/-! ### Finishing -/

/-- A job that is being finished, with the pool, after a step. -/
def Finished.muted (K : Ticket → Bool) (r : Option Finish × Result ρ S) :
    Option Finish × Result ρ S := (r.1.map (Finish.muted K), Result.muted K r.2)

theorem Finished.muted_muted (r : Option Finish × Result ρ S) :
    Finished.muted K (Finished.muted K r) = Finished.muted K r := by
  simp [Finished.muted, Function.comp_def]

/-- **What finishes a job does not depend on what is left out**: a waker that is left out comes out
of the completion, and is woken, and that is all. -/
theorem muted_finish (slot : Nat) (f : Finish) :
    Finished.muted K ((s.muted K).finish slot (f.muted K)) =
      Finished.muted K (s.finish slot f) := by
  obtain ⟨job, outcome, next⟩ := f
  cases next with
  | count =>
      have hsame : (s.muted K).finish slot ⟨job, outcome, .count⟩ =
          Finished.muted K (s.finish slot ⟨job, outcome, .count⟩) := by
        cases outcome <;> rfl
      exact (congrArg (Finished.muted K) hsame).trans (Finished.muted_muted _)
  | leave =>
      have hsame : (s.muted K).finish slot ⟨job, outcome, .leave⟩ =
          Finished.muted K (s.finish slot ⟨job, outcome, .leave⟩) :=
        congrArg (fun p => (some (⟨job, outcome, .resolve⟩ : Finish), (s.muted K).quietly p))
          (muted_modifyLane s.pool slot _ (fun lane => { lane with depth := lane.depth - 1 })
            fun _ => rfl)
      exact (congrArg (Finished.muted K) hsame).trans (Finished.muted_muted _)
  | resolve =>
      have hwaker : (if K job.ticket then ((s.ledger.muted K).resolve job.ticket outcome).1
          else none) = if K job.ticket then (s.ledger.resolve job.ticket outcome).1 else none := by
        cases hK : K job.ticket with
        | true => rw [if_pos rfl, if_pos rfl, Ledger.resolve_muted_of_kept hK]
        | false => rfl
      have hstate : Scheduler.muted K
            { s.muted K with ledger := ((s.ledger.muted K).resolve job.ticket outcome).2 } =
          Scheduler.muted K { s with ledger := (s.ledger.resolve job.ticket outcome).2 } := by
        simp only [muted, Pool.muted_muted, Ledger.muted_resolve]
      have hleft := congrArg (fun w => some (⟨job, outcome, .wake w⟩ : Finish)) hwaker
      exact Prod.ext hleft
        (congrArg (fun t => (t, some (Event.resolved job slot outcome))) hstate)
  | wake waker =>
      have hstate : Scheduler.muted K { s.muted K with
            ledger := (s.ledger.muted K).wake job.ticket (if K job.ticket then waker else none) } =
          Scheduler.muted K { s with ledger := s.ledger.wake job.ticket waker } := by
        simp only [muted, Pool.muted_muted, Ledger.muted_wake]
      exact congrArg (fun t => (none, (t, none))) hstate

/-! ### Working -/

/-- Steps that come to the same but for what is left out. -/
theorem map_muted {r r' : Result ρ S} (h : r' = r.muted K) :
    (some r').map (Result.muted K) = (some r).map (Result.muted K) := by
  rw [h, Option.map_some, Option.map_some, Result.muted_muted]

/-- A worker that is put elsewhere. -/
theorem muted_place (slot : Nat) (shared : S) (worker : Worker ρ) (e : Option Event) :
    (({ s.muted K with shared, pool := (s.muted K).pool.setWorker slot (worker.muted K) }, e) :
        Result ρ S) =
      Result.muted K ({ s with shared, pool := s.pool.setWorker slot worker }, e) :=
  congrArg (fun pool => (({ s.muted K with shared, pool }, e) : Result ρ S))
    (muted_setWorker s.pool slot worker)

theorem muted_placing (slot : Nat) (worker : Worker ρ) (r : Result ρ S) :
    (placing slot worker r).muted K = placing slot (worker.muted K) (r.muted K) :=
  congrArg (fun pool => (({ r.1.muted K with pool }, r.2) : Result ρ S))
    (muted_setWorker r.1.pool slot worker).symm

/-- A worker that is not done goes on finishing, with the same waker left out. -/
theorem muted_work_finishing (slot : Nat) (tail : Option Ticket) (queue : List Job) (depth : Nat)
    (f : Finish) :
    ((s.muted K).work exec slot (Lane.muted K ⟨tail, queue, depth, .finishing f⟩)).map
        (Result.muted K) =
      (s.work exec slot ⟨tail, queue, depth, .finishing f⟩).map (Result.muted K) := by
  have hfinish := muted_finish (K := K) s slot f
  simp only [work, Lane.muted, Worker.muted]
  revert hfinish
  generalize (s.muted K).finish slot (f.muted K) = r'
  generalize s.finish slot f = r
  obtain ⟨left', r'⟩ := r'
  obtain ⟨left, r⟩ := r
  intro hfinish
  obtain ⟨hleft, hresult⟩ := Prod.mk.inj hfinish
  cases left with
  | none =>
      obtain rfl : left' = none := Option.map_eq_none_iff.1 hleft
      refine congrArg some ?_
      rw [muted_placing, muted_placing, show Result.muted K r' = r.muted K from hresult]
  | some f =>
      obtain ⟨f', rfl, hf⟩ := Option.map_eq_some_iff.1 hleft
      refine congrArg some ?_
      rw [muted_placing, muted_placing, show Result.muted K r' = r.muted K from hresult]
      simp only [Worker.muted, hf]

/-- **A worker does not depend on what is left out.** -/
theorem muted_work (slot : Nat) (lane : Lane ρ) :
    ((s.muted K).work exec slot (lane.muted K)).map (Result.muted K) =
      (s.work exec slot lane).map (Result.muted K) := by
  obtain ⟨tail, queue, depth, worker⟩ := lane
  cases worker with
  | starting => exact map_muted (muted_place s slot _ .looking none)
  | looking =>
      cases queue with
      | nil => exact map_muted (muted_place s slot s.shared .doubting none)
      | cons job queue =>
          refine map_muted (congrArg (fun pool => (s.muted K).quietly pool) ?_)
          exact muted_modifyLane s.pool slot _
            (fun lane => { lane with queue, worker := .holding job }) fun _ => rfl
  | holding job =>
      have hclosed : (s.muted K).pool.closed = s.pool.closed := rfl
      simp only [work, Lane.muted, Worker.muted, hclosed]
      split
      · exact map_muted
          (muted_place s slot s.shared (.finishing (.begin job (.error .closed))) none)
      · exact map_muted (muted_place s slot _ (.running job _) (some (.begun job slot)))
  | running job run =>
      have hshared : (s.muted K).shared = s.shared := rfl
      simp only [work, Lane.muted, Worker.muted, hshared]
      cases exec.step slot run s.shared with
      | blocked => rfl
      | continues run shared => exact map_muted (muted_place s slot shared (.running job run) none)
      | returned outcome shared =>
          exact map_muted (muted_place s slot shared (.finishing (.begin job outcome))
            (some (.returned job slot outcome)))
      | died shared =>
          exact map_muted (muted_place s slot shared (.died job) (some (.died job slot)))
  | finishing f => exact muted_work_finishing s slot tail queue depth f
  | doubting =>
      have hclosed : (s.muted K).pool.closed = s.pool.closed := rfl
      simp only [work, Lane.muted, Worker.muted, hclosed]
      refine map_muted ?_
      split
      · exact muted_place s slot s.shared .stopping none
      · exact muted_place s slot s.shared .looking none
  | stopping => exact map_muted (muted_place s slot _ .stopped none)
  | stopped | died => rfl

/-! ### Closing -/

theorem muted_winding (closing : Closing) (r : Result ρ S) :
    (winding closing r).muted K = winding (closing.muted K) (r.muted K) := rfl

/-- **The closing call does not depend on what is left out.** -/
theorem muted_wind :
    ((s.muted K).wind exec).map (Result.muted K) = (s.wind exec).map (Result.muted K) := by
  have hclosing : (s.muted K).pool.closing = s.pool.closing.muted K := rfl
  have hstay (closing : Closing) :
      winding (closing.muted K) (s.muted K, none) = (winding closing (s, none)).muted K := rfl
  simp only [wind, hclosing]
  cases s.pool.closing with
  | notBegun | finished => rfl
  | joining next =>
      have hlane : (s.muted K).pool.lanes[next]? = s.pool.lanes[next]?.map (Lane.muted K) :=
        lane?_muted s.pool next
      simp only [Closing.muted, hlane]
      cases s.pool.lanes[next]? with
      | none => exact map_muted (hstay (.draining 0 none))
      | some lane =>
          obtain ⟨tail, queue, depth, worker⟩ := lane
          cases worker with
          | stopped => exact map_muted (hstay (.joining (next + 1)))
          | died job => exact map_muted rfl
          | _ => rfl
  | draining slot current =>
      cases current with
      | some f =>
          obtain ⟨hleft, hresult⟩ := Prod.mk.inj (muted_finish (K := K) s slot f)
          refine congrArg some ?_
          rw [muted_winding, muted_winding, hresult]
          simp only [Closing.muted, hleft]
      | none =>
          have hlane : (s.muted K).pool.lanes[slot]? = s.pool.lanes[slot]?.map (Lane.muted K) :=
            lane?_muted s.pool slot
          simp only [Closing.muted, Option.map_none, hlane]
          cases s.pool.lanes[slot]? with
          | none => exact map_muted (hstay .finished)
          | some lane =>
              obtain ⟨tail, queue, depth, worker⟩ := lane
              cases queue with
              | nil => exact map_muted (hstay (.draining (slot + 1) none))
              | cons job queue =>
                  have hpop := muted_modifyLane (K := K) s.pool slot
                    (fun lane => { lane with queue }) (fun lane => { lane with queue }) fun _ => rfl
                  exact map_muted (congrArg (fun pool => winding
                    (.draining slot (some (.begin job (.error .closed))))
                    ((s.muted K).quietly pool)) hpop)

/-! ### All moves -/

/-- **No step depends on what is left out.** -/
theorem muted_step (move : Move) :
    ((s.muted K).step exec move).map (Result.muted K) =
      (s.step exec move).map (Result.muted K) := by
  have hsubmission : (s.muted K).pool.submission = s.pool.submission := rfl
  have hclosed : (s.muted K).pool.closed = s.pool.closed := rfl
  cases move with
  | submit job =>
      simp only [step, hsubmission]
      split
      · rfl
      · exact map_muted rfl
  | proceed =>
      simp only [step, hsubmission]
      cases s.pool.submission with
      | none => rfl
      | some submission => exact map_muted (muted_proceed s submission.job submission.next)
  | work slot =>
      have hlane : (s.muted K).pool.lanes[slot]? = s.pool.lanes[slot]?.map (Lane.muted K) :=
        lane?_muted s.pool slot
      simp only [step, hlane]
      cases s.pool.lanes[slot]? with
      | none => rfl
      | some lane => exact muted_work s slot lane
  | close =>
      simp only [step, hsubmission, hclosed]
      split
      · rfl
      · split
        · exact map_muted rfl
        · exact map_muted rfl
  | wind => exact muted_wind s

end Scheduler

end Pool

end Offload

/-
**Where the jobs of a slot are.**

Every job that joined the queue of a slot is in exactly one place: it has left the slot for good,
or the worker has it, or the closing call has it, or it is still queued, and these places follow
each other in the order of acceptance.  The jobs that were begun are the first of them, and a job
is finished with what its run returned, or with the error of a closed pool if it never ran.

Main definitions:

* `Pool.Worker.hand`, `Pool.Finish.hand` — the job that is neither queued nor settled;
* `Pool.Worker.Alike` — two workers with the same jobs in the same places;
* `Pool.IsDue` — the outcome that a job is to be resolved with;
* `Pool.Custody` — **the invariant of one slot**.

Main results:

* `Pool.Custody.step` — every step of a slot keeps the invariant;
* `Pool.Custody.close` — so does closing the pool.
-/

import Offload.Proofs.Pool.Lane

set_option autoImplicit false
set_option relaxedAutoImplicit false

namespace Offload.Pool

variable {ρ : Type}

/-! ### Jobs in hand -/

/-- The job that is being finished, unless it is resolved already. -/
def Finish.hand (f : Finish) : List Job :=
  match f.next with
  | .wake _ => []
  | _ => [f.job]

@[simp] theorem Finish.hand_begin (job : Job) (outcome : Outcome Bytes) :
    (Finish.begin job outcome).hand = [job] := rfl

/-- The job that the closing call has in hand. -/
def drainHand : Option Finish → List Job
  | some f => f.hand
  | none => []

@[simp] theorem drainHand_none : drainHand none = [] := rfl

@[simp] theorem drainHand_some (f : Finish) : drainHand (some f) = f.hand := rfl

namespace Worker

/-- The job that the worker has in hand. -/
def hand : Worker ρ → List Job
  | holding job | running job _ => [job]
  | finishing f => f.hand
  | _ => []

/-- The job whose run is in progress. -/
def inProgress : Worker ρ → List Job
  | running job _ => [job]
  | _ => []

/-- The job in hand, once the worker has decided about it. -/
def decided : Worker ρ → List Job
  | running job _ => [job]
  | finishing f => f.hand
  | _ => []

/-- The job that has taken the worker with it. -/
def lost : Worker ρ → List Job
  | died job => [job]
  | _ => []

theorem hand_of_isIdle {w : Worker ρ} (hw : w.isIdle = true) :
    w.hand = [] ∧ w.inProgress = [] ∧ w.decided = [] ∧ w.lost = [] := by
  cases w <;> simp_all [isIdle, hand, inProgress, decided, lost]

theorem hand_of_hasEnded {w : Worker ρ} (hw : w.hasEnded = true) :
    w.hand = [] ∧ w.inProgress = [] ∧ w.decided = [] := by
  cases w <;> simp_all [hasEnded, hand, inProgress, decided]

/-- A worker that goes on as another one with the same jobs in the same places. -/
structure Alike (w w' : Worker ρ) : Prop where
  hand : w'.hand = w.hand
  inProgress : w'.inProgress = w.inProgress
  decided : w'.decided = w.decided
  lost : w'.lost = w.lost
  hasEnded : w.hasEnded = true → w'.hasEnded = true

namespace Alike

theorem refl (w : Worker ρ) : w.Alike w := ⟨rfl, rfl, rfl, rfl, id⟩

theorem idle {w w' : Worker ρ} (hw : w.isIdle = true) (hw' : w'.isIdle = true)
    (halive : w.hasEnded = false) : w.Alike w' := by
  obtain ⟨h₁, h₂, h₃, h₄⟩ := hand_of_isIdle hw
  obtain ⟨k₁, k₂, k₃, k₄⟩ := hand_of_isIdle hw'
  exact ⟨k₁.trans h₁.symm, k₂.trans h₂.symm, k₃.trans h₃.symm, k₄.trans h₄.symm, by simp [halive]⟩

theorem running (job : Job) (run run' : ρ) :
    (Worker.running job run).Alike (.running job run') := ⟨rfl, rfl, rfl, rfl, id⟩

theorem finishing {f f' : Finish} (h : f'.hand = f.hand) :
    (Worker.finishing f : Worker ρ).Alike (.finishing f') := ⟨h, rfl, h, rfl, id⟩

theorem finished {f : Finish} (h : f.hand = []) :
    (Worker.finishing f : Worker ρ).Alike .looking :=
  ⟨h.symm, rfl, h.symm, rfl, by simp [Worker.hasEnded]⟩

end Alike

end Worker

/-- The outcome that a job is to be resolved with: what its run returned, or the error of a closed
pool if it was not begun, and then it never will be. -/
def IsDue (slot : Nat) (h : History) (closed : Bool) (job : Job) (outcome : Outcome Bytes) :
    Prop :=
  Event.returned job slot outcome ∈ h ∨
    (outcome = .error .closed ∧ job ∉ begun slot h ∧ closed = true)

/-! ### The invariant -/

/-- Where the jobs of a slot are: `d` is what the closing call has in hand. -/
structure Custody (slot : Nat) (h : History) (closed : Bool) (lane : Lane ρ)
    (d : Option Finish) : Prop where
  accepted_eq : accepted slot h =
    settled slot h ++ lane.worker.hand ++ drainHand d ++ lane.queue
  begun_eq : begun slot h = ended slot h ++ lane.worker.inProgress
  begun_prefix : begun slot h <+: settled slot h ++ lane.worker.decided
  begun_open : closed = false → begun slot h = settled slot h ++ lane.worker.decided
  settled_open : closed = false → settled slot h = resolved slot h ++ lane.worker.lost
  drain_ended : d ≠ none → lane.worker.hasEnded = true
  drain_closed : d ≠ none → closed = true
  worker_due : ∀ f, lane.worker = .finishing f → f.hand ≠ [] →
    IsDue slot h closed f.job f.outcome
  drain_due : ∀ f, d = some f → f.hand ≠ [] → IsDue slot h closed f.job f.outcome
  resolved_due : ∀ job outcome, Event.resolved job slot outcome ∈ h →
    IsDue slot h closed job outcome

section

variable {slot : Nat} {h : History} {closed : Bool} {lane lane' : Lane ρ}
  {d d' : Option Finish} {e : Option Event} {job : Job} {outcome : Outcome Bytes}

theorem Custody.idle : Custody slot [] false (Lane.idle : Lane ρ) none where
  accepted_eq := rfl
  begun_eq := rfl
  begun_prefix := List.prefix_rfl
  begun_open := fun _ => rfl
  settled_open := fun _ => rfl
  drain_ended := by simp
  drain_closed := by simp
  worker_due := by rintro f ⟨⟩
  drain_due := by rintro f ⟨⟩
  resolved_due := by simp

/-- An outcome that is due stays due when the pool is closed. -/
theorem IsDue.close (hdue : IsDue slot h closed job outcome) : IsDue slot h true job outcome :=
  hdue.imp_right fun hx => ⟨hx.1, hx.2.1, rfl⟩

/-- Closing the pool leaves every job where it is. -/
theorem Custody.close (hc : Custody slot h closed lane d) : Custody slot h true lane d where
  accepted_eq := hc.accepted_eq
  begun_eq := hc.begun_eq
  begun_prefix := hc.begun_prefix
  begun_open := by simp
  settled_open := by simp
  drain_ended := hc.drain_ended
  drain_closed := by simp
  worker_due f hw hf := (hc.worker_due f hw hf).close
  drain_due f hd hf := (hc.drain_due f hd hf).close
  resolved_due job outcome hr := (hc.resolved_due job outcome hr).close

/-- The jobs that were begun come first in the order of acceptance. -/
theorem Custody.begun_prefix_accepted (hc : Custody slot h closed lane d) :
    begun slot h <+: accepted slot h := by
  -- the jobs that were begun have left their slot, but for the one in hand
  have hdec : lane.worker.decided <+: lane.worker.hand := by
    cases lane.worker <;> simp [Worker.decided, Worker.hand]
  rw [hc.accepted_eq, List.append_assoc, List.append_assoc]
  refine hc.begun_prefix.trans ((List.prefix_append_right_inj _).2 ?_)
  exact hdec.trans (List.prefix_append _ _)

theorem Custody.begun_of_returned (hc : Custody slot h closed lane d)
    (hr : Event.returned job slot outcome ∈ h) : Event.begun job slot ∈ h := by
  have hended : job ∈ ended slot h := mem_jobsOf.2 ⟨_, hr, rfl, rfl, rfl⟩
  refine mem_begun.1 ?_
  rw [hc.begun_eq]
  exact List.mem_append_left _ hended

/-- A job that is due stays due when an event is added that begins no job on the slot. -/
theorem IsDue.append {h' : History} (hdue : IsDue slot h closed job outcome)
    (hb : begun slot h' = []) : IsDue slot (h ++ h') closed job outcome := by
  rcases hdue with hr | ⟨ho, hn, hcl⟩
  · exact Or.inl (List.mem_append_left _ hr)
  · have hb' : jobsOf Event.isStart slot h' = [] := hb
    exact Or.inr ⟨ho, by simpa [jobsOf_append, hb'] using hn, hcl⟩

/-- A job is resolved with the outcome that is due to it. -/
theorem Custody.resolved_due_concat (hc : Custody slot h closed lane d)
    (hdue : IsDue slot h closed job outcome) (job' : Job) (outcome' : Outcome Bytes)
    (hr : Event.resolved job' slot outcome' ∈ h ++ [.resolved job slot outcome]) :
    IsDue slot (h ++ [.resolved job slot outcome]) closed job' outcome' := by
  have hb : begun slot [Event.resolved job slot outcome] = [] := by simp [jobsOf]
  rcases List.mem_append.1 hr with hr | hr
  · exact (hc.resolved_due job' outcome' hr).append hb
  · obtain ⟨rfl, rfl⟩ : job' = job ∧ outcome' = outcome := by simpa using hr
    exact hdue.append hb

theorem Custody.still (hc : Custody slot h closed lane d)
    (he : ∀ e', e = some e' → e'.slot? ≠ some slot) :
    Custody slot (h ++ e.toList) closed lane d := by
  have hsame : ∀ kind, jobsOf kind slot (h ++ e.toList) = jobsOf kind slot h := by
    intro kind
    cases e with
    | none => simp
    | some e' => exact jobsOf_concat_of_not fun hk => he e' rfl hk.2
  have hb : begun slot e.toList = [] := by
    have := hsame Event.isStart
    rw [jobsOf_append] at this
    simpa using this
  refine ⟨?_, ?_, ?_, ?_, ?_, hc.drain_ended, hc.drain_closed, ?_, ?_, ?_⟩
  · simpa only [hsame] using hc.accepted_eq
  · simpa only [hsame] using hc.begun_eq
  · simpa only [hsame] using hc.begun_prefix
  · simpa only [hsame] using hc.begun_open
  · simpa only [hsame] using hc.settled_open
  · exact fun f hw hf => (hc.worker_due f hw hf).append hb
  · exact fun f hd hf => (hc.drain_due f hd hf).append hb
  · intro job outcome hr
    refine (hc.resolved_due job outcome ?_).append hb
    rcases List.mem_append.1 hr with hr | hr
    · exact hr
    · obtain rfl : e = some _ := Option.mem_toList.1 hr
      exact absurd rfl (he _ rfl)

/-! ### Steps that show nothing -/

theorem Custody.quiet (hc : Custody slot h closed lane d) (hq : lane'.queue = lane.queue)
    (hw : lane.worker.Alike lane'.worker)
    (hdue : ∀ f, lane'.worker = .finishing f → f.hand ≠ [] →
      IsDue slot h closed f.job f.outcome) : Custody slot h closed lane' d where
  accepted_eq := by rw [hw.hand, hq]; exact hc.accepted_eq
  begun_eq := by rw [hw.inProgress]; exact hc.begun_eq
  begun_prefix := by rw [hw.decided]; exact hc.begun_prefix
  begun_open := by rw [hw.decided]; exact hc.begun_open
  settled_open := by rw [hw.lost]; exact hc.settled_open
  drain_ended hd := hw.hasEnded (hc.drain_ended hd)
  drain_closed := hc.drain_closed
  worker_due := hdue
  drain_due := hc.drain_due
  resolved_due := hc.resolved_due

theorem Custody.find {queue : List Job} (hc : Custody slot h closed lane d)
    (hw : lane.worker = .looking) (hq : lane.queue = job :: queue) :
    Custody slot h closed ({ lane with queue, worker := .holding job } : Lane ρ) d := by
  -- the closing call has nothing in hand, because the worker is alive
  have hd : d = none := by
    by_contra hd
    simpa [hw, Worker.hasEnded] using hc.drain_ended hd
  subst hd
  refine ⟨?_, ?_, ?_, ?_, ?_, by simp, by simp, by simp, by simp, hc.resolved_due⟩
  · simpa [hw, hq, Worker.hand] using hc.accepted_eq
  · simpa [hw, Worker.inProgress] using hc.begun_eq
  · simpa [hw, Worker.decided] using hc.begun_prefix
  · simpa [hw, Worker.decided] using hc.begun_open
  · simpa [hw, Worker.lost] using hc.settled_open

/-- A job that has not left its slot, and is behind all those that were begun, was not begun. -/
theorem not_begun_of_accepted_eq {rest : List Job} (hn : (accepted slot h).Nodup)
    (hacc : accepted slot h = settled slot h ++ rest) (hpre : begun slot h <+: settled slot h)
    (hj : job ∈ rest) : job ∉ begun slot h := by
  intro hb
  rw [hacc] at hn
  exact List.disjoint_of_nodup_append hn (hpre.subset hb) hj

theorem Custody.reject (hc : Custody slot h true lane d) (hn : (accepted slot h).Nodup)
    (hw : lane.worker = .holding job) :
    Custody slot h true
      ({ lane with worker := .finishing (.begin job (.error .closed)) } : Lane ρ) d := by
  have hacc := hc.accepted_eq
  have hpre := hc.begun_prefix
  simp only [hw, Worker.hand, Worker.decided, List.append_nil] at hacc hpre
  -- the error of a closed pool is due to jobs only that have not been run
  have hnot : job ∉ begun slot h := by
    rw [List.append_assoc, List.append_assoc] at hacc
    exact not_begun_of_accepted_eq hn hacc hpre (by simp)
  refine ⟨?_, ?_, ?_, by simp, by simp, ?_, by simp, ?_, hc.drain_due, hc.resolved_due⟩
  · simpa [Worker.hand] using hacc
  · simpa [hw, Worker.inProgress] using hc.begun_eq
  · exact hpre.trans (List.prefix_append _ _)
  · intro hd
    simpa [hw, Worker.hasEnded] using hc.drain_ended hd
  · rintro f ⟨⟩ -
    exact Or.inr ⟨rfl, hnot, rfl⟩

theorem Custody.drainFind {queue : List Job} (hc : Custody slot h true lane none)
    (hn : (accepted slot h).Nodup) (hq : lane.queue = job :: queue)
    (hended : lane.worker.hasEnded = true) :
    Custody slot h true { lane with queue } (some (.begin job (.error .closed))) := by
  obtain ⟨hhand, hprogress, hdecided⟩ := Worker.hand_of_hasEnded hended
  have hacc := hc.accepted_eq
  have hpre := hc.begun_prefix
  simp only [hhand, hdecided, hq, drainHand_none, List.append_nil] at hacc hpre
  have hnot : job ∉ begun slot h := not_begun_of_accepted_eq hn hacc hpre (by simp)
  refine ⟨?_, hc.begun_eq, hc.begun_prefix, by simp, by simp, fun _ => hended, by simp,
    hc.worker_due, ?_, hc.resolved_due⟩
  · simpa [hhand] using hacc
  · rintro f ⟨⟩ -
    exact Or.inr ⟨rfl, hnot, rfl⟩

/-! ### Steps that show an event -/

theorem Custody.accept (hc : Custody slot h closed lane d) :
    Custody slot (h ++ [.accepted job slot]) closed
      { lane with queue := lane.queue ++ [job] } d := by
  have hb : begun slot [Event.accepted job slot] = [] := by simp [jobsOf]
  refine ⟨?_, ?_, ?_, ?_, ?_, hc.drain_ended, hc.drain_closed, ?_, ?_, ?_⟩
  · rw [accepted, jobsOf_concat_of rfl rfl, ← accepted, hc.accepted_eq]
    simp [jobsOf_concat, Event.job]
  · simpa [jobsOf_concat] using hc.begun_eq
  · simpa [jobsOf_concat] using hc.begun_prefix
  · simpa [jobsOf_concat] using hc.begun_open
  · simpa [jobsOf_concat] using hc.settled_open
  · exact fun f hw hf => (hc.worker_due f hw hf).append hb
  · exact fun f hd hf => (hc.drain_due f hd hf).append hb
  · exact fun job' outcome hr => (hc.resolved_due job' outcome (by simpa using hr)).append hb

theorem Custody.begin {run : ρ} (hc : Custody slot h false lane d)
    (hw : lane.worker = .holding job) :
    Custody slot (h ++ [.begun job slot]) false
      ({ lane with worker := .running job run } : Lane ρ) d := by
  -- in an open pool the closing call has nothing in hand
  have hd : d = none := by
    by_contra hd
    simpa using hc.drain_closed hd
  subst hd
  have hopen := hc.begun_open rfl
  simp only [hw, Worker.decided, List.append_nil] at hopen
  refine ⟨?_, ?_, ?_, ?_, ?_, by simp, by simp, by simp, by simp, ?_⟩
  · simpa [jobsOf_concat, hw, Worker.hand] using hc.accepted_eq
  · simpa [jobsOf_concat, Event.slot?, Event.job, hw, Worker.inProgress] using hc.begun_eq
  · simp [jobsOf_concat, Event.slot?, Event.job, Worker.decided, hopen]
  · simp [jobsOf_concat, Event.slot?, Event.job, Worker.decided, hopen]
  · simpa [jobsOf_concat, hw, Worker.lost] using hc.settled_open
  · intro job' outcome hr
    have hr' := (hc.resolved_due job' outcome (by simpa using hr)).resolve_right (by simp)
    exact Or.inl (List.mem_append_left _ hr')

theorem Custody.return {run : ρ} (hc : Custody slot h closed lane d)
    (hw : lane.worker = .running job run) :
    Custody slot (h ++ [.returned job slot outcome]) closed
      ({ lane with worker := .finishing (.begin job outcome) } : Lane ρ) d := by
  have hb : begun slot [Event.returned job slot outcome] = [] := by simp [jobsOf]
  refine ⟨?_, ?_, ?_, ?_, ?_, ?_, hc.drain_closed, ?_, ?_, ?_⟩
  · simpa [jobsOf_concat, hw, Worker.hand] using hc.accepted_eq
  · simpa [jobsOf_concat, Event.slot?, Event.job, hw, Worker.inProgress] using hc.begun_eq
  · simpa [jobsOf_concat, hw, Worker.decided] using hc.begun_prefix
  · simpa [jobsOf_concat, hw, Worker.decided] using hc.begun_open
  · simpa [jobsOf_concat, hw, Worker.lost] using hc.settled_open
  · intro hd
    simpa [hw, Worker.hasEnded] using hc.drain_ended hd
  · rintro f ⟨⟩ -
    exact Or.inl (by simp [Finish.begin])
  · exact fun f hd hf => (hc.drain_due f hd hf).append hb
  · exact fun job' outcome' hr => (hc.resolved_due job' outcome' (by simpa using hr)).append hb

theorem Custody.die {run : ρ} (hc : Custody slot h closed lane d)
    (hw : lane.worker = .running job run) :
    Custody slot (h ++ [.died job slot]) closed ({ lane with worker := .died job } : Lane ρ) d := by
  -- the job leaves its slot, as if it were resolved, but nothing becomes due to it
  have hb : begun slot [Event.died job slot] = [] := by simp [jobsOf]
  refine ⟨?_, ?_, ?_, ?_, ?_, ?_, hc.drain_closed, by simp, ?_, ?_⟩
  · simpa [jobsOf_concat, Event.slot?, Event.job, hw, Worker.hand] using hc.accepted_eq
  · simpa [jobsOf_concat, Event.slot?, Event.job, hw, Worker.inProgress] using hc.begun_eq
  · simpa [jobsOf_concat, Event.slot?, Event.job, hw, Worker.decided] using hc.begun_prefix
  · simpa [jobsOf_concat, Event.slot?, Event.job, hw, Worker.decided] using hc.begun_open
  · simpa [jobsOf_concat, Event.slot?, Event.job, hw, Worker.lost] using hc.settled_open
  · exact fun _ => rfl
  · exact fun f hd hf => (hc.drain_due f hd hf).append hb
  · exact fun job' outcome' hr => (hc.resolved_due job' outcome' (by simpa using hr)).append hb

theorem Custody.resolve {waker : Option Waker} (hc : Custody slot h closed lane d)
    (hw : lane.worker = .finishing ⟨job, outcome, .resolve⟩) :
    Custody slot (h ++ [.resolved job slot outcome]) closed
      ({ lane with worker := .finishing ⟨job, outcome, .wake waker⟩ } : Lane ρ) d := by
  have hb : begun slot [Event.resolved job slot outcome] = [] := by simp [jobsOf]
  have hdue := hc.worker_due _ hw (by simp [Finish.hand])
  refine ⟨?_, ?_, ?_, ?_, ?_, ?_, hc.drain_closed, ?_, ?_, ?_⟩
  · simpa [jobsOf_concat, Event.slot?, Event.job, hw, Worker.hand, Finish.hand]
      using hc.accepted_eq
  · simpa [jobsOf_concat, hw, Worker.inProgress] using hc.begun_eq
  · simpa [jobsOf_concat, Event.slot?, Event.job, hw, Worker.decided, Finish.hand]
      using hc.begun_prefix
  · simpa [jobsOf_concat, Event.slot?, Event.job, hw, Worker.decided, Finish.hand]
      using hc.begun_open
  · simpa [jobsOf_concat, Event.slot?, Event.job, hw, Worker.lost] using hc.settled_open
  · intro hd
    simpa [hw, Worker.hasEnded] using hc.drain_ended hd
  · rintro f ⟨⟩ hf
    exact absurd rfl hf
  · exact fun f hd hf => (hc.drain_due f hd hf).append hb
  · exact hc.resolved_due_concat hdue

theorem Custody.drainResolve {waker : Option Waker}
    (hc : Custody slot h closed lane (some ⟨job, outcome, .resolve⟩)) :
    Custody slot (h ++ [.resolved job slot outcome]) closed lane
      (some ⟨job, outcome, .wake waker⟩) := by
  have hb : begun slot [Event.resolved job slot outcome] = [] := by simp [jobsOf]
  have hdue := hc.drain_due _ rfl (by simp [Finish.hand])
  have hclosed := hc.drain_closed (by simp)
  obtain ⟨hhand, hprogress, hdecided⟩ := Worker.hand_of_hasEnded (hc.drain_ended (by simp))
  refine ⟨?_, ?_, ?_, ?_, ?_, fun _ => hc.drain_ended (by simp), fun _ => hclosed, ?_, ?_, ?_⟩
  · simpa [jobsOf_concat, Event.slot?, Event.job, hhand, Finish.hand] using hc.accepted_eq
  · simpa [jobsOf_concat] using hc.begun_eq
  · have hpre := hc.begun_prefix
    simp only [hdecided, List.append_nil] at hpre ⊢
    simpa [jobsOf_concat, Event.slot?, Event.job] using hpre.trans (List.prefix_append _ [job])
  · simp [hclosed]
  · simp [hclosed]
  · exact fun f hw hf => (hc.worker_due f hw hf).append hb
  · rintro f ⟨⟩ hf
    exact absurd rfl hf
  · exact hc.resolved_due_concat hdue

theorem Custody.drainQuiet {f : Finish} (hc : Custody slot h closed lane (some f))
    (hq : lane'.queue = lane.queue) (hw : lane'.worker = lane.worker)
    (hhand : drainHand d' = f.hand)
    (hdue : ∀ f', d' = some f' → f'.hand ≠ [] → f'.job = f.job ∧ f'.outcome = f.outcome) :
    Custody slot h closed lane' d' where
  accepted_eq := by rw [hw, hq, hhand]; exact hc.accepted_eq
  begun_eq := by rw [hw]; exact hc.begun_eq
  begun_prefix := by rw [hw]; exact hc.begun_prefix
  begun_open := by rw [hw]; exact hc.begun_open
  settled_open := by rw [hw]; exact hc.settled_open
  drain_ended _ := by rw [hw]; exact hc.drain_ended (by simp)
  drain_closed _ := hc.drain_closed (by simp)
  worker_due := by rw [hw]; exact hc.worker_due
  drain_due f' hd hf := by
    obtain ⟨hj, ho⟩ := hdue f' hd hf
    rw [hj, ho]
    refine hc.drain_due f rfl ?_
    subst hd
    exact hhand ▸ hf
  resolved_due := hc.resolved_due

/-! ### All steps -/

theorem Custody.finish {f : Finish} {f' : Option Finish} {change : Nat → Nat}
    (hc : Custody slot h closed lane d) (hw : lane.worker = .finishing f)
    (hf : LaneFinish slot f f' e change) :
    Custody slot (h ++ e.toList) closed
      ({ lane with depth := change lane.depth, worker := .afterFinish f' } : Lane ρ) d := by
  cases hf with
  | count job outcome | leave job outcome =>
      -- the job in hand is not resolved yet, so what it is due is known
      have hdue := hc.worker_due _ hw (by simp [Finish.hand])
      rw [Option.toList_none, List.append_nil]
      refine hc.quiet rfl ?_ ?_
      · rw [hw]
        exact .finishing rfl
      · rintro f ⟨⟩ -
        exact hdue
  | resolve job outcome waker => exact hc.resolve hw
  | wake job outcome waker =>
      rw [Option.toList_none, List.append_nil]
      refine hc.quiet rfl ?_ (by rintro f ⟨⟩)
      rw [hw]
      exact .finished rfl

theorem Custody.drainFinish {f : Finish} {f' : Option Finish} {change : Nat → Nat}
    (hc : Custody slot h closed lane (some f)) (hf : LaneFinish slot f f' e change) :
    Custody slot (h ++ e.toList) closed { lane with depth := change lane.depth } f' := by
  cases hf with
  | count job outcome | leave job outcome =>
      rw [Option.toList_none, List.append_nil]
      refine hc.drainQuiet rfl rfl rfl ?_
      rintro f' ⟨⟩ -
      exact ⟨rfl, rfl⟩
  | resolve job outcome waker => exact hc.drainResolve
  | wake job outcome waker =>
      rw [Option.toList_none, List.append_nil]
      exact hc.drainQuiet rfl rfl rfl (by simp)

/-- **Every step of a slot keeps every job in its place.** -/
theorem Custody.step (hc : Custody slot h closed lane d)
    (hn : (accepted slot h).Nodup) (hs : LaneStep slot closed lane d e lane' d') :
    Custody slot (h ++ e.toList) closed lane' d' := by
  cases hs with
  | still _ _ he => exact hc.still he
  | enlist | deepen =>
      rw [Option.toList_none, List.append_nil]
      exact hc.quiet rfl (.refl _) hc.worker_due
  | accept _ job => exact hc.accept
  | hop _ worker hidle halive hworker =>
      rw [Option.toList_none, List.append_nil]
      refine hc.quiet rfl (.idle hidle hworker halive) ?_
      rintro f rfl
      simp [Worker.isIdle] at hworker
  | find _ job queue hw hq =>
      rw [Option.toList_none, List.append_nil]
      exact hc.find hw hq
  | reject _ job hw hclosed =>
      subst hclosed
      rw [Option.toList_none, List.append_nil]
      exact hc.reject hn hw
  | begin _ job run hw hopen =>
      subst hopen
      exact hc.begin hw
  | goOn _ job run run' hw =>
      rw [Option.toList_none, List.append_nil]
      refine hc.quiet rfl ?_ (by rintro f ⟨⟩)
      rw [hw]
      exact .running job run run'
  | «return» _ job run outcome hw => exact hc.return hw
  | die _ job run hw => exact hc.die hw
  | finish _ _ f f' change hw hf => exact hc.finish hw hf
  | drainFind job queue hq hended hclosed =>
      subst hclosed
      rw [Option.toList_none, List.append_nil]
      exact hc.drainFind hn hq hended
  | drainFinish f _ _ change hf => exact hc.drainFinish hf

end

end Offload.Pool

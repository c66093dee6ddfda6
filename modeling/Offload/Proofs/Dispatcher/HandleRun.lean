/-
**What callers do with the handles of their jobs.**

Callers poll the handles of their jobs, wait for finished jobs, print the handles and drop them at
any time, while the dispatcher runs, is torn down and is meddled with.  Two runs that differ in
operations on the handles of some jobs are compared: nothing is different but what these very
operations answer.

Main definitions:

* `HandleRun` — a dispatcher on a driver that keeps a record of its calls, with the handles that
  callers have been given and the answers that they got through them;
* `HandleRun.Turn`, `HandleRun.turn`, `HandleRun.turns` — one thing that happens, and many;
* `HandleRun.Turn.keeps` — the turns other than the operations on the handles of some jobs;
* `HandleRun.muted` — what is compared of a run;
* `HandleRun.Alike` — runs that differ in nothing but what handles of these jobs show.

Main results:

* `HandleRun.muted_turn`, `HandleRun.muted_of_turn_of_not_keeps` — what is compared, after one turn;
* `HandleRun.muted_turns` — the same for runs;
* `HandleRun.alike_of_filter_eq` — **runs that differ in operations on the handles of some jobs are
  alike at every moment**.
-/

import Offload.Proofs.Dispatcher.Muted
import Offload.Proofs.Dispatcher.RoundTrip
import Offload.Proofs.Native.Traced
import Offload.Proofs.Pool.Handles

set_option autoImplicit false
set_option relaxedAutoImplicit false

namespace Offload

open Native

theorem Ledger.muted_issue_congr {K : Ticket → Bool} {l l' : Ledger} (h : l'.muted K = l.muted K) :
    l'.issue.1 = l.issue.1 ∧ l'.issue.2.muted K = l.issue.2.muted K := by
  have hlength : l'.cells.length = l.cells.length := by
    rw [← length_cells_muted (K := K) (l := l'), h, length_cells_muted]
  refine ⟨hlength, ?_⟩
  obtain ⟨hcells, hwakeUps⟩ := Ledger.mk.inj h
  simp only [muted, issue, List.mapIdx_concat, hcells, hwakeUps, hlength]

/-- A dispatcher on a driver that keeps a record of its calls, with what has happened so far, the
handles that its callers have been given, and what was answered through the handle of each job. -/
structure HandleRun (σ : Type) where
  station : Station (Traced σ)
  history : Pool.History
  jobs : Script.Jobs
  answers : List (Ticket × Script.Answer)

namespace HandleRun

variable {σ : Type}

/-- What can happen next. -/
inductive Turn (σ : Type) where
  /-- A caller asks for a job to be executed. -/
  | execute (input : Bytes)
  /-- The station makes a step. -/
  | move (move : Station.Move)
  /-- A test does something to the device. -/
  | meddle (change : σ → Option σ)
  /-- A caller performs an operation on registers or logging. -/
  | operate (o : Op)
  /-- A caller does something with the handle of a job. -/
  | handle (job : Ticket) (op : Script.JobOp)

/-- A turn other than an operation on the handle of a job that is not kept. -/
def Turn.keeps (K : Ticket → Bool) : Turn σ → Bool
  | .handle job _ => K job
  | _ => true

/-- A caller is given a handle when its job has been accepted or refused. -/
def handed (jobs : Script.Jobs) : Option Pool.Event → Script.Jobs
  | some (.accepted job slot) => jobs.add ⟨job.ticket, some slot⟩ true
  | some (.refused job) => jobs.add ⟨job.ticket, none⟩ true
  | _ => jobs

/-- The place of the handle of a job. -/
def place (jobs : Script.Jobs) (job : Ticket) : Nat :=
  jobs.findIdx fun e => e.handle.ticket = job

/-- A run after a step of its station. -/
def after (z : HandleRun σ) (r : Station (Traced σ) × Option Pool.Event) : HandleRun σ :=
  { z with station := r.1, history := z.history ++ r.2.toList, jobs := handed z.jobs r.2 }

/-- A run after an operation on the handle of a job. -/
def answered (z : HandleRun σ) (job : Ticket) (r : Script.Answer × Script.Jobs × Ledger) :
    HandleRun σ :=
  { z with
    station := { z.station with ledger := r.2.2 }
    jobs := r.2.1
    answers := z.answers ++ [(job, r.1)] }

/-- What was answered through the handle of a job, in this order. -/
def answersOf (z : HandleRun σ) (job : Ticket) : List Script.Answer :=
  (z.answers.filter fun a => a.1 = job).map (·.2)

section

variable (D : Driver σ) (patience : σ → Nat)

/-- A step of the station, on the driver that keeps a record. -/
def step (s : Station (Traced σ)) (move : Station.Move) :
    Option (Station (Traced σ) × Option Pool.Event) :=
  s.step D.traced (fun w => patience w.inner) move

/-- One turn, which is missing when it is not possible. -/
def turn (z : HandleRun σ) : Turn σ → Option (HandleRun σ)
  | .execute input =>
      let (ticket, ledger) := z.station.ledger.issue
      (step D patience { z.station with ledger } (.execute ⟨ticket, input⟩)).map z.after
  | .move move =>
      if move.isExecution then none else (step D patience z.station move).map z.after
  | .meddle change =>
      (change z.station.world.driver.inner).map fun inner =>
        let world := { z.station.world with driver := { z.station.world.driver with inner } }
        { z with station := { z.station with world } }
  | .operate o =>
      some { z with station := { z.station with world := (D.traced.answer o z.station.world).2 } }
  | .handle job op =>
      some (z.answered job (Script.Jobs.perform op (place z.jobs job) z.jobs z.station.ledger))

/-- Many turns. -/
def turns (ts : List (Turn σ)) (z : HandleRun σ) : Option (HandleRun σ) :=
  ts.foldlM (turn D patience) z

end

/-! ### What is compared -/

variable {K : Ticket → Bool} {D : Driver σ} {patience : σ → Nat} {z z' : HandleRun σ} {t : Turn σ}

/-- A run, without what the handles of the jobs that are not kept can show. -/
def muted (K : Ticket → Bool) (z : HandleRun σ) : HandleRun σ where
  station := z.station.muted K
  history := z.history
  jobs := z.jobs.muted K
  answers := z.answers.filter fun a => K a.1

theorem muted_eq_iff :
    z'.muted K = z.muted K ↔
      z'.station.muted K = z.station.muted K ∧ z'.history = z.history ∧
        z'.jobs.muted K = z.jobs.muted K ∧
        z'.answers.filter (fun a => K a.1) = z.answers.filter fun a => K a.1 := by
  rw [muted, muted, mk.injEq]

theorem muted_withLedger {s s' : Station (Traced σ)} {l l' : Ledger}
    (hs : s'.muted K = s.muted K) (hl : l'.muted K = l.muted K) :
    ({ s' with ledger := l' } : Station (Traced σ)).muted K =
      ({ s with ledger := l } : Station (Traced σ)).muted K := by
  obtain ⟨hworld, -, hdispatcher⟩ := Station.muted_eq_iff.1 hs
  exact Station.muted_eq_iff.2 ⟨hworld, hl, hdispatcher⟩

theorem muted_withWorld {s s' : Station (Traced σ)} (hs : s'.muted K = s.muted K)
    (world : World (Traced σ)) :
    ({ s' with world } : Station (Traced σ)).muted K =
      ({ s with world } : Station (Traced σ)).muted K :=
  congrArg (fun s => ({ s with world } : Station (Traced σ))) hs

theorem step_congr {s s' : Station (Traced σ)} (hs : s'.muted K = s.muted K)
    (move : Station.Move) :
    (step D patience s' move).map (Station.mutedStep K) =
      (step D patience s move).map (Station.mutedStep K) := by
  rw [step, step, ← Station.muted_step s', hs, Station.muted_step s]

theorem place_eq_of_muted {jobs jobs' : Script.Jobs} (h : jobs'.muted K = jobs.muted K)
    (job : Ticket) : place jobs' job = place jobs job := by
  have hplace (jobs : Script.Jobs) :
      place jobs job = (jobs.map (·.handle)).findIdx fun h => h.ticket = job := by
    rw [List.findIdx_map]
    rfl
  rw [hplace jobs', hplace jobs, Script.Jobs.handles_eq_of_muted h]

theorem ticket_of_mem_place {jobs : Script.Jobs} {job : Ticket} {e : Script.JobEntry}
    (he : e ∈ jobs[place jobs job]?) : e.handle.ticket = job := by
  obtain ⟨hlt, rfl⟩ := List.getElem?_eq_some_iff.1 he
  exact of_decide_eq_true (List.findIdx_getElem (w := hlt))

theorem muted_after (h : z'.muted K = z.muted K) {r r' : Station (Traced σ) × Option Pool.Event}
    (hr : Station.mutedStep K r' = Station.mutedStep K r) :
    (z'.after r').muted K = (z.after r).muted K := by
  obtain ⟨-, hhistory, hjobs, hanswers⟩ := muted_eq_iff.1 h
  obtain ⟨s, e⟩ := r
  obtain ⟨s', e'⟩ := r'
  obtain ⟨hs, rfl⟩ := Prod.mk.inj hr
  have hhanded : (handed z'.jobs e').muted K = (handed z.jobs e').muted K := by
    cases e' with
    | none => exact hjobs
    | some event =>
        cases event with
        | accepted | refused => exact Script.Jobs.muted_add_congr hjobs _ _
        | _ => exact hjobs
  exact muted_eq_iff.2 ⟨hs, congrArg (· ++ e'.toList) hhistory, hhanded, hanswers⟩

theorem muted_answered (h : z'.muted K = z.muted K) (job : Ticket)
    {r r' : Script.Answer × Script.Jobs × Ledger}
    (hr : Script.Jobs.mutedAnswer K r' = Script.Jobs.mutedAnswer K r) :
    (z'.answered job r').muted K = (z.answered job r).muted K := by
  obtain ⟨hstation, hhistory, -, hanswers⟩ := muted_eq_iff.1 h
  obtain ⟨answer, jobs, ledger⟩ := r
  obtain ⟨answer', jobs', ledger'⟩ := r'
  obtain ⟨rfl, hrest⟩ := Prod.mk.inj hr
  obtain ⟨hjobs, hledger⟩ := Prod.mk.inj hrest
  refine muted_eq_iff.2 ⟨muted_withLedger hstation hledger, hhistory, hjobs, ?_⟩
  rw [answered, answered, List.filter_append, List.filter_append, hanswers]

/-! ### One turn -/

/-- **A turn that is kept** depends on nothing that is left out. -/
theorem muted_turn (h : z'.muted K = z.muted K) (ht : t.keeps K = true) :
    (z'.turn D patience t).map (muted K) = (z.turn D patience t).map (muted K) := by
  obtain ⟨hstation, hhistory, hjobs, hanswers⟩ := muted_eq_iff.1 h
  obtain ⟨hworld, hledger, -⟩ := Station.muted_eq_iff.1 hstation
  cases t with
  | execute input =>
      obtain ⟨hticket, hissued⟩ := Ledger.muted_issue_congr hledger
      simp only [turn, hticket, Option.map_map]
      exact map_eq_of_map_eq (step_congr (muted_withLedger hstation hissued) _)
        fun _ _ hr => muted_after h hr
  | move move =>
      simp only [turn]
      split
      · rfl
      · rw [Option.map_map, Option.map_map]
        exact map_eq_of_map_eq (step_congr hstation move) fun _ _ hr => muted_after h hr
  | meddle change =>
      simp only [turn, hworld, Option.map_map]
      cases change z.station.world.driver.inner with
      | none => rfl
      | some inner =>
          exact congrArg some (muted_eq_iff.2
            ⟨muted_withWorld hstation _, hhistory, hjobs, hanswers⟩)
  | operate o =>
      simp only [turn, hworld]
      exact congrArg some (muted_eq_iff.2
        ⟨muted_withWorld hstation _, hhistory, hjobs, hanswers⟩)
  | handle job op =>
      have hkept : ∀ e ∈ z.jobs[place z.jobs job]?, K e.handle.ticket = true := by
        intro e he
        rw [ticket_of_mem_place he]
        exact ht
      have hsame := Script.Jobs.muted_perform op hjobs hledger hkept
      rw [turn, turn, place_eq_of_muted hjobs]
      exact congrArg some (muted_answered h job hsame)

/-- **A turn that is not kept** is always possible, and makes no difference but to what is left
out. -/
theorem muted_of_turn_of_not_keeps (ht : t.keeps K = false) :
    ∃ z', z.turn D patience t = some z' ∧ z'.muted K = z.muted K := by
  cases t with
  | handle job op =>
      have hgone : ∀ e ∈ z.jobs[place z.jobs job]?, K e.handle.ticket = false := by
        intro e he
        rw [ticket_of_mem_place he]
        exact ht
      have hjob : K job = false := ht
      obtain ⟨hjobs, hledger⟩ :=
        Script.Jobs.muted_perform_of_not_kept (l := z.station.ledger) op hgone
      refine ⟨_, rfl, muted_eq_iff.2 ⟨muted_withLedger rfl hledger, rfl, hjobs, ?_⟩⟩
      simp [answered, hjob]
  | _ => cases ht

/-! ### Runs -/

/-- **A run does not depend on the operations on handles that are not kept.** -/
theorem muted_turns (ts : List (Turn σ)) (h : z'.muted K = z.muted K) :
    (turns D patience ts z').map (muted K) =
      (turns D patience (ts.filter (Turn.keeps K)) z).map (muted K) := by
  induction ts generalizing z z' with
  | nil => exact congrArg some h
  | cons t ts ih =>
      cases ht : t.keeps K with
      | true =>
          have hturn :
              (z'.turn D patience t).map (muted K) = (z.turn D patience t).map (muted K) :=
            muted_turn h ht
          rw [List.filter_cons_of_pos ht, turns, turns, List.foldlM_cons, List.foldlM_cons]
          cases hz : z.turn D patience t with
          | none =>
              rw [hz, Option.map_none, Option.map_eq_none_iff] at hturn
              rw [hturn]
              rfl
          | some y =>
              rw [hz, Option.map_some, Option.map_eq_some_iff] at hturn
              obtain ⟨y', hz', hy⟩ := hturn
              rw [hz']
              exact ih hy
      | false =>
          obtain ⟨y', hz', hy⟩ :
              ∃ y, z'.turn D patience t = some y ∧ y.muted K = z'.muted K :=
            muted_of_turn_of_not_keeps ht
          rw [List.filter_cons_of_neg (by simp [ht]), turns, foldlM_cons_of_eq_some hz']
          exact ih (hy.trans h)

/-- Runs that differ in nothing but what the handles of the jobs that are not kept can show. -/
structure Alike (K : Ticket → Bool) (z z' : HandleRun σ) : Prop where
  /-- The state of the driver, the native calls with their replies, and the state of logging. -/
  world : z'.station.world = z.station.world
  stats : z'.station.dispatcher.pool.stats = z.station.dispatcher.pool.stats
  /-- What has happened to jobs, in this order: where they were accepted, and when they began,
  returned and were resolved, with their outcomes. -/
  history : z'.history = z.history
  /-- The handles that callers have been given, with the slots of the jobs. -/
  handles : z'.jobs.map (·.handle) = z.jobs.map (·.handle)
  resolved : ∀ t, z'.station.ledger.isResolved t = z.station.ledger.isResolved t
  /-- The answers to the operations on the handles that are kept. -/
  answers : ∀ job, K job = true → z'.answersOf job = z.answersOf job

/-- What is compared of a run is all of this. -/
theorem alike_of_muted (h : z'.muted K = z.muted K) : Alike K z z' := by
  obtain ⟨hstation, hhistory, hjobs, hanswers⟩ := muted_eq_iff.1 h
  obtain ⟨hworld, hledger, hdispatcher⟩ := Station.muted_eq_iff.1 hstation
  have hpool : z'.station.dispatcher.pool.muted K = z.station.dispatcher.pool.muted K :=
    congrArg Dispatcher.pool hdispatcher
  refine
    { world := hworld
      stats := by rw [← Pool.stats_muted (K := K), hpool, Pool.stats_muted]
      history := hhistory
      handles := Script.Jobs.handles_eq_of_muted hjobs
      resolved := Ledger.isResolved_eq_of_muted hledger
      answers := ?_ }
  intro job hjob
  have hfilter (z : HandleRun σ) : z.answersOf job =
      ((z.answers.filter fun a => K a.1).filter fun a => a.1 = job).map (·.2) := by
    rw [answersOf, List.filter_filter]
    refine congrArg (List.map _) (List.filter_congr fun a _ => ?_)
    by_cases ha : a.1 = job
    · simp [ha, hjob]
    · simp [ha]
  rw [hfilter z', hanswers, ← hfilter z]

/-- A run with other operations on handles that are not kept is possible, and ends alike. -/
theorem exists_alike {ts ts' : List (Turn σ)} {z₀ : HandleRun σ}
    (hts : ts'.filter (Turn.keeps K) = ts.filter (Turn.keeps K))
    (hz : turns D patience ts z₀ = some z) :
    ∃ z', turns D patience ts' z₀ = some z' ∧ Alike K z z' := by
  have hsame :
      (turns D patience ts' z₀).map (muted K) = (turns D patience ts z₀).map (muted K) := by
    rw [muted_turns ts' rfl, hts, muted_turns ts rfl]
  rw [hz, Option.map_some, Option.map_eq_some_iff] at hsame
  obtain ⟨z', hz', hmuted⟩ := hsame
  exact ⟨z', hz', alike_of_muted hmuted⟩

/-- **Handles observe and never influence.**  Operations on the handles of some jobs are put into a
run, or are left out of it, wherever they were: the run is still possible, and it ends with the same
native calls, the same state of the device, the same statistics, the same slots, the same order in
which jobs were resolved, and the same answers through all other handles.  So it does at every
moment: whenever the one run is left off, the other one can be left off so that it is alike. -/
theorem alike_of_filter_eq {ts ts' : List (Turn σ)} {z₀ : HandleRun σ}
    (hts : ts'.filter (Turn.keeps K) = ts.filter (Turn.keeps K))
    (hz : turns D patience ts z₀ = some z) :
    (∃ z', turns D patience ts' z₀ = some z' ∧ Alike K z z') ∧
    ∀ us', us' <+: ts' → ∃ us y y', us <+: ts ∧
      us.filter (Turn.keeps K) = us'.filter (Turn.keeps K) ∧
      turns D patience us z₀ = some y ∧ turns D patience us' z₀ = some y' ∧ Alike K y y' := by
  refine ⟨exists_alike hts hz, fun us' hus' => ?_⟩
  have hprefix : us'.filter (Turn.keeps K) <+: ts.filter (Turn.keeps K) := by
    rw [← hts]
    exact hus'.filter _
  obtain ⟨us, hus, hfilter⟩ := List.prefix_filter_iff.1 hprefix
  obtain ⟨rest, rfl⟩ := hus
  obtain ⟨y, hy, -⟩ := foldlM_append_eq_some.1 hz
  obtain ⟨y', hy', halike⟩ := exists_alike hfilter hy
  exact ⟨us, y, y', ⟨rest, rfl⟩, hfilter.symm, hy, hy', halike⟩

/-! ### A handle that is watched and dropped -/

/-- A dispatcher that has been brought up, with nothing on record. -/
def opened (d : Dispatcher) (w : World σ) : HandleRun σ where
  station := { world := ⟨⟨w.driver, []⟩, w.router⟩, ledger := .empty, dispatcher := d }
  history := []
  jobs := []
  answers := []

/-- Two jobs are submitted and run; the first one is polled, printed and dropped meanwhile, if its
handle is watched at all. -/
def twoJobs (isWatched : Bool) : List (Turn Simulator) :=
  let often (count : Nat) (move : Station.Move) : List (Turn Simulator) :=
    List.replicate count (.move move)
  let watch (op : Script.JobOp) : List (Turn Simulator) :=
    if isWatched then [.handle 0 op] else []
  .execute [1] :: .move (.enter 0) :: often 6 .proceed ++ watch (.poll ⟨"w"⟩) ++
    .execute [2, 3] :: .move (.enter 1) :: often 8 .proceed ++ watch .text ++
    often 10 (.work 0) ++ watch .drop ++ often 24 (.work 0) ++ watch .finished ++
    [.handle 1 .wait]

/-- The run in which nobody watches. -/
def afterTwoJobs : Option (Dispatcher × HandleRun Simulator) :=
  Station.Run.broughtUp.1.toOption.bind fun d =>
    (turns (Simulator.driver Station.Run.backwards) Simulator.patience (twoJobs false)
      (opened d Station.Run.broughtUp.2)).map fun z => (d, z)

theorem history_twoJobs :
    afterTwoJobs.map (fun r => (r.2.history, r.2.answersOf 1)) = some
      ([.accepted ⟨0, [1]⟩ 0, .accepted ⟨1, [2, 3]⟩ 0, .begun ⟨0, [1]⟩ 0,
        .returned ⟨0, [1]⟩ 0 (.ok [0, 0, 0, 1]), .resolved ⟨0, [1]⟩ 0 (.ok [0, 0, 0, 1]),
        .begun ⟨1, [2, 3]⟩ 0, .returned ⟨1, [2, 3]⟩ 0 (.ok [0, 0, 3, 2]),
        .resolved ⟨1, [2, 3]⟩ 0 (.ok [0, 0, 3, 2])],
        [.result (.ok (.bytes [0, 0, 3, 2]))]) := by
  rfl

/-- A handle that is dropped while its job runs does not take the job with it, and makes no
difference to another job. -/
theorem alike_of_filter_eq_dropped :
    ∃ d z z', Station.Run.broughtUp.1.toOption = some d ∧
      turns (Simulator.driver Station.Run.backwards) Simulator.patience (twoJobs false)
        (opened d Station.Run.broughtUp.2) = some z ∧
      turns (Simulator.driver Station.Run.backwards) Simulator.patience (twoJobs true)
        (opened d Station.Run.broughtUp.2) = some z' ∧
      Alike (fun job => job = 1) z z' ∧
      Pool.Event.resolved ⟨0, [1]⟩ 0 (.ok [0, 0, 0, 1]) ∈ z'.history ∧
      z'.answersOf 1 = [.result (.ok (.bytes [0, 0, 3, 2]))] := by
  obtain ⟨⟨d, z⟩, hrun, hseen⟩ := Option.map_eq_some_iff.1 history_twoJobs
  obtain ⟨hhistory, hanswers⟩ := Prod.mk.inj hseen
  obtain ⟨d', hd, hrun⟩ := Option.bind_eq_some_iff.1 hrun
  obtain ⟨z₁, hz, heq⟩ := Option.map_eq_some_iff.1 hrun
  obtain ⟨rfl, rfl⟩ := Prod.mk.inj heq
  have hsame : (twoJobs true).filter (Turn.keeps fun job => job = 1) =
      (twoJobs false).filter (Turn.keeps fun job => job = 1) := rfl
  obtain ⟨⟨z', hz', halike⟩, -⟩ := alike_of_filter_eq hsame hz
  have hhistory : z₁.history = _ := hhistory
  have hanswers : z₁.answersOf 1 = _ := hanswers
  refine ⟨d', z₁, z', hd, hz, hz', halike, ?_, ?_⟩
  · rw [halike.history, hhistory]
    simp
  · rw [halike.answers 1 rfl, hanswers]

end HandleRun

end Offload

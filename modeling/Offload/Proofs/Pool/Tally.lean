/-
**What a pool has counted.**

Every step that counts a job as completed or failed is noted with the job and its outcome.  A job
that is resolved has been noted once, with the outcome that its handle reports, and has no place in
any depth any more; a job that has taken its worker with it keeps its place for ever.

Main definitions:

* `Pool.Scheduler.tally`, `Pool.Run.tallies` — the jobs that are counted by a step, and by a run;
* `Pool.Balanced` — **the invariant**.

Main results:

* `Pool.Balanced.step` — every step of a pool keeps its counters balanced;
* `Pool.Run.balanced` — the counters of every run are balanced;
* `Pool.Balanced.tallied_once` — **a resolved job has been counted once**.
-/

import Offload.Proofs.Pool.Depth
import Offload.Proofs.Pool.Running
import Offload.Proofs.Pool.Shutdown

set_option autoImplicit false
set_option relaxedAutoImplicit false

namespace Offload.Pool

variable {ρ S : Type}

/-! ### Tallies -/

/-- A job that is counted, with its outcome. -/
abbrev Tally : Type := Job × Outcome Bytes

/-- The job succeeded. -/
def Tally.isOk (x : Tally) : Bool := x.2.isOk

/-- The job that is counted by the next step of finishing it. -/
def Finish.tally (f : Finish) : List Tally :=
  match f.next with
  | .count => [(f.job, f.outcome)]
  | _ => []

/-- The job that has been counted and is not resolved yet. -/
def Finish.counted (f : Finish) : List Tally :=
  match f.next with
  | .leave | .resolve => [(f.job, f.outcome)]
  | _ => []

/-- The job that a worker has counted and not resolved yet. -/
def Worker.counted : Worker ρ → List Tally
  | finishing f => f.counted
  | _ => []

/-- The job that the closing call has counted and not resolved yet. -/
def Closing.counted : Closing → List Tally
  | draining _ (some f) => f.counted
  | _ => []

/-- The job that is resolved, with its outcome. -/
def Event.resolution : Event → List Tally
  | resolved job _ outcome => [(job, outcome)]
  | _ => []

/-- The jobs that a move counts as completed or failed. -/
def Scheduler.tally (s : Scheduler ρ S) : Move → List Tally
  | .work slot =>
      match s.pool.worker? slot with
      | some (.finishing f) => f.tally
      | _ => []
  | .wind =>
      match s.pool.closing with
      | .draining _ (some f) => f.tally
      | _ => []
  | _ => []

/-- The jobs that a turn counts as completed or failed. -/
def Run.tally (r : Run ρ S) : Turn S → List Tally
  | .move move => r.scheduler.tally move
  | _ => []

/-- The jobs that are counted as completed or failed when these turns are taken, in this order. -/
def Run.tallies (exec : Executor ρ S) : List (Turn S) → Run ρ S → List Tally
  | [], _ => []
  | t :: ts, r => r.tally t ++ ((r.turn exec t).map (tallies exec ts)).getD []

/-! ### The invariant -/

/-- The jobs that were counted are those that have been resolved and those that will be. -/
def TalliesFit (tallies : List Tally) (h : History) (p : Pool ρ) : Prop :=
  ∀ q : Tally → Bool, tallies.countP q =
    (h.flatMap Event.resolution).countP q + p.total (fun lane => lane.worker.counted.countP q) +
      p.closing.counted.countP q

/-- The counters of a pool fit the jobs of its history. -/
structure Balanced (tallies : List Tally) (h : History) (p : Pool ρ) : Prop where
  depth : DepthFits p
  sum : SumFits p
  completed : p.completed = tallies.countP Tally.isOk
  failed : p.failed = tallies.countP fun x => !x.isOk
  tallied : TalliesFit tallies h p
  lost : ∀ slot lane, p.lanes[slot]? = some lane → died slot h = lane.worker.lost

section

variable {exec : Executor ρ S} {s s' : Scheduler ρ S} {move : Move} {e : Option Event}
  {p p' : Pool ρ}

/-! ### What is counted -/

/-- The job that is left to be finished has been counted. -/
def finishCounted : Option Finish → List Tally
  | some f => f.counted
  | none => []

@[simp] theorem Worker.counted_afterFinish (f' : Option Finish) :
    (Worker.afterFinish f' : Worker ρ).counted = finishCounted f' := by
  cases f' <;> rfl

@[simp] theorem Closing.counted_draining (slot : Nat) (f : Option Finish) :
    (Closing.draining slot f).counted = finishCounted f := by
  cases f <;> rfl

theorem tally_of_finishing {slot : Nat} {f : Finish} {f' : Option Finish}
    (hf : Scheduler.Finishing s slot f f' e s') :
    f.tally ++ f.counted = e.toList.flatMap Event.resolution ++ finishCounted f' := by
  cases hf <;> rfl

theorem counts_of_finishing {slot : Nat} {f : Finish} {f' : Option Finish}
    (hf : Scheduler.Finishing s slot f f' e s') :
    s'.pool.completed = s.pool.completed + f.tally.countP Tally.isOk ∧
      s'.pool.failed = s.pool.failed + f.tally.countP fun x => !x.isOk := by
  cases hf with
  | count job outcome => cases outcome <;> exact ⟨rfl, rfl⟩
  | leave | resolve | wake => exact ⟨rfl, rfl⟩

theorem tally_work_finishing {slot : Nat} {lane : Lane ρ} {f : Finish}
    (hl : s.pool.lanes[slot]? = some lane) (hw : lane.worker = .finishing f) :
    s.tally (.work slot) = f.tally := by
  simp only [Scheduler.tally, worker?_of_lane hl, hw]

theorem tally_work_of_ne {slot : Nat} {lane : Lane ρ} (hl : s.pool.lanes[slot]? = some lane)
    (hw : ∀ f, lane.worker ≠ .finishing f) : s.tally (.work slot) = [] := by
  simp only [Scheduler.tally, worker?_of_lane hl]
  split
  · next f hf => exact absurd (Option.some_inj.1 hf) (hw f)
  · rfl

theorem counts_of_transition (ht : Scheduler.Transition exec s move e s') :
    s'.pool.completed = s.pool.completed + (s.tally move).countP Tally.isOk ∧
      s'.pool.failed = s.pool.failed + (s.tally move).countP fun x => !x.isOk := by
  cases ht with
  | finish slot lane f f' e t hl hw hf =>
      rw [tally_work_finishing hl hw]
      obtain ⟨hok, herror⟩ := counts_of_finishing hf
      exact ⟨hok, herror⟩
  | drainFinish slot f f' e t hc hf =>
      have htally : s.tally .wind = f.tally := by simp only [Scheduler.tally, hc]
      rw [htally]
      obtain ⟨hok, herror⟩ := counts_of_finishing hf
      exact ⟨hok, herror⟩
  | find _ _ _ _ hl hw | start _ _ hl hw | miss _ _ hl hw | reject _ _ _ hl hw
  | begin _ _ _ hl hw | goOn _ _ _ _ _ _ hl hw | «return» _ _ _ _ _ _ hl hw
  | die _ _ _ _ _ hl hw | doubtOpen _ _ hl hw | doubtClosed _ _ hl hw | stop _ _ hl hw =>
      rw [tally_work_of_ne hl (by simp [hw])]
      exact ⟨rfl, rfl⟩
  | join _ _ hc | joined _ hc | drainNext _ _ hc | drained _ hc | drainFind _ _ _ _ hc =>
      simp only [Scheduler.tally, hc]
      exact ⟨rfl, rfl⟩
  | _ => exact ⟨rfl, rfl⟩

/-- A change of one slot, or of none, by which a job is counted or resolved. -/
theorem TalliesFit.of_modify {T : List Tally} {h : History} {slot : Nat} {lane : Lane ρ}
    {change : Lane ρ → Lane ρ} {new : List Tally} (hT : TalliesFit T h p)
    (hl : p.lanes[slot]? = some lane) (hlanes : p'.lanes = p.lanes.modify slot change)
    (hnew : ∀ q, new.countP q + lane.worker.counted.countP q + p.closing.counted.countP q =
      (e.toList.flatMap Event.resolution).countP q + (change lane).worker.counted.countP q +
        p'.closing.counted.countP q) : TalliesFit (T ++ new) (h ++ e.toList) p' := by
  intro q
  have htotal := total_of_modify hl hlanes fun lane => lane.worker.counted.countP q
  have hold := hT q
  have hsum := hnew q
  simp only [List.countP_append, List.flatMap_append]
  omega

theorem TalliesFit.of_lanes {T : List Tally} {h : History} (hT : TalliesFit T h p)
    (hlanes : p'.lanes = p.lanes) (hclosing : p'.closing.counted = p.closing.counted)
    (he : e.toList.flatMap Event.resolution = []) : TalliesFit (T ++ []) (h ++ e.toList) p' := by
  intro q
  have hold := hT q
  simp only [List.append_nil, List.flatMap_append, he, total, hlanes, hclosing]
  exact hold

/-- Every step keeps the tallies fitting. -/
theorem TalliesFit.step {T : List Tally} {h : History} (hT : TalliesFit T h s.pool)
    (hp : Phased s.pool) (ht : Scheduler.Transition exec s move e s') :
    TalliesFit (T ++ s.tally move) (h ++ e.toList) s'.pool := by
  cases ht with
  | lock | refuse | enter | glanceFree | glanceBusy | scanFree | scanBusy | scanOut
  | countSubmitted | closeAgain => exact hT.of_lanes rfl rfl rfl
  | enlist | deepen | accept =>
      obtain ⟨lane, hl⟩ := exists_lane hp.cursor_lt
      exact hT.of_modify hl rfl fun q => by simp [Scheduler.tally, Event.resolution, modifyLane]
  | find _ _ _ _ hl hw | start _ _ hl hw | miss _ _ hl hw | reject _ _ _ hl hw
  | begin _ _ _ hl hw | goOn _ _ _ _ _ _ hl hw | «return» _ _ _ _ _ _ hl hw
  | die _ _ _ _ _ hl hw | doubtOpen _ _ hl hw | doubtClosed _ _ hl hw | stop _ _ hl hw =>
      rw [tally_work_of_ne hl (by simp [hw])]
      refine hT.of_modify hl rfl fun q => ?_
      rw [hw]
      rfl
  | finish slot lane f f' e t hl hw hf =>
      obtain ⟨change, hlf, hfin⟩ := Scheduler.laneFinish_of_finishing hf
      rw [tally_work_finishing hl hw]
      have hlanes := hfin.lanes_setWorker (.afterFinish f')
      refine hT.of_modify hl hlanes fun q => ?_
      have hcount := congrArg (List.countP q) (tally_of_finishing hf)
      rw [List.countP_append, List.countP_append] at hcount
      rw [hw, closing_setWorker, hfin.closing, Worker.counted_afterFinish]
      show _ + f.counted.countP q + _ = _
      omega
  | drainFinish slot f f' e t hc hf =>
      obtain ⟨change, hlf, hfin⟩ := Scheduler.laneFinish_of_finishing hf
      obtain ⟨lane, hl⟩ := exists_lane (hp.drain_lt slot f hc)
      have htally : s.tally .wind = f.tally := by simp only [Scheduler.tally, hc]
      rw [htally]
      refine hT.of_modify hl hfin.lanes fun q => ?_
      have hcount := congrArg (List.countP q) (tally_of_finishing hf)
      rw [List.countP_append, List.countP_append] at hcount
      simp only [hc, Closing.counted_draining]
      show _ + _ + f.counted.countP q = _
      omega
  | drainFind slot lane job queue hc hl hq =>
      have htally : s.tally .wind = [] := by simp only [Scheduler.tally, hc]
      rw [htally]
      refine hT.of_modify hl rfl fun q => ?_
      rw [hc]
      rfl
  | close hsub hopen =>
      have hc := hp.notBegun_iff.2 hopen
      exact hT.of_lanes rfl (by rw [hc]; rfl) rfl
  | join _ _ hc | joined _ hc | drainNext _ _ hc | drained _ hc =>
      have htally : s.tally .wind = [] := by simp only [Scheduler.tally, hc]
      rw [htally]
      exact hT.of_lanes rfl (by rw [hc]; rfl) rfl

/-- A job that has taken a worker with it stays with it for ever. -/
theorem lost_of_laneStep {slot : Nat} {h : History} {closed : Bool} {lane lane' : Lane ρ}
    {d d' : Option Finish} (hs : LaneStep slot closed lane d e lane' d')
    (hlost : died slot h = lane.worker.lost) :
    died slot (h ++ e.toList) = lane'.worker.lost := by
  cases hs with
  | still _ _ he =>
      cases e with
      | none => simpa using hlost
      | some e' =>
          rw [Option.toList_some, died, jobsOf_concat_of_not fun hk => he e' rfl hk.2]
          exact hlost
  | hop _ worker hidle _ hworker =>
      rw [Option.toList_none, List.append_nil, hlost, (Worker.hand_of_isIdle hidle).2.2.2,
        (Worker.hand_of_isIdle hworker).2.2.2]
  | die _ job run hw =>
      rw [hw] at hlost
      rw [Option.toList_some, died, jobsOf_concat_of rfl rfl, ← died, hlost]
      rfl
  | finish _ f f' _ change hw hf =>
      rw [hw] at hlost
      have hsame : died slot (h ++ e.toList) = died slot h := by
        cases hf <;> simp [jobsOf_concat]
      rw [hsame, hlost]
      cases f' <;> rfl
  | drainFinish f _ _ change hf =>
      have hsame : died slot (h ++ e.toList) = died slot h := by
        cases hf <;> simp [jobsOf_concat]
      rw [hsame, hlost]
  | accept => simpa [jobsOf_concat] using hlost
  | find _ _ _ hw | reject _ _ hw | begin _ _ _ hw | goOn _ _ _ _ hw | «return» _ _ _ _ hw =>
      rw [hw] at hlost
      simpa [jobsOf_concat, Worker.lost] using hlost
  | enlist | deepen | drainFind => simpa using hlost

/-- **Every step of a pool keeps its counters balanced.** -/
theorem Balanced.step {T : List Tally} {h : History} (hb : Balanced T h s.pool)
    (hp : Phased s.pool) (ht : Scheduler.Transition exec s move e s') :
    Balanced (T ++ s.tally move) (h ++ e.toList) s'.pool where
  depth := hb.depth.step hp ht
  sum := hb.sum.step hb.depth hp ht
  completed := by
    rw [(counts_of_transition ht).1, hb.completed, List.countP_append]
  failed := by
    rw [(counts_of_transition ht).2, hb.failed, List.countP_append]
  tallied := hb.tallied.step hp ht
  lost slot lane' hl' := by
    obtain ⟨lane, hl, hstep⟩ := Scheduler.laneStep_of_transition ht hp hl'
    exact lost_of_laneStep hstep (hb.lost slot lane hl)

theorem Balanced.fresh (slots : Nat) : Balanced [] [] (fresh slots : Pool ρ) := by
  have hidle : ∀ (i : Nat) (lane : Lane ρ),
      (Pool.fresh slots : Pool ρ).lanes[i]? = some lane → lane = Lane.idle := by
    intro i lane hl
    exact List.eq_of_mem_replicate (List.mem_of_getElem? hl)
  have htotal : ∀ number : Lane ρ → Nat, number Lane.idle = 0 →
      (Pool.fresh slots : Pool ρ).total number = 0 := fun number hzero =>
    total_eq_zero fun i lane hl => hidle i lane hl ▸ hzero
  refine ⟨fun i lane hl => ?_, ?_, rfl, rfl, fun q => ?_, fun i lane hl => ?_⟩
  · rw [hidle i lane hl]
    simp [length_inDepth, Lane.idle, Worker.inDepth, Pool.fresh, Closing.current, drainDepth,
      entrant]
  · simp only [SumFits, midway, htotal (fun lane => lane.depth) rfl,
      htotal (fun lane => lane.worker.midway) rfl]
    rfl
  · rw [htotal _ rfl]
    rfl
  · rw [hidle i lane hl]
    rfl

namespace Run

variable {slots : Nat} {shared : S} {ts : List (Turn S)} {r r' : Run ρ S} {T : List Tally}

theorem balanced_of_turn {t : Turn S} (hs : r.IsSound) (hb : Balanced T r.history r.pool)
    (ht : r.turn exec t = some r') : Balanced (T ++ r.tally t) r'.history r'.pool := by
  cases turned_of_turn ht with
  | move move s e hready hstep => exact hb.step hs.phased hstep
  | call | look | take | share =>
      rw [show r.tally _ = [] from rfl, List.append_nil]
      exact hb

theorem balanced_of_turns (hs : r.IsSound) (hb : Balanced T r.history r.pool)
    (hr : turns exec ts r = some r') :
    Balanced (T ++ r.tallies exec ts) r'.history r'.pool := by
  induction ts generalizing r T with
  | nil =>
      obtain rfl : r = r' := Option.some_inj.1 hr
      simpa [tallies] using hb
  | cons t ts ih =>
      obtain ⟨r₁, ht, hr⟩ := Option.bind_eq_some_iff.1 hr
      have hrest := ih (hs.turn ht) (balanced_of_turn hs hb ht) hr
      simpa [tallies, ht] using hrest

/-- **The counters of every run are balanced.** -/
theorem balanced (hslots : 1 ≤ slots) (hr : turns exec ts (start slots shared) = some r) :
    Balanced ((start slots shared).tallies exec ts) r.history r.pool := by
  have hstart : Sound [] ({ pool := fresh slots, ledger := .empty, shared } : Scheduler ρ S) [] [] :=
    Sound.fresh hslots shared
  simpa using balanced_of_turns (r := start slots shared) hstart (Balanced.fresh slots) hr

end Run

/-! ### Jobs that are resolved -/

namespace Sound

variable {h : History} {calls taken : List Ticket} {slot i : Nat} {job x : Job}

theorem ticket_ne_of_mem (hs : Sound h s calls taken) (hacc : Event.accepted job slot ∈ h)
    (hr : job ∈ resolved slot h) {lane : Lane ρ} (hl : s.pool.lanes[i]? = some lane)
    (hx : x ∈ lane.worker.hand ++ drainHand (s.pool.closing.current i) ++ lane.queue) :
    x.ticket ≠ job.ticket := by
  intro ht
  have heq := (hs.custody i lane hl).accepted_eq
  have hn := hs.nodup_accepted i
  rw [heq, List.append_assoc, List.append_assoc, ← List.append_assoc lane.worker.hand] at hn
  have hmem : x ∈ accepted i h := by
    rw [heq, List.append_assoc, List.append_assoc, ← List.append_assoc lane.worker.hand]
    exact List.mem_append_right _ hx
  obtain ⟨rfl, rfl⟩ := hs.accepted_inj (Pool.mem_accepted.1 hmem) hacc ht
  exact List.disjoint_of_nodup_append hn (mem_settled.2 (Or.inl hr)) hx

theorem ticket_ne_of_submission (hs : Sound h s calls taken) (hacc : Event.accepted job slot ∈ h)
    {submission : Submission} (hsub : s.pool.submission = some submission) :
    submission.job.ticket ≠ job.ticket := by
  intro ht
  have hn : ((held h s.pool.submission).map Job.ticket).Nodup :=
    hs.ticketed.nodup.sublist (List.sublist_append_left _ _)
  have hanswered : job ∈ answered h :=
    List.mem_map.2 ⟨_, List.mem_filter.2 ⟨hacc, rfl⟩, rfl⟩
  rw [held, hsub, List.map_append] at hn
  refine List.disjoint_of_nodup_append hn (List.mem_map_of_mem hanswered) ?_
  simp [ht]

end Sound

/-- A job that a worker has in the depth of its slot is in its hands, or has taken it along. -/
theorem Worker.mem_of_mem_inDepth {w : Worker ρ} {x : Job} (hx : x ∈ w.inDepth) :
    x ∈ w.hand ∨ x ∈ w.lost := by
  cases w with
  | finishing f =>
      obtain ⟨job, outcome, next⟩ := f
      cases next <;> simp_all [inDepth, Finish.inDepth, hand, Finish.hand]
  | _ => simp_all [inDepth, hand, lost]

theorem Finish.mem_hand_of_mem_inDepth {f : Finish} {x : Job} (hx : x ∈ f.inDepth) :
    x ∈ f.hand := by
  obtain ⟨job, outcome, next⟩ := f
  cases next <;> simp_all [inDepth, hand]

theorem Finish.mem_hand_of_mem_counted {f : Finish} {x : Tally} (hx : x ∈ f.counted) :
    x.1 ∈ f.hand := by
  obtain ⟨job, outcome, next⟩ := f
  cases next <;> simp_all [counted, hand]

/-- A job that a worker has counted is in its hands until it is resolved. -/
theorem Worker.mem_hand_of_mem_counted {w : Worker ρ} {x : Tally} (hx : x ∈ w.counted) :
    x.1 ∈ w.hand := by
  cases w with
  | finishing f => exact Finish.mem_hand_of_mem_counted hx
  | _ => simp [counted] at hx

theorem Closing.mem_hand_of_mem_counted {closing : Closing} {x : Tally} (hx : x ∈ closing.counted) :
    ∃ place f, closing = .draining place (some f) ∧ x.1 ∈ f.hand := by
  match closing, hx with
  | .draining place (some f), hx => exact ⟨place, f, rfl, Finish.mem_hand_of_mem_counted hx⟩

theorem countP_resolution (t : Ticket) (h : History) :
    (h.flatMap Event.resolution).countP (fun x => x.1.ticket = t) =
      times Event.isResolution t h := by
  induction h with
  | nil => rfl
  | cons e h ih =>
      rw [List.flatMap_cons, List.countP_append, ih, times, times, List.countP_cons]
      cases e with
      | resolved job slot outcome =>
          by_cases ht : job.ticket = t <;> simp [Event.resolution, Event.job, ht, Nat.add_comm]
      | _ => simp [Event.resolution]

namespace Balanced

variable {T : List Tally} {h : History} {calls taken : List Ticket} {slot i : Nat} {job x : Job}

theorem ticket_ne_of_mem_inDepth (hb : Balanced T h s.pool) (hs : Sound h s calls taken)
    (hacc : Event.accepted job slot ∈ h) (hr : job ∈ resolved slot h) {lane : Lane ρ}
    (hl : s.pool.lanes[i]? = some lane) (hx : x ∈ s.pool.inDepth i lane) :
    x.ticket ≠ job.ticket := by
  have hplace (hmem : x ∈ lane.worker.hand ++ drainHand (s.pool.closing.current i) ++ lane.queue) :
      x.ticket ≠ job.ticket := hs.ticket_ne_of_mem hacc hr hl hmem
  rw [inDepth, List.mem_append, List.mem_append, List.mem_append] at hx
  rcases hx with ((hx | hx) | hx) | hx
  · rcases Worker.mem_of_mem_inDepth hx with hx | hx
    · exact hplace (by simp [hx])
    · rw [← hb.lost i lane hl] at hx
      have hdied : Event.died x i ∈ h := mem_died.1 hx
      have hxacc : Event.accepted x i ∈ h := hs.accepted_of_mem hdied rfl
      intro ht
      obtain ⟨rfl, rfl⟩ := hs.accepted_inj hxacc hacc ht
      exact hs.not_resolved_of_died hdied hr
  · cases hc : s.pool.closing.current i with
    | none => simp [hc, drainDepth] at hx
    | some f =>
        rw [hc] at hx
        exact hplace (by simp [hc, Finish.mem_hand_of_mem_inDepth hx])
  · exact hplace (by simp [hx])
  · simp only [entrant] at hx
    split at hx
    · obtain ⟨submission, hsub, hx⟩ := List.mem_flatMap.1 hx
      have hjob : x = submission.job := by
        obtain ⟨job, next⟩ := submission
        cases next <;> simp_all [Submission.inDepth]
      rw [hjob]
      exact hs.ticket_ne_of_submission hacc (Option.mem_toList.1 hsub)
    · cases hx

/-- **A resolved job has been counted once**, with its outcome. -/
theorem tallied_once {outcome : Outcome Bytes} (hb : Balanced T h s.pool)
    (hs : Sound h s calls taken) (hr : Event.resolved job slot outcome ∈ h) :
    (T.filter fun x => x.1.ticket = job.ticket) = [(job, outcome)] := by
  have hacc : Event.accepted job slot ∈ h := hs.accepted_of_mem hr rfl
  have hmem : job ∈ resolved slot h := mem_resolved.2 ⟨outcome, hr⟩
  -- it is not among those that are counted and still in hand
  have hworkers : s.pool.total (fun lane =>
      lane.worker.counted.countP fun x => x.1.ticket = job.ticket) = 0 := by
    refine total_eq_zero fun i lane hl => List.countP_eq_zero.2 fun x hx => ?_
    have hhand := Worker.mem_hand_of_mem_counted hx
    simpa using hs.ticket_ne_of_mem hacc hmem hl (by simp [hhand])
  have hclosing : s.pool.closing.counted.countP (fun x => x.1.ticket = job.ticket) = 0 := by
    refine List.countP_eq_zero.2 fun x hx => ?_
    obtain ⟨place, f, hc, hhand⟩ := Closing.mem_hand_of_mem_counted hx
    obtain ⟨lane, hl⟩ := exists_lane (hs.phased.drain_lt place f hc)
    simpa using hs.ticket_ne_of_mem hacc hmem hl (by simp [hc, Closing.current, hhand])
  -- so it is counted as often as it is resolved
  have hcount : T.countP (fun x => x.1.ticket = job.ticket) = 1 := by
    rw [hb.tallied, hworkers, hclosing, countP_resolution]
    exact times_eq_one (hs.nodup_resolved hacc) hmem fun e he _ ht => hs.eq_of_ticket hacc he ht
  have hin : (job, outcome) ∈ T := by
    have hres : (job, outcome) ∈ h.flatMap Event.resolution :=
      List.mem_flatMap.2 ⟨_, hr, List.mem_singleton_self _⟩
    have hpos : 0 < T.countP fun x => (job, outcome) = x := by
      have hold : 0 < (h.flatMap Event.resolution).countP fun x => (job, outcome) = x :=
        List.countP_pos_iff.2 ⟨_, hres, by simp⟩
      rw [hb.tallied]
      omega
    obtain ⟨x, hx, heq⟩ := List.countP_pos_iff.1 hpos
    obtain rfl : (job, outcome) = x := by simpa using heq
    exact hx
  rw [List.countP_eq_length_filter] at hcount
  obtain ⟨x, hx⟩ := List.length_eq_one_iff.1 hcount
  have hfilter : (job, outcome) ∈ T.filter fun x => x.1.ticket = job.ticket :=
    List.mem_filter.2 ⟨hin, by simp⟩
  rw [hx] at hfilter ⊢
  rw [List.mem_singleton.1 hfilter]

end Balanced

end

end Offload.Pool


/-
**No job gets stuck.**

Left to itself a dispatcher falls quiet: everything that is under way comes to its end or to a call
that blocks.  In a quiet state either all jobs that a slot has accepted are resolved, or the slot is
held, and its oldest job waits for the output while the later ones have not been begun.

There is one more case, which needs a teardown that has not returned: a worker that has found its
queue empty and stops because the pool is being closed may leave behind a job that joined the queue
in between.  The teardown refuses such jobs, once it has waited for all workers; until then it waits
for a slot that is held up.  So a slot that is not held may have a job that is not resolved.

Main definitions:

* `Station.Run.IsQuiet` — nobody can do anything but look for work in vain;
* `Station.Run.Unfolds` — an endless schedule that does not starve everybody;
* `Station.Run.IsServed`, `Station.Run.IsHeldUp`, `Station.Run.IsStranded` — how the jobs of a slot
  may stand then.

Main results:

* `Station.Run.Left.exists_quiet`, `Station.Run.Unfolds.quiet` — a quiet state is reached from
  everywhere;
* `Station.RunInv.quiet_lane`, `Station.RunInv.quiet_closing` — who does not go on in a quiet state;
* `Station.RunInv.quiet_slot` — how the jobs of a slot stand in a quiet state;
* `Station.Run.no_job_stuck` — **no job gets stuck**, but for those that wait for a teardown;
* `Station.Run.neither_served_nor_heldUp` — a run in which a job does.
-/

import Offload.Proofs.Dispatcher.Abreast
import Offload.Proofs.Dispatcher.Overtaken
import Offload.Proofs.Dispatcher.StepsLeft
import Offload.Proofs.Pool.Tally

set_option autoImplicit false
set_option relaxedAutoImplicit false

/-! ### The closing call of a pool -/

namespace Offload.Pool

variable {ρ S : Type} {exec : Executor ρ S} {s : Scheduler ρ S}

/-- The closing call can go on, unless it waits for a worker. -/
theorem joining_of_wind_eq_none (h : s.step exec .wind = none)
    (hbegun : s.pool.closing ≠ .notBegun) (hnot : s.pool.closing ≠ .finished) :
    ∃ next lane, s.pool.closing = .joining next ∧ s.pool.lanes[next]? = some lane ∧
      lane.worker.hasEnded = false := by
  simp only [Scheduler.step, Scheduler.wind] at h
  cases hc : s.pool.closing with
  | notBegun => exact absurd hc hbegun
  | finished => exact absurd hc hnot
  | joining next =>
      rw [hc] at h
      cases hl : s.pool.lanes[next]? with
      | none => simp [hl] at h
      | some lane =>
          refine ⟨next, lane, rfl, hl, ?_⟩
          cases hw : lane.worker <;> simp_all [Worker.hasEnded]
  | draining slot current =>
      rw [hc] at h
      cases current with
      | some f => simp at h
      | none =>
          cases hl : s.pool.lanes[slot]? with
          | none => simp [hl] at h
          | some lane => cases hq : lane.queue <;> simp [hl, hq] at h

theorem isSome_step_of_stopping {i : Nat} {lane : Lane ρ} (hl : s.pool.lanes[i]? = some lane)
    (hw : lane.worker = .stopping) : (s.step exec (.work i)).isSome = true := by
  simp only [Scheduler.step, hl, Option.bind_some, Scheduler.work, hw]
  rfl

end Offload.Pool

/-- The teardown has closed the pool. -/
def Offload.Dispatcher.Teardown.hasStopped : Offload.Dispatcher.Teardown → Bool
  | .notBegun | .announcing | .stopping => false
  | .waiting | .closing _ | .releasing | .finished => true

namespace Offload.Station

open Native Simulator

variable {compute : UInt32 → Bytes → Bytes} {setup : Setup} {n i : Nat} {r r' : Run} {t : Turn}
  {ts : List Turn}

/-! ### Falling quiet -/

/-- The number of turns in a list that are not idle. -/
def Run.strides (compute : UInt32 → Bytes → Bytes) : List Turn → Run → Nat
  | [], _ => 0
  | t :: ts, r =>
      (if t.isIdle r then 0 else 1) + ((r.turn compute t).map (strides compute ts)).getD 0

/-- Nobody can do anything but look for work in vain. -/
def Run.IsQuiet (compute : UInt32 → Bytes → Bytes) (r : Run) : Prop :=
  ∀ t : Turn, t.isInner = true → t.isIdle r = false → r.turn compute t = none

/-- **Only so many steps that are not idle can be made.** -/
theorem Run.Left.strides_le (hl : r.Left n) (hs : RunInv compute setup i r)
    (hr : turns compute ts r = some r') (hinner : ∀ t ∈ ts, t.isInner = true) :
    ∃ n', r'.Left n' ∧ n' + strides compute ts r ≤ n := by
  induction ts generalizing r n with
  | nil =>
      cases hr
      exact ⟨n, hl, Nat.le_refl n⟩
  | cons t ts ih =>
      obtain ⟨r₁, ht, hr⟩ := Option.bind_eq_some_iff.1 hr
      rw [List.forall_mem_cons] at hinner
      obtain ⟨n₁, hl₁, hle₁⟩ := hl.turn hs.slotInv ht hinner.1
      obtain ⟨n', hl', hle'⟩ := ih hl₁ (hs.turn ht) hr hinner.2
      refine ⟨n', hl', ?_⟩
      simp only [strides, ht, Option.map_some, Option.getD_some]
      omega

/-- **A quiet state is reached from everywhere.** -/
theorem Run.Left.exists_quiet (hl : r.Left n) (hs : RunInv compute setup i r) :
    ∃ ts r', (∀ t ∈ ts, t.isInner = true) ∧ turns compute ts r = some r' ∧
      r'.IsQuiet compute := by
  induction n using Nat.strongRecOn generalizing r with
  | ind n ih =>
      by_cases hquiet : r.IsQuiet compute
      · exact ⟨[], r, by simp, rfl, hquiet⟩
      · -- somebody can make a step, and there are fewer steps left after it
        obtain ⟨t, hinner, hidle, r₁, ht⟩ : ∃ t : Turn, t.isInner = true ∧ t.isIdle r = false ∧
            ∃ r₁, r.turn compute t = some r₁ := by
          by_contra hnot
          refine hquiet fun t hinner hidle => Option.eq_none_iff_forall_ne_some.2 fun r₁ ht => ?_
          exact hnot ⟨t, hinner, hidle, r₁, ht⟩
        obtain ⟨n₁, hl₁, hle⟩ := hl.turn hs.slotInv ht hinner
        rw [hidle] at hle
        obtain ⟨ts, r', hts, hr', hquiet'⟩ := ih n₁ hle hl₁ (hs.turn ht)
        exact ⟨t :: ts, r', List.forall_mem_cons.2 ⟨hinner, hts⟩,
          (foldlM_cons_of_eq_some ht).trans hr', hquiet'⟩

/-- An endless schedule of inner turns, in which steps that are not idle come up again and again as
long as the state is not quiet. -/
structure Run.Unfolds (compute : UInt32 → Bytes → Bytes) (states : Nat → Run)
    (turns : Nat → Turn) : Prop where
  inner : ∀ k, (turns k).isInner = true
  turn : ∀ k, (states k).turn compute (turns k) = some (states (k + 1))
  fair : ∀ k, ¬(states k).IsQuiet compute → ∃ m, k ≤ m ∧ (turns m).isIdle (states m) = false

/-- **Every schedule falls quiet.** -/
theorem Run.Unfolds.quiet {states : Nat → Run} {turns : Nat → Turn}
    (hu : Unfolds compute states turns) (hl : (states 0).Left n)
    (hs : RunInv compute setup i (states 0)) : ∃ k, (states k).IsQuiet compute := by
  -- what holds at the beginning holds all along, and what is left does not grow
  have hall : ∀ k, RunInv compute setup i (states k) := by
    intro k
    induction k with
    | zero => exact hs
    | succ k ih => exact ih.turn (hu.turn k)
  have hleft : ∀ m k b, (states k).Left b → ∃ b', (states (k + m)).Left b' ∧ b' ≤ b := by
    intro m
    induction m with
    | zero => exact fun k b h => ⟨b, h, Nat.le_refl b⟩
    | succ m ih =>
        intro k b h
        obtain ⟨b₁, h₁, hle₁⟩ := ih k b h
        obtain ⟨b₂, h₂, hle₂⟩ := h₁.turn (hall _).slotInv (hu.turn (k + m)) (hu.inner (k + m))
        exact ⟨b₂, h₂, by omega⟩
  suffices h : ∀ b k, (states k).Left b → ∃ k, (states k).IsQuiet compute from h n 0 hl
  intro b
  induction b using Nat.strongRecOn with
  | ind b ih =>
      intro k hk
      by_cases hquiet : (states k).IsQuiet compute
      · exact ⟨k, hquiet⟩
      · obtain ⟨m, hm, hidle⟩ := hu.fair k hquiet
        obtain ⟨b₁, h₁, hle₁⟩ := hleft (m - k) k b hk
        rw [Nat.add_sub_of_le hm] at h₁
        obtain ⟨b₂, h₂, hle₂⟩ := h₁.turn (hall m).slotInv (hu.turn m) (hu.inner m)
        rw [hidle] at hle₂
        have hlt : b₂ + 1 ≤ b₁ := hle₂
        exact ih b₂ (by omega) (m + 1) h₂

/-! ### How the jobs of a slot may stand -/

/-- The jobs that a slot has accepted: those that are resolved, and those that are not. -/
structure Run.Backlog (r : Run) (i : Nat) (earlier waiting : List Pool.Job) : Prop where
  accepted : Pool.accepted i r.history = earlier ++ waiting
  resolved : ∀ job ∈ earlier, ∃ outcome, Pool.Event.resolved job i outcome ∈ r.history
  unresolved : ∀ job ∈ waiting, ∀ outcome, Pool.Event.resolved job i outcome ∉ r.history

/-- All jobs that the slot has accepted are resolved. -/
def Run.IsServed (r : Run) (i : Nat) : Prop :=
  ∀ job, Pool.Event.accepted job i ∈ r.history →
    ∃ outcome, Pool.Event.resolved job i outcome ∈ r.history

/-- The slot is held, its oldest unresolved job is in the call that waits for the output, and no
later job of the slot has made any native call. -/
structure Run.HeldUp (r : Run) (i : Nat) (earlier : List Pool.Job) (job : Pool.Job)
    (later : List Pool.Job) : Prop where
  held : r.device.isHeld (UInt32.ofNat i) = true
  backlog : r.Backlog i earlier (job :: later)
  waits : ∃ run next, r.pool.worker? i = some (.running job run) ∧ run.entered = true ∧
    run.rest = .step (.call (.wait (some token) (UInt32.ofNat i))) next
  later : ∀ job' ∈ later, r.acts job' = []

/-- The slot is held up by its oldest unresolved job. -/
def Run.IsHeldUp (r : Run) (i : Nat) : Prop := ∃ earlier job later, r.HeldUp i earlier job later

/-- The worker of the slot has stopped and left jobs behind, for which no native call has been
made. -/
structure Run.Stranded (r : Run) (i : Nat) (earlier behind : List Pool.Job) : Prop where
  backlog : r.Backlog i earlier behind
  ne_nil : behind ≠ []
  stopped : r.pool.worker? i = some .stopped
  acts : ∀ job ∈ behind, r.acts job = []

/-- The slot has unresolved jobs and no worker any more. -/
def Run.IsStranded (r : Run) (i : Nat) : Prop := ∃ earlier behind, r.Stranded i earlier behind

theorem Run.Backlog.not_isServed {earlier waiting : List Pool.Job}
    (h : r.Backlog i earlier waiting) (hne : waiting ≠ []) : ¬r.IsServed i := by
  intro hserved
  obtain ⟨job, hjob⟩ := List.exists_mem_of_ne_nil _ hne
  have hmem : Pool.Event.accepted job i ∈ r.history := by
    refine Pool.mem_accepted.1 ?_
    rw [h.accepted]
    exact List.mem_append_right _ hjob
  obtain ⟨outcome, hres⟩ := hserved job hmem
  exact h.unresolved job hjob outcome hres

theorem Run.IsHeldUp.not_isServed (h : r.IsHeldUp i) : ¬r.IsServed i := by
  obtain ⟨earlier, job, later, hheldUp⟩ := h
  exact hheldUp.backlog.not_isServed (List.cons_ne_nil job later)

theorem Run.IsStranded.not_isServed (h : r.IsStranded i) : ¬r.IsServed i := by
  obtain ⟨earlier, behind, hstranded⟩ := h
  exact hstranded.backlog.not_isServed hstranded.ne_nil

/-- A worker that has stopped waits for nothing. -/
theorem Run.IsStranded.not_isHeldUp (h : r.IsStranded i) : ¬r.IsHeldUp i := by
  obtain ⟨earlier, behind, hstranded⟩ := h
  rintro ⟨_, job, _, hheldUp⟩
  obtain ⟨run, next, hw, -⟩ := hheldUp.waits
  cases hw.symm.trans hstranded.stopped

/-! ### What else holds in every run -/

/-- A teardown closes the pool and waits for it afterwards, and every worker that has died has died
with the job that says so. -/
structure TeardownInv (r : Run) : Prop where
  closed : r.pool.closed = true → r.station.dispatcher.teardown.hasStopped = true
  lost : ∀ i lane, r.pool.lanes[i]? = some lane → Pool.died i r.history = lane.worker.lost

theorem hasStopped_of_transition {s s' : Station Simulator} {move : Move} {e : Option Pool.Event}
    (ht : Transition (driver compute) patience s move e s') (hu : DeviceInv setup n s)
    (h : s.dispatcher.pool.closed = true → s.dispatcher.teardown.hasStopped = true)
    (hclosed : s'.dispatcher.pool.closed = true) :
    s'.dispatcher.teardown.hasStopped = true := by
  cases ht with
  | turnAway | takeIn | tearDownAgain => exact h hclosed
  | tearDown htorn =>
      have hstopped := h hclosed
      rw [(hu.untorn htorn).1] at hstopped
      cases hstopped
  | announce router hteardown =>
      have hstopped := h hclosed
      rw [hteardown] at hstopped
      cases hstopped
  | endSession | closing | closed | release => rfl
  | pool _ _ _ _ _ q hd hq =>
      cases hd with
      | stop | wait => rfl
      | _ => exact h ((Pool.closed_eq_of_transition hq (by simp)).symm.trans hclosed)

theorem lost_of_transition {s s' : Station Simulator} {move : Move} {e : Option Pool.Event}
    {h : Pool.History} (ht : Transition (driver compute) patience s move e s')
    (hp : s.scheduler.pool.Phased)
    (hlost : ∀ i lane, s.dispatcher.pool.lanes[i]? = some lane →
      Pool.died i h = lane.worker.lost) (i : Nat) (lane : Pool.Lane Exchange.Run)
    (hl : s'.dispatcher.pool.lanes[i]? = some lane) :
    Pool.died i (h ++ e.toList) = lane.worker.lost := by
  cases ht with
  | pool _ _ _ _ _ q hd hq =>
      obtain ⟨lane₀, hl₀, hstep⟩ := Pool.Scheduler.laneStep_of_transition hq hp hl
      exact Pool.lost_of_laneStep hstep (hlost i lane₀ hl₀)
  | turnAway job err =>
      rw [← hlost i lane hl]
      exact Pool.jobsOf_concat_of_not (by simp)
  | _ =>
      rw [Option.toList_none, List.append_nil]
      exact hlost i lane hl

theorem TeardownInv.turn (hk : TeardownInv r) (hs : RunInv compute setup n r)
    (ht : r.turn compute t = some r') : TeardownInv r' := by
  rcases Run.turn_cases ht with ⟨l, move, e, s, hstep, rfl⟩ | hstill
  · have hdeviceInv : DeviceInv setup n (r.withLedger l).station := hs.deviceInv.still rfl rfl
    have hphased : (r.withLedger l).station.scheduler.pool.Phased := hs.sound.phased
    exact ⟨hasStopped_of_transition hstep hdeviceInv hk.closed,
      lost_of_transition hstep hphased hk.lost⟩
  · have hpool : r'.pool = r.pool := congrArg Dispatcher.pool hstill.dispatcher
    refine ⟨fun hclosed => ?_, fun i lane hl => ?_⟩
    · rw [hstill.dispatcher]
      exact hk.closed (hpool ▸ hclosed)
    · rw [hstill.history]
      exact hk.lost i lane (hpool ▸ hl)

/-- **In every run a teardown closes the pool, and no worker dies.** -/
theorem Run.teardownInv {d : Dispatcher} {w : World Simulator} (hup : d.ComesUp compute setup w)
    (hr : turns compute ts (start d w) = some r) : TeardownInv r := by
  suffices h : RunInv compute setup d.bufferSize r ∧ TeardownInv r from h.2
  refine foldlM_induction (motive := fun r => RunInv compute setup d.bufferSize r ∧ TeardownInv r) hr
    ⟨RunInv.start hup, fun hclosed => ?_, fun i lane hl => ?_⟩ fun _ _ _ h ht =>
      ⟨h.1.turn ht, h.2.turn h.1 ht⟩
  · have hopen : d.pool.closed = false := by rw [hup.isUp.1.pool]; rfl
    exact absurd (hopen.symm.trans hclosed) Bool.false_ne_true
  · have hl' : d.pool.lanes[i]? = some lane := hl
    rw [hup.isUp.1.pool] at hl'
    obtain rfl := List.eq_of_mem_replicate (List.mem_of_getElem? hl')
    rfl

/-! ### Quiet states -/

namespace RunInv

variable {lane : Pool.Lane Exchange.Run} {earlier waiting : List Pool.Job} {job : Pool.Job}

/-- **Who does not go on in a quiet state** has nothing to do, has stopped, or waits for the output
of a slot that is held. -/
theorem quiet_lane (hs : RunInv compute setup n r) (hk : TeardownInv r) (hq : r.IsQuiet compute)
    (hl : r.pool.lanes[i]? = some lane) :
    r.pool.isIdle i = true ∨ lane.worker = .stopped ∨ ∃ job run next,
      lane.worker = .running job run ∧ r.device.isHeld (UInt32.ofNat i) = true ∧
        run.entered = true ∧
        run.rest = .step (.call (.wait (some token) (UInt32.ofNat i))) next := by
  cases hidle : r.pool.isIdle i with
  | true => exact Or.inl rfl
  | false =>
      have hnone : r.turn compute (workOf i) = none := hq (workOf i) rfl hidle
      have hworker := Pool.worker?_of_lane hl
      cases hactive : lane.worker.isActive with
      | true =>
          -- somebody who has not been stopped goes on, unless a job is blocked
          by_cases hblocked : ∃ job run, lane.worker = .running job run ∧
              Exchange.step (driver compute) i run r.station.scheduler.shared = .blocked
          · obtain ⟨job, run, hw, hstep⟩ := hblocked
            rw [hw] at hworker
            have habout := hs.slotInv.keeps.about hworker
            obtain ⟨hentered, hheld, next, hrest⟩ := Exchange.waits_of_blocked habout hstep
            exact Or.inr (Or.inr ⟨job, run, next, hw, hheld, hentered, hrest⟩)
          · obtain ⟨r₁, ht⟩ := Run.exists_turn_work hl hactive fun job run hw hstep =>
              hblocked ⟨job, run, hw, hstep⟩
            cases hnone.symm.trans ht
      | false =>
          cases hw : lane.worker with
          | stopped => exact Or.inr (Or.inl rfl)
          | stopping =>
              have hstep : (r.station.scheduler.step (executor (driver compute) patience)
                  (.work i)).isSome = true := Pool.isSome_step_of_stopping hl hw
              have hsome : (r.turn compute (workOf i)).isSome = true := by
                simpa [Run.turn, Move.isExecution, step, poolStep] using hstep
              rw [hnone] at hsome
              cases hsome
          | died job =>
              have hdied : Pool.died i r.history = [job] := by
                rw [hk.lost i lane hl, hw]
                rfl
              have hmem : job ∈ Pool.died i r.history := by simp [hdied]
              exact absurd (Pool.mem_died.1 hmem) (hs.alive job i)
          | _ =>
              rw [hw] at hactive
              cases hactive

/-- **Who closes the pool in a quiet state** waits for a worker that has not ended, or is done. -/
theorem quiet_closing (hs : RunInv compute setup n r) (hk : TeardownInv r) (hq : r.IsQuiet compute)
    (hclosed : r.pool.closed = true) (hnot : r.pool.closing ≠ .finished) :
    r.station.dispatcher.teardown = .waiting ∧ ∃ next lane, r.pool.closing = .joining next ∧
      r.pool.lanes[next]? = some lane ∧ lane.worker.hasEnded = false := by
  have hbegun : r.pool.closing ≠ .notBegun := fun h =>
    Bool.false_ne_true ((hs.sound.phased.notBegun_iff.1 h).symm.trans hclosed)
  have hwaiting : r.station.dispatcher.teardown = .waiting := by
    have hstopped := hk.closed hclosed
    have hlate := hs.deviceInv.late
    cases hteardown : r.station.dispatcher.teardown with
    | waiting => rfl
    | notBegun | announcing | stopping =>
        rw [hteardown] at hstopped
        cases hstopped
    | closing | releasing | finished =>
        rw [hteardown] at hlate
        exact absurd (hlate rfl) hnot
  have hnone : r.turn compute (.move .wind) = none := hq (.move .wind) rfl rfl
  have hwind : r.station.scheduler.step (executor (driver compute) patience) .wind = none := by
    cases hc : r.station.dispatcher.pool.closing with
    | finished => exact absurd hc hnot
    | _ => simpa [Run.turn, Move.isExecution, step, wind, hwaiting, hc, poolStep] using hnone
  exact ⟨hwaiting, Pool.joining_of_wind_eq_none hwind hbegun hnot⟩

/-- In a quiet state the closing call has no job in hand. -/
theorem quiet_custody (hs : RunInv compute setup n r) (hk : TeardownInv r) (hq : r.IsQuiet compute)
    (hl : r.pool.lanes[i]? = some lane) :
    Pool.Custody i r.history r.pool.closed lane none := by
  have hcurrent : r.pool.closing.current i = none := by
    cases hclosed : r.pool.closed with
    | false =>
        have hopen : r.pool.closing = .notBegun := hs.sound.phased.notBegun_iff.2 hclosed
        rw [hopen]
        rfl
    | true =>
        by_cases hfinished : r.pool.closing = .finished
        · rw [hfinished]
          rfl
        · obtain ⟨-, next, lane, hc, -⟩ := hs.quiet_closing hk hq hclosed hfinished
          rw [hc]
          rfl
  have hc := hs.sound.custody i lane hl
  exact hcurrent ▸ hc

/-! ### The jobs of a slot in a quiet state -/

theorem settled_eq (hs : RunInv compute setup n r) :
    Pool.settled i r.history = Pool.resolved i r.history :=
  Pool.settled_eq_resolved <| List.eq_nil_iff_forall_not_mem.2 fun job hd =>
    hs.alive job i (Pool.mem_died.1 hd)

theorem backlog (hs : RunInv compute setup n r)
    (hacc : Pool.accepted i r.history = Pool.settled i r.history ++ waiting) :
    r.Backlog i (Pool.resolved i r.history) waiting := by
  rw [hs.settled_eq] at hacc
  refine ⟨hacc, fun job hjob => Pool.mem_resolved.1 hjob, fun job hjob outcome hres => ?_⟩
  have hnodup := hs.sound.nodup_accepted i
  rw [hacc] at hnodup
  exact List.disjoint_of_nodup_append hnodup (Pool.mem_resolved.2 ⟨outcome, hres⟩) hjob

/-- No native call has been made for jobs behind all those that have been begun. -/
theorem acts_behind {front behind : List Pool.Job} (hs : RunInv compute setup n r)
    (hacc : Pool.accepted i r.history = front ++ behind)
    (hpre : Pool.begun i r.history <+: front) (hjob : job ∈ behind) : r.acts job = [] := by
  have hmem : Pool.Event.accepted job i ∈ r.history := by
    refine Pool.mem_accepted.1 ?_
    rw [hacc]
    exact List.mem_append_right _ hjob
  refine Run.acts_eq_nil hs.deeds fun j hbegun => ?_
  obtain ⟨-, rfl⟩ := hs.sound.accepted_inj (hs.sound.accepted_of_mem hbegun rfl) hmem rfl
  have hnodup := hs.sound.nodup_accepted j
  rw [hacc] at hnodup
  exact List.disjoint_of_nodup_append hnodup (hpre.subset (Pool.mem_begun.2 hbegun)) hjob

theorem isServed (hs : RunInv compute setup n r)
    (hacc : Pool.accepted i r.history = Pool.settled i r.history) : r.IsServed i := by
  intro job hjob
  have hmem := Pool.mem_accepted.2 hjob
  rw [hacc, hs.settled_eq] at hmem
  exact Pool.mem_resolved.1 hmem

theorem isHeldUp (hs : RunInv compute setup n r) (hk : TeardownInv r) (hq : r.IsQuiet compute)
    (hl : r.pool.lanes[i]? = some lane) {run : Exchange.Run}
    {next : (Op.call (.wait (some token) (UInt32.ofNat i))).Answer →
      Program (Option (Outcome Bytes))}
    (hw : lane.worker = .running job run) (hheld : r.device.isHeld (UInt32.ofNat i) = true)
    (hentered : run.entered = true)
    (hrest : run.rest = .step (.call (.wait (some token) (UInt32.ofNat i))) next) :
    r.IsHeldUp i := by
  have hc := hs.quiet_custody hk hq hl
  have hacc := hc.accepted_eq
  have hpre := hc.begun_prefix
  simp only [hw, Pool.Worker.hand, Pool.Worker.decided, Pool.drainHand_none,
    List.append_nil] at hacc hpre
  refine ⟨_, job, lane.queue, hheld, hs.backlog ?_, ⟨run, next, ?_, hentered, hrest⟩, ?_⟩
  · rw [hacc, List.append_assoc, List.singleton_append]
  · rw [Pool.worker?_of_lane hl, hw]
  · exact fun job' hjob' => hs.acts_behind hacc hpre hjob'

/-- A worker that has stopped has served its slot or has left jobs behind. -/
theorem served_or_stranded (hs : RunInv compute setup n r) (hk : TeardownInv r)
    (hq : r.IsQuiet compute) (hl : r.pool.lanes[i]? = some lane) (hw : lane.worker = .stopped) :
    r.IsServed i ∨ r.IsStranded i := by
  have hc := hs.quiet_custody hk hq hl
  have hacc := hc.accepted_eq
  have hpre := hc.begun_prefix
  simp only [hw, Pool.Worker.hand, Pool.Worker.decided, Pool.drainHand_none,
    List.append_nil] at hacc hpre
  by_cases hnil : lane.queue = []
  · rw [hnil, List.append_nil] at hacc
    exact Or.inl (hs.isServed hacc)
  · refine Or.inr ⟨_, lane.queue, hs.backlog hacc, hnil, ?_, ?_⟩
    · rw [Pool.worker?_of_lane hl, hw]
    · exact fun job hjob => hs.acts_behind hacc hpre hjob

/-- **How the jobs of a slot stand in a quiet state.** -/
theorem quiet_slot (hs : RunInv compute setup n r) (hk : TeardownInv r) (hq : r.IsQuiet compute)
    (hl : r.pool.lanes[i]? = some lane) : r.IsServed i ∨ r.IsHeldUp i ∨ r.IsStranded i := by
  rcases hs.quiet_lane hk hq hl with hidle | hw | ⟨job, run, next, hw, hheld, hentered, hrest⟩
  · have hacc := (hs.quiet_custody hk hq hl).accepted_eq
    obtain ⟨hqueue, hw, -⟩ := (Pool.isIdle_iff hl).1 hidle
    have hhand : lane.worker.hand = [] := by rcases hw with hw | hw <;> rw [hw] <;> rfl
    rw [hhand, hqueue] at hacc
    simp only [Pool.drainHand_none, List.append_nil] at hacc
    exact Or.inl (hs.isServed hacc)
  · exact (hs.served_or_stranded hk hq hl hw).imp_right Or.inr
  · exact Or.inr (Or.inl (hs.isHeldUp hk hq hl hw hheld hentered hrest))

/-- **Who has left jobs behind** was overtaken, and the teardown waits for a slot that is held
up. -/
theorem stranded_cases (hs : RunInv compute setup n r) (hk : TeardownInv r) (hq : r.IsQuiet compute)
    (hstops : r.pool.StopsEmptyAt i ∨ r.pool.closed = true) (h : r.IsStranded i) :
    ¬r.pool.StopsEmptyAt i ∧ r.station.dispatcher.teardown = .waiting ∧
      ∃ j < r.pool.size, r.IsHeldUp j := by
  obtain ⟨earlier, behind, hstranded⟩ := h
  obtain ⟨lane, hl, hw⟩ := Option.map_eq_some_iff.1 hstranded.stopped
  have hacc := (hs.quiet_custody hk hq hl).accepted_eq
  have hqueue : lane.queue ≠ [] := by
    intro hnil
    rw [hw, hnil] at hacc
    simp only [Pool.Worker.hand, Pool.drainHand_none, List.append_nil] at hacc
    exact hstranded.backlog.not_isServed hstranded.ne_nil (hs.isServed hacc)
  have hnot : ¬r.pool.StopsEmptyAt i := by
    intro hstops
    have hstops' := hstops lane hl
    cases hempty : lane.queue with
    | nil => exact hqueue hempty
    | cons => simp [Pool.Lane.stopsEmpty, hw, hempty] at hstops'
  have hclosed := hstops.resolve_left hnot
  have hfinished : r.pool.closing ≠ .finished := by
    intro hfinished
    refine hqueue (hs.sound.phased.drained i lane hl ?_)
    show r.pool.closing.hasDrained i = true
    rw [hfinished]
    rfl
  obtain ⟨hwaiting, k, lane', -, hl', halive⟩ := hs.quiet_closing hk hq hclosed hfinished
  refine ⟨hnot, hwaiting, k, Pool.lt_size_of_lane hl', ?_⟩
  -- the worker that the teardown waits for has nothing else to do than to wait itself
  rcases hs.quiet_lane hk hq hl' with hidle | hw' | ⟨job, run, next, hw', hheld, hentered, hrest⟩
  · exact absurd ((Pool.isIdle_iff hl').1 hidle).2.2 (by simp [hclosed])
  · rw [hw'] at halive
    cases halive
  · exact hs.isHeldUp hk hq hl' hw' hheld hentered hrest

end RunInv

/-! ### No job gets stuck -/

namespace Run

/-- **Only so many steps are left**: from every state of a run a bounded number of steps that are
not idle can be made, and wherever they lead, a quiet state is in reach; every endless schedule in
which such steps come up again and again falls quiet. -/
theorem exists_bound {d : Dispatcher} {w : World Simulator} (hup : d.ComesUp compute setup w)
    (hr : turns compute ts (start d w) = some r) :
    (∃ bound, ∀ ts' r', (∀ t ∈ ts', t.isInner = true) → turns compute ts' r = some r' →
      strides compute ts' r ≤ bound ∧ ∃ ts'' r'', (∀ t ∈ ts'', t.isInner = true) ∧
        turns compute ts'' r' = some r'' ∧ r''.IsQuiet compute) ∧
    ∀ states schedule, Unfolds compute states schedule → states 0 = r →
      ∃ k, (states k).IsQuiet compute := by
  have hs := Run.runInv hup hr
  obtain ⟨n, hl⟩ := Run.exists_left hup hr
  refine ⟨⟨n, fun ts' r' hinner hr' => ?_⟩, ?_⟩
  · obtain ⟨n', hl', hle⟩ := hl.strides_le hs hr' hinner
    exact ⟨by omega, hl'.exists_quiet (hs.turns hr')⟩
  · rintro states schedule hu rfl
    exact hu.quiet hl hs

/-- **No job gets stuck.**  From every state of every run of a dispatcher, whatever the device has
been told to do and however the calls interleave, everything that is under way comes to rest
without further calls or hooks: the number of steps that are not idle is bounded, a quiet state can
always be reached, and every schedule that does not starve anybody falls quiet.

In a quiet state each slot is in exactly one of three conditions: all jobs that it has accepted are
resolved; or the slot is held, its oldest unresolved job is in the call that waits for the output,
and no later job of the slot has made any native call; or its worker has stopped and has left jobs
behind, without any native call for them.  The third one needs a teardown that waits for a slot that
is held up, and a pool that was closed behind the back of the worker.

If no slot is held, every accepted job is resolved. -/
theorem no_job_stuck {d : Dispatcher} {w : World Simulator} (hup : d.ComesUp compute setup w)
    (hr : turns compute ts (start d w) = some r) :
    (∃ bound, ∀ ts' r', (∀ t ∈ ts', t.isInner = true) → turns compute ts' r = some r' →
      strides compute ts' r ≤ bound ∧ ∃ ts'' r'', (∀ t ∈ ts'', t.isInner = true) ∧
        turns compute ts'' r' = some r'' ∧ r''.IsQuiet compute) ∧
    (∀ states schedule, Unfolds compute states schedule → states 0 = r →
      ∃ k, (states k).IsQuiet compute) ∧
    (r.IsQuiet compute →
      (∀ i < r.pool.size, (Xor (r.IsServed i) (r.IsHeldUp i) ∧ ¬r.IsStranded i) ∨
        (r.IsStranded i ∧ ¬r.IsServed i ∧ ¬r.IsHeldUp i ∧
          r.station.dispatcher.teardown = .waiting ∧ Overtaken compute i ts (start d w) ∧
          ∃ j < r.pool.size, r.IsHeldUp j)) ∧
      ((∀ i < r.pool.size, r.device.isHeld (UInt32.ofNat i) = false) →
        ∀ job i, Pool.Event.accepted job i ∈ r.history →
          r.station.ledger.isResolved job.ticket = true)) := by
  obtain ⟨hbound, hfair⟩ := exists_bound hup hr
  refine ⟨hbound, hfair, fun hq => ?_⟩
  have hs := Run.runInv hup hr
  have hk := Run.teardownInv hup hr
  have hcases (i : Nat) (hi : i < r.pool.size) :
      (Xor (r.IsServed i) (r.IsHeldUp i) ∧ ¬r.IsStranded i) ∨
        (r.IsStranded i ∧ ¬r.IsServed i ∧ ¬r.IsHeldUp i) := by
    obtain ⟨lane, hl⟩ := Pool.exists_lane hi
    rcases hs.quiet_slot hk hq hl with h | h | h
    · exact Or.inl ⟨Or.inl ⟨h, fun h' => h'.not_isServed h⟩, fun h' => h'.not_isServed h⟩
    · exact Or.inl ⟨Or.inr ⟨h, h.not_isServed⟩, fun h' => h'.not_isHeldUp h⟩
    · exact Or.inr ⟨h, h.not_isServed, h.not_isHeldUp⟩
  have hstranded (i : Nat) (h : r.IsStranded i) :
      r.station.dispatcher.teardown = .waiting ∧ Overtaken compute i ts (start d w) ∧
        ∃ j < r.pool.size, r.IsHeldUp j := by
    have hside :=
      stopsEmptyAt_or_overtaken (RunInv.start hup) (stopsEmptyAt_start (i := i) hup.isUp.1) hr
    obtain ⟨hnot, hwaiting, hheldUp⟩ := hs.stranded_cases hk hq (hside.imp_right And.right) h
    exact ⟨hwaiting, (hside.resolve_left hnot).1, hheldUp⟩
  refine ⟨fun i hi => ?_, fun hfree job i hacc => ?_⟩
  · exact (hcases i hi).imp_right fun h => ⟨h.1, h.2.1, h.2.2, hstranded i h.1⟩
  · have hunheld (j : Nat) (hj : j < r.pool.size) : ¬r.IsHeldUp j := by
      rintro ⟨_, job, _, h⟩
      exact Bool.false_ne_true ((hfree j hj).symm.trans h.held)
    have hi : i < r.pool.size := hs.sound.slots _ hacc i rfl
    have hserved : r.IsServed i := by
      rcases hcases i hi with ⟨h | h, -⟩ | h
      · exact h.1
      · exact absurd h.1 (hunheld i hi)
      · obtain ⟨-, -, j, hj, hheldUp⟩ := hstranded i h.1
        exact absurd hheldUp (hunheld j hj)
    obtain ⟨outcome, hres⟩ := hserved job hacc
    exact (hs.sound.ticketed.holds job i outcome hres).isResolved

/-- A state is quiet when nobody is about to submit, no worker that has something to do can go on,
and neither can the teardown. -/
theorem isQuiet_of (harrivals : r.station.dispatcher.arrivals = [])
    (hsub : r.pool.submission = none)
    (hwork : ∀ i < r.pool.size, r.pool.isIdle i = true ∨ r.turn compute (workOf i) = none)
    (hwind : r.turn compute (.move .wind) = none) : r.IsQuiet compute := by
  intro t hinner hidle
  cases t with
  | move move =>
      cases move with
      | execute | tearDown => cases hinner
      | enter ticket => simp [Run.turn, Move.isExecution, step, harrivals]
      | proceed =>
          have hnone : r.station.scheduler.step (executor (driver compute) patience) .proceed =
              none := congrArg (Option.map _) hsub
          simp [Run.turn, Move.isExecution, step, poolStep, hnone]
      | work i =>
          by_cases hi : i < r.pool.size
          · refine (hwork i hi).resolve_left fun h => ?_
            exact Bool.false_ne_true (hidle.symm.trans h)
          · have hlane : r.station.dispatcher.pool.lanes[i]? = none :=
              List.getElem?_eq_none (Nat.le_of_not_lt hi)
            simp [Run.turn, Move.isExecution, step, poolStep, Pool.Scheduler.step, scheduler, hlane]
      | wind => exact hwind
  | _ => cases hinner

/-- Where two jobs on a slot that is held lead when the dispatcher is torn down meanwhile. -/
theorem state_closedMeanwhile :
    afterClosedMeanwhile.map (fun r => (r.history, r.pool.size,
      r.station.dispatcher.arrivals.isEmpty && r.pool.submission.isNone,
      (r.turn backwards (workOf 0)).isNone && (r.turn backwards (.move .wind)).isNone,
      (r.pool.worker? 0).map (·.hasEnded))) = some
      ([.accepted ⟨0, [1]⟩ 0, .accepted ⟨1, [2, 3]⟩ 0, .begun ⟨0, [1]⟩ 0], 1, true, true,
        some false) := by
  decide +kernel

/-- The state is quiet, and the slot is held up. -/
theorem no_job_stuck_closedMeanwhile :
    ∃ d w r, d.ComesUp backwards oneSlot w ∧ turns backwards closedMeanwhile (start d w) = some r ∧
      r.IsQuiet backwards ∧ r.IsHeldUp 0 := by
  obtain ⟨r, hr, hstate⟩ := Option.map_eq_some_iff.1 state_closedMeanwhile
  simp only [Prod.mk.injEq, Bool.and_eq_true, List.isEmpty_iff, Option.isNone_iff_eq_none] at hstate
  obtain ⟨hhistory, hsize, ⟨harrivals, hsub⟩, ⟨hwork, hwind⟩, halive⟩ := hstate
  obtain ⟨d, hd, hr⟩ := Option.bind_eq_some_iff.1 hr
  have hup := comesUp_of_broughtUp hd
  have hquiet : r.IsQuiet backwards := by
    refine isQuiet_of harrivals hsub (fun i hi => Or.inr ?_) hwind
    obtain rfl : i = 0 := by omega
    exact hwork
  obtain ⟨-, -, hstand⟩ := no_job_stuck hup hr
  refine ⟨d, broughtUp.2, r, hup, hr, hquiet, ?_⟩
  rcases (hstand hquiet).1 0 (by omega) with ⟨h | h, -⟩ | h
  · -- the first job is not resolved
    obtain ⟨outcome, hres⟩ := h.1 ⟨0, [1]⟩ (by simp [hhistory])
    simp [hhistory] at hres
  · exact h.1
  · -- and its worker has not stopped
    obtain ⟨_, _, hstranded⟩ := h.1
    rw [hstranded.stopped] at halive
    cases halive

/-- Two slots: the job of the second one waits for its output.  The worker of the first one has
found its queue empty when a job joins it, and the pool is closed before the worker looks whether it
is. -/
def closedInBetween : List Turn :=
  .execute [1] :: .move (.enter 0) :: often 6 .proceed ++ .hook (.hold 1) :: often 10 (.work 1) ++
    often 2 (.work 0) ++ .execute [2, 3] :: .move (.enter 1) :: often 6 .proceed ++
    .move .tearDown :: often 2 .wind ++ often 2 (.work 0) ++ often 1 .wind

/-- Where it leads: the worker of the first slot has stopped, and the teardown waits for the other
one. -/
theorem state_closedInBetween :
    (broughtUpTwo.1.toOption.bind fun d =>
      turns backwards closedInBetween (start d broughtUpTwo.2)).map (fun r =>
        (r.history, r.pool.size, r.device.isHeld 0,
          r.station.dispatcher.arrivals.isEmpty && r.pool.submission.isNone,
          (r.turn backwards (workOf 0)).isNone && (r.turn backwards (workOf 1)).isNone,
          (r.turn backwards (.move .wind)).isNone)) = some
      ([.accepted ⟨0, [1]⟩ 1, .begun ⟨0, [1]⟩ 1, .accepted ⟨1, [2, 3]⟩ 0], 2, false, true, true,
        true) := by
  decide +kernel

/-- **In a quiet state a slot that is not held may have a job that is not resolved**, so that there
are not only the first two conditions. -/
theorem neither_served_nor_heldUp :
    ∃ d w r, d.ComesUp backwards twoSlots w ∧
      turns backwards closedInBetween (start d w) = some r ∧ r.IsQuiet backwards ∧
      0 < r.pool.size ∧ r.device.isHeld 0 = false ∧
      Pool.Event.accepted ⟨1, [2, 3]⟩ 0 ∈ r.history ∧
      (∀ outcome, Pool.Event.resolved ⟨1, [2, 3]⟩ 0 outcome ∉ r.history) ∧
      ¬Xor (r.IsServed 0) (r.IsHeldUp 0) := by
  obtain ⟨r, hr, hstate⟩ := Option.map_eq_some_iff.1 state_closedInBetween
  simp only [Prod.mk.injEq, Bool.and_eq_true, List.isEmpty_iff, Option.isNone_iff_eq_none] at hstate
  obtain ⟨hhistory, hsize, hfree, ⟨harrivals, hsub⟩, ⟨hwork₀, hwork₁⟩, hwind⟩ := hstate
  obtain ⟨d, hd, hr⟩ := Option.bind_eq_some_iff.1 hr
  have hquiet : r.IsQuiet backwards := by
    refine isQuiet_of harrivals hsub (fun i hi => Or.inr ?_) hwind
    obtain rfl | rfl : i = 0 ∨ i = 1 := by omega
    · exact hwork₀
    · exact hwork₁
  have hacc : Pool.Event.accepted ⟨1, [2, 3]⟩ 0 ∈ r.history := by simp [hhistory]
  have hpending : ∀ outcome, Pool.Event.resolved ⟨1, [2, 3]⟩ 0 outcome ∉ r.history := by
    simp [hhistory]
  refine ⟨d, broughtUpTwo.2, r, Dispatcher.comesUp_of_toOption hd, hr, hquiet, by omega, hfree,
    hacc, hpending, ?_⟩
  rintro (⟨hserved, -⟩ | ⟨⟨_, _, _, hheldUp⟩, -⟩)
  · obtain ⟨outcome, hres⟩ := hserved _ hacc
    exact hpending outcome hres
  · have hheld : r.device.isHeld 0 = true := hheldUp.held
    exact Bool.false_ne_true (hfree.symm.trans hheld)

end Run

end Offload.Station

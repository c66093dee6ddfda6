/-
**How many steps a dispatcher still has to make.**

Without further calls everything that goes on in a dispatcher comes to an end: the budget of a slot
covers the run of its job and the busy polls that are left there, and the call that tears the
dispatcher down takes a number of steps that is known beforehand.

Main definitions:

* `Native.costSpec` — a specification that counts operations;
* `Station.Turn.isInner`, `Station.Turn.isIdle` — the steps of what is under way, and the idle ones;
* `Station.Funds` — a budget covers what a slot still has to do for its job;
* `Station.Run.Left` — **a run has at most so many steps left**.

Main results:

* `Device.cost_close` — closing a device takes few operations;
* `Station.Run.Left.turn` — **every inner step that is not idle counts**;
* `Station.Run.exists_left` — in every run there is a bound.
-/

import Offload.Proofs.Dispatcher.RunInvariant
import Offload.Proofs.Dispatcher.Progress
import Offload.Proofs.Pool.StepsLeft

set_option autoImplicit false
set_option relaxedAutoImplicit false

namespace Offload

/-! ### Counting operations -/

namespace Native

/-- Every operation costs one. -/
def costSpec : OpSpec Nat := fun _ Q n => ∃ m < n, ∀ x, Q x m

theorem costSpec_isMono : costSpec.IsMono := by
  rintro o k k' n h ⟨m, hlt, hk⟩
  exact ⟨m, hlt, fun x => h x m (hk x)⟩

variable {n k : Nat}

theorem cost_perform {o : Op} {Q : o.Answer → Nat → Prop} (hk : n + 1 ≤ k)
    (hQ : ∀ x m, n ≤ m → Q x m) : (perform o).Meets costSpec Q k :=
  ⟨n, hk, fun x => hQ x n (Nat.le_refl n)⟩

/-- Judging a status takes at most three operations. -/
theorem cost_check {status : Status} {Q : Outcome Unit → Nat → Prop} (hk : n + 3 ≤ k)
    (hQ : ∀ r m, n ≤ m → Q r m) : (check status).run.Meets costSpec Q k := by
  by_cases hs : status.isBenign = true
  · rw [check_of_isBenign hs]
    exact hQ _ _ (by omega)
  · rw [check, if_neg hs]
    refine ⟨n + 2, hk, fun code => ⟨n + 1, Nat.lt_succ_self _, fun text => ?_⟩⟩
    exact ⟨n, Nat.lt_succ_self n, fun _ => hQ _ n (Nat.le_refl n)⟩

theorem cost_request {c : Call} {prepared : c.Stored} {Q : Outcome c.Stored → Nat → Prop}
    (hk : n + 4 ≤ k) (hQ : ∀ r m, n ≤ m → Q r m) :
    (request c prepared).run.Meets costSpec Q k := by
  refine meets_request_iff.2 ⟨n + 3, hk, fun r => cost_check (Nat.le_refl _) fun r m hm => ?_⟩
  cases r <;> exact hQ _ m hm

end Native

/-! ### Closing a device -/

namespace Device

open Native Simulator

variable {n k : Nat}

theorem cost_setPcieEnabled (session : Session) {enabled : Bool} {Q : Outcome Unit → Nat → Prop}
    (hk : n + 8 ≤ k) (hQ : ∀ r m, n ≤ m → Q r m) :
    (session.setPcieEnabled enabled).run.Meets costSpec Q k := by
  rw [Session.setPcieEnabled, meets_action_bind]
  refine cost_request (n := n + 4) hk fun r m hm => ?_
  cases r with
  | ok => exact cost_request hm hQ
  | error => exact hQ _ m (by omega)

theorem cost_warnOnError {what : String} {step : Action Unit} {Q : Unit → Nat → Prop}
    (hstep : step.run.Meets costSpec (fun _ m => n + 1 ≤ m) k) (hQ : ∀ x m, n ≤ m → Q x m) :
    (warnOnError what step).Meets costSpec Q k := by
  rw [warnOnError, Program.meets_bind]
  refine hstep.mono costSpec_isMono fun r m hm => ?_
  cases r with
  | ok => exact hQ _ m (by omega)
  | error e => exact cost_perform hm hQ

/-- **Closing a device takes few operations**: three calls with at most three more for a failure,
two warnings and two lines. -/
theorem cost_close (d : Device) : d.close.Meets costSpec anything 16 := by
  cases hs : d.session with
  | none =>
      rw [close, hs]
      trivial
  | some session =>
      rw [close, hs]
      simp only [endSession, Program.meets_bind]
      refine cost_warnOnError (n := 7) (cost_setPcieEnabled session (Nat.le_refl _) fun _ _ h => h)
        fun _ m hm => ?_
      refine cost_warnOnError (n := 2) (cost_request hm fun _ _ h => h) fun _ m hm => ?_
      cases d.library with
      | none => exact cost_perform (n := 0) (by omega) fun _ _ _ => trivial
      | some path =>
          exact cost_perform hm fun _ m hm => cost_perform (n := 0) hm fun _ _ _ => trivial

end Device

namespace Dispatcher

open Native Simulator

/-- The call that tears a dispatcher down has at most so many steps left, without those of the pool;
`size` is the number of slots. -/
def Teardown.Takes (size : Nat) : Teardown → Nat → Prop
  | .notBegun, _ | .finished, _ => True
  | .announcing, n => 2 * size + 24 ≤ n
  | .stopping, n => 2 * size + 23 ≤ n
  | .waiting, n => 19 ≤ n
  | .closing rest, n => ∃ k, rest.Meets costSpec anything k ∧ k + 2 ≤ n
  | .releasing, n => 1 ≤ n

end Dispatcher

namespace Station

open Native Simulator

variable {compute : UInt32 → Bytes → Bytes} {setup : Setup} {size n : Nat} {r r' : Run} {t : Turn}
  {i : Nat}

/-! ### What is left to do -/

/-- The steps of everything that is under way, but not the beginning of anything new. -/
def Turn.isInner : Turn → Bool
  | .move (.execute _) | .move .tearDown => false
  | .move _ => true
  | _ => false

/-- The steps of a worker that has nothing to do. -/
def Turn.isIdle (r : Run) : Turn → Bool
  | .move (.work i) => r.pool.isIdle i
  | _ => false

/-- A call that has not been entered yet takes one step to enter. -/
def toEnter (run : Exchange.Run) : Nat := if run.entered then 0 else 1

/-- What beginning an exchange costs besides the busy polls of its slot. -/
def fee : Nat := 25

/-- The budget of a slot covers the busy polls that are left there, twice for each of the two steps
that a poll may bring about, and the run of its job.  Every operation counts twice, since it may be
entered before it is answered. -/
structure Funds (r : Run) (i budget : Nat) : Prop where
  polls : 4 * r.device.busyPolls (UInt32.ofNat i) ≤ budget
  running : ∀ job run, r.pool.worker? i = some (.running job run) →
    ∃ m, Exchange.Nears (r.device.busyPolls (UInt32.ofNat i)) run.rest m ∧
      2 * m + toEnter run ≤ budget

/-- **A run has at most so many steps left**: those of its pool, of the callers whose jobs were
admitted, and of the call that tears the dispatcher down. -/
def Run.Left (r : Run) (n : Nat) : Prop :=
  ∃ budget k, (∀ i, Funds r i (budget i)) ∧
    r.station.dispatcher.teardown.Takes r.pool.size k ∧
    r.pool.left fee budget + r.station.dispatcher.arrivals.length * (r.pool.size + fee + 16) + k ≤ n

/-! ### Budgets -/

/-- **Every step of a running job is paid for.** -/
theorem paid_of_continues {run run' : Exchange.Run} {site site' : Exchange.Site Simulator} {m : Nat}
    {slot : UInt32} (h : Exchange.Nears (site.world.driver.busyPolls slot) run.rest m)
    (habout : ∀ o next, run.rest = .step o next → Exchange.IsAbout slot o)
    (hstep : Exchange.step (driver compute) i run site = .continues run' site') :
    ∃ m', Exchange.Nears (site'.world.driver.busyPolls slot) run'.rest m' ∧
      2 * m' + toEnter run' < 2 * m + toEnter run := by
  rcases h.steps habout hstep with ⟨m', hlt, hnear⟩ | ⟨hnear, hentered, hentered', -⟩
  · have hle : toEnter run' ≤ 1 := by
      rw [toEnter]
      split <;> omega
    exact ⟨m', hnear, by omega⟩
  · refine ⟨m, hnear, ?_⟩
    simp [toEnter, hentered, hentered']

/-- Whatever a job still takes covers the busy polls of its slot. -/
theorem polls_le_of_nears {polls m : Nat} {rest : Program (Option (Outcome Bytes))}
    (h : Exchange.Nears polls rest m) : 2 * polls ≤ m := by
  obtain ⟨n, -, -, hle⟩ := h
  omega

/-- The budget of a slot lasts while others make their steps. -/
theorem Funds.aside {b : Nat} (hf : Funds r i b) (ho : SlotInv setup size r)
    (ht : r.turn compute t = some r') (hwork : t.isWork i = false) (hh : t.hinders i = false) :
    Funds r' i b := by
  have hpolls := (ho.eases_turn ht hh).polls
  refine ⟨?_, fun job run hw => ?_⟩
  · have hle := hf.polls
    omega
  · rw [Run.worker?_turn ht hwork] at hw
    obtain ⟨m, hnear, hle⟩ := hf.running job run hw
    exact ⟨m, hnear.mono hpolls (Nat.le_refl m), hle⟩

/-- What a step of the worker of a slot does to its budget: a job that is begun costs the fee, and
one that goes on uses its budget up. -/
theorem Funds.work {b : Nat} (hf : Funds r i b) (ho : SlotInv setup size r)
    (ht : r.turn compute (.move (.work i)) = some r') :
    ∃ b', Funds r' i b' ∧
      (b' ≤ b ∨ (∃ job, r.pool.worker? i = some (.holding job)) ∧ b' ≤ b + fee) ∧
      ∀ job run run' site, r.pool.worker? i = some (.running job run) →
        Exchange.step (driver compute) i run r.station.scheduler.shared = .continues run' site →
        b' < b := by
  obtain ⟨e, q, hq, hpool, hdevice, -⟩ := Run.work_cases ht
  have hpolls := (ho.eases_turn (i := i) ht rfl).polls
  have hb := hf.polls
  cases Pool.effect_of_transition hq with
  | calm hmove _ hrunning =>
      refine ⟨b, ⟨by omega, fun job run hw => ?_⟩, Or.inl (Nat.le_refl b), ?_⟩
      · rw [hpool] at hw
        exact absurd (hrunning i job run hw) (hmove i job run rfl)
      · exact fun job run _ _ hw => absurd hw (hmove i job run rfl)
  | begin slot job hmove hw _ _ hw' =>
      -- the fee pays for the round with the device; the polls of the slot are in the budget already
      cases hmove
      rw [← hpool] at hw'
      refine ⟨b + fee, ⟨by omega, fun job' run hrun => ?_⟩, Or.inr ⟨⟨job, hw⟩, Nat.le_refl _⟩, ?_⟩
      · cases hw'.symm.trans hrun
        refine ⟨_, Exchange.nears_deviceRound _ _ _ _, ?_⟩
        show 2 * (12 + 2 * r'.device.busyPolls (UInt32.ofNat i)) + 1 ≤ b + 25
        omega
      · exact fun job' run _ _ hrun => absurd (hw.symm.trans hrun) (by simp)
  | goOn slot job run run' hmove hw _ hstep hw' =>
      cases hmove
      rw [← hpool] at hw'
      obtain ⟨m, hnear, hle⟩ := hf.running job run hw
      obtain ⟨m', hnear', hlt⟩ := paid_of_continues hnear (ho.keeps.about hw) hstep
      rw [← hdevice] at hnear'
      have hpolls' := polls_le_of_nears hnear'
      refine ⟨2 * m' + toEnter run', ⟨by omega, fun job' run₁ hrun => ?_⟩, Or.inl (by omega), ?_⟩
      · cases hw'.symm.trans hrun
        exact ⟨m', hnear', Nat.le_refl _⟩
      · exact fun _ _ _ _ _ _ => by omega
  | «return» slot job run outcome hmove hw _ hstep hw' =>
      cases hmove
      rw [← hpool] at hw'
      refine ⟨b, ⟨by omega, fun job' run₁ hrun => ?_⟩, Or.inl (Nat.le_refl b), ?_⟩
      · cases hw'.symm.trans hrun
      · intro job' run₁ run' site hrun hcontinues
        cases hw.symm.trans hrun
        cases hstep.symm.trans hcontinues
  | die slot job run hmove hw hstep =>
      cases hmove
      exact absurd hstep (ho.keeps.not_died hw _)

/-! ### Every step -/

theorem update_budget {budget : Nat → Nat} {b' : Nat} (hothers : ∀ j ≠ i, Funds r' j (budget j))
    (hf : Funds r' i b') (j : Nat) : Funds r' j (Function.update budget i b' j) := by
  by_cases hj : j = i
  · subst hj
    rwa [Function.update_self]
  · rw [Function.update_of_ne hj]
    exact hothers j hj

theorem Run.Left.intro {budget : Nat → Nat} {k m : Nat} (hfunds : ∀ i, Funds r i (budget i))
    (htakes : r.station.dispatcher.teardown.Takes r.pool.size k)
    (hle : r.pool.left fee budget +
      r.station.dispatcher.arrivals.length * (r.pool.size + fee + 16) + k + m ≤ n) :
    ∃ n', r.Left n' ∧ n' + m ≤ n :=
  ⟨_, ⟨budget, k, hfunds, htakes, Nat.le_refl _⟩, hle⟩

/-- **Every step of a worker that is not idle counts.** -/
theorem Run.Left.work (hl : r.Left n) (ho : SlotInv setup size r)
    (ht : r.turn compute (.move (.work i)) = some r') :
    ∃ n', r'.Left n' ∧ n' + (if r.pool.isIdle i then 0 else 1) ≤ n := by
  obtain ⟨budget, k, hfunds, htakes, hle⟩ := hl
  obtain ⟨b', hfunds', hbegun, hgoOn⟩ := (hfunds i).work ho ht
  have hothers (j : Nat) (hj : j ≠ i) : Funds r' j (budget j) := by
    refine (hfunds j).aside ho ht ?_ rfl
    simpa [Turn.isWork] using Ne.symm hj
  obtain ⟨⟨s, e⟩, hstep, rfl⟩ := Option.map_eq_some_iff.1 ht
  obtain ⟨q, hq, rfl⟩ := poolStep_eq hstep
  have hsize : q.pool.size = r.pool.size := Pool.size_of_transition hq
  have hspends : Pool.Spends (executor (driver compute) patience) r.station.scheduler i fee budget
      (Function.update budget i b') := by
    refine ⟨fun j hj => ?_, ?_, ?_⟩
    · rw [Function.update_of_ne hj]
    · rwa [Function.update_self]
    · rwa [Function.update_self]
  have hleft : q.pool.left fee (Function.update budget i b') + (if r.pool.isIdle i then 0 else 1) ≤
      r.pool.left fee budget := Pool.left_of_work hq hspends
  refine Run.Left.intro (k := k) (update_budget hothers hfunds') ?_ ?_
  · show r.station.dispatcher.teardown.Takes q.pool.size k
    rwa [hsize]
  · show q.pool.left fee _ + r.station.dispatcher.arrivals.length * (q.pool.size + fee + 16) + k +
      _ ≤ n
    rw [hsize]
    omega

theorem left_of_driving {s : Station Simulator} {move : Move} {poolMove : Pool.Move}
    {arrivals : List Pool.Job} {teardown : Dispatcher.Teardown} {e : Option Pool.Event}
    {q : Pool.Scheduler Exchange.Run (Exchange.Site Simulator)} {budget : Nat → Nat} {k : Nat}
    (hd : Driving s move poolMove arrivals teardown)
    (hq : Pool.Scheduler.Transition (executor (driver compute) patience) s.scheduler poolMove e q)
    (hphased : s.scheduler.pool.Phased) (hwork : ∀ i, move ≠ .work i)
    (htakes : s.dispatcher.teardown.Takes s.dispatcher.pool.size k) :
    ∃ k', teardown.Takes s.dispatcher.pool.size k' ∧
      q.pool.left fee budget + arrivals.length * (s.dispatcher.pool.size + fee + 16) + k' + 1 ≤
        s.dispatcher.pool.left fee budget +
          s.dispatcher.arrivals.length * (s.dispatcher.pool.size + fee + 16) + k := by
  have hbudget (i : Nat) : budget i ≤ budget i := Nat.le_refl _
  have hpool : s.scheduler.pool = s.dispatcher.pool := rfl
  cases hd with
  | work i => exact absurd rfl (hwork i)
  | enter job hjob =>
      have hleft := Pool.left_of_submit fee hq hbudget
      rw [hpool] at hleft
      -- a caller less, who takes the lock
      obtain ⟨count, hcount⟩ : ∃ count, s.dispatcher.arrivals.length = count + 1 :=
        ⟨_, (Nat.succ_pred_eq_of_pos (List.length_pos_of_mem hjob)).symm⟩
      refine ⟨k, htakes, ?_⟩
      rw [List.length_erase_of_mem hjob, hcount, Nat.add_sub_cancel, Nat.succ_mul]
      omega
  | proceed =>
      have hleft := Pool.left_of_proceed fee hphased hq hbudget
      rw [hpool] at hleft
      exact ⟨k, htakes, by omega⟩
  | stop h =>
      have hleft := Pool.left_of_close fee hq hbudget
      rw [hpool] at hleft
      rw [h] at htakes
      have hk : 2 * s.dispatcher.pool.size + 23 ≤ k := htakes
      exact ⟨19, Nat.le_refl 19, by omega⟩
  | wait h =>
      have hleft := Pool.left_of_wind fee hphased hq hbudget
      rw [hpool] at hleft
      rw [h] at htakes
      exact ⟨k, htakes, by omega⟩

/-- **Every step of the station that is not a worker's counts**, unless it begins something new. -/
theorem left_of_transition {s s' : Station Simulator} {move : Move} {e : Option Pool.Event}
    {k : Nat} (ht : Transition (driver compute) patience s move e s')
    (hphased : s.scheduler.pool.Phased) (hinner : (Turn.move move).isInner = true)
    (hwork : ∀ i, move ≠ .work i)
    (htakes : s.dispatcher.teardown.Takes s.dispatcher.pool.size k) (budget : Nat → Nat) :
    s'.dispatcher.pool.size = s.dispatcher.pool.size ∧
      ∃ k', s'.dispatcher.teardown.Takes s.dispatcher.pool.size k' ∧
        s'.dispatcher.pool.left fee budget +
            s'.dispatcher.arrivals.length * (s.dispatcher.pool.size + fee + 16) + k' + 1 ≤
          s.dispatcher.pool.left fee budget +
            s.dispatcher.arrivals.length * (s.dispatcher.pool.size + fee + 16) + k := by
  cases ht with
  | turnAway | takeIn | tearDownAgain | tearDown => cases hinner
  | pool _ _ _ _ _ q hd hq =>
      exact ⟨Pool.size_of_transition hq, left_of_driving hd hq hphased hwork htakes⟩
  | announce router h =>
      rw [h] at htakes
      exact ⟨rfl, _, Nat.le_refl (2 * s.dispatcher.pool.size + 23), Nat.add_le_add_left htakes _⟩
  | endSession h hclosing =>
      rw [h] at htakes
      exact ⟨rfl, 18, ⟨16, Device.cost_close _, Nat.le_refl 18⟩, Nat.add_le_add_left htakes _⟩
  | closing o next h =>
      rw [h] at htakes
      obtain ⟨m, ⟨m', hlt, hnext⟩, hle⟩ := htakes
      have hk : m' + 3 ≤ k := by omega
      exact ⟨rfl, m' + 2, ⟨m', hnext _, Nat.le_refl _⟩, Nat.add_le_add_left hk _⟩
  | closed was device h =>
      rw [h] at htakes
      obtain ⟨m, -, hle⟩ := htakes
      have hk : 2 ≤ k := by omega
      exact ⟨rfl, 1, Nat.le_refl 1, Nat.add_le_add_left hk _⟩
  | release router h =>
      rw [h] at htakes
      exact ⟨rfl, 0, trivial, Nat.add_le_add_left htakes _⟩

/-- **Every inner step that is not idle counts.** -/
theorem Run.Left.turn (hl : r.Left n) (ho : SlotInv setup size r)
    (ht : r.turn compute t = some r') (hinner : t.isInner = true) :
    ∃ n', r'.Left n' ∧ n' + (if t.isIdle r then 0 else 1) ≤ n := by
  by_cases hwork : ∃ i, t = .move (.work i)
  · obtain ⟨i, rfl⟩ := hwork
    exact hl.work ho ht
  · obtain ⟨budget, k, hfunds, htakes, hle⟩ := hl
    have hfunds' (hh : ∀ i, t.hinders i = false) (i : Nat) : Funds r' i (budget i) := by
      refine (hfunds i).aside ho ht ?_ (hh i)
      cases hi : t.isWork i with
      | false => rfl
      | true => exact absurd ⟨i, Turn.eq_work hi⟩ hwork
    have hcount : (if t.isIdle r then 0 else 1) ≤ 1 := by split <;> omega
    cases Run.turned_of_turn ht with
    | execute | hook | operate | look | take => cases hinner
    | move move e s _ hstep =>
        have hnot (i : Nat) (hi : move = .work i) : False := hwork ⟨i, congrArg Turn.move hi⟩
        obtain ⟨hsize, k', htakes', hsum⟩ :=
          left_of_transition hstep ho.sound.phased hinner hnot htakes budget
        refine Run.Left.intro (k := k') (hfunds' fun _ => rfl) ?_ ?_
        · show s.dispatcher.teardown.Takes s.dispatcher.pool.size k'
          rwa [hsize]
        · show s.dispatcher.pool.left fee budget +
            s.dispatcher.arrivals.length * (s.dispatcher.pool.size + fee + 16) + k' + _ ≤ n
          rw [hsize]
          exact Nat.le_trans (Nat.add_le_add_left hcount _) (Nat.le_trans hsum hle)

/-! ### There is a bound in every run -/

theorem Run.IsPaced.funds (hp : r.IsPaced) (i : Nat) : ∃ b, Funds r i b := by
  cases hw : r.pool.worker? i with
  | none => exact ⟨_, Nat.le_refl _, fun job run hrun => by simp [hw] at hrun⟩
  | some w =>
      cases w with
      | running job run =>
          obtain ⟨polls, m, hnear⟩ := hp i job run hw
          refine ⟨2 * (Exchange.reserve + 2 * r.device.busyPolls (UInt32.ofNat i)) + toEnter run,
            by omega, fun job' run' hrun => ?_⟩
          cases hw.symm.trans hrun
          exact ⟨_, hnear.renew _, Nat.le_refl _⟩
      | _ => exact ⟨_, Nat.le_refl _, fun job run hrun => by simp [hw] at hrun⟩

theorem Run.IsPaced.left {k : Nat} (hp : r.IsPaced)
    (htakes : r.station.dispatcher.teardown.Takes r.pool.size k) : ∃ n, r.Left n := by
  choose budget hfunds using hp.funds
  exact ⟨_, budget, k, hfunds, htakes, Nat.le_refl _⟩

/-- A turn that begins something new leaves a teardown alone, or begins one. -/
theorem takes_of_outer {k : Nat} (ht : r.turn compute t = some r') (houter : t.isInner = false)
    (htakes : r.station.dispatcher.teardown.Takes size k) :
    ∃ k', r'.station.dispatcher.teardown.Takes size k' := by
  cases Run.turned_of_turn ht with
  | execute input e s hstep =>
      cases hstep with
      | turnAway | takeIn => exact ⟨k, htakes⟩
      | pool _ _ _ _ _ _ hd => cases hd
  | move move e s _ hstep =>
      cases hstep with
      | turnAway | takeIn | tearDownAgain => exact ⟨k, htakes⟩
      | tearDown => exact ⟨_, Nat.le_refl (2 * size + 24)⟩
      | pool _ _ _ _ _ _ hd => cases hd <;> cases houter
      | _ => cases houter
  | hook | operate | look | take => exact ⟨k, htakes⟩

/-- **In every run there is a bound on the steps that are left.** -/
theorem Run.exists_left {d : Dispatcher} {w : World Simulator} {ts : List Turn}
    (hup : d.ComesUp compute setup w) (hr : turns compute ts (start d w) = some r) :
    ∃ n, r.Left n := by
  suffices h : (RunInv compute setup d.bufferSize r ∧ r.IsPaced) ∧ ∃ n, r.Left n from h.2
  refine foldlM_induction (motive := fun r => (RunInv compute setup d.bufferSize r ∧ r.IsPaced) ∧
    ∃ n, r.Left n) hr ?_ fun r₁ r₂ t h ht => ?_
  · have hpaced := isPaced_start (w := w) hup.isUp.1
    refine ⟨⟨RunInv.start hup, hpaced⟩, hpaced.left (k := 0) ?_⟩
    show d.teardown.Takes _ 0
    rw [hup.isUp.1.teardown]
    trivial
  · obtain ⟨⟨hs, hp⟩, n, hl⟩ := h
    have hpaced := hs.slotInv.isPaced_turn hp ht
    refine ⟨⟨hs.turn ht, hpaced⟩, ?_⟩
    cases hinner : t.isInner with
    | true =>
        obtain ⟨n', hl', -⟩ := hl.turn hs.slotInv ht hinner
        exact ⟨n', hl'⟩
    | false =>
        obtain ⟨-, k, -, htakes, -⟩ := hl
        obtain ⟨k', htakes'⟩ := takes_of_outer ht hinner htakes
        refine hpaced.left (k := k') ?_
        have hsize : r₂.pool.size = r₁.pool.size :=
          (hs.turn ht).deviceInv.size.trans hs.deviceInv.size.symm
        rwa [hsize]

end Station

end Offload

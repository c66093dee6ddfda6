/-
**How long an exchange can take.**

An exchange on a slot that is not held ends after a bounded number of steps.  Every operation costs
one; an answer that the slot is not ready brings two in, which pay for the new round, and uses up
one of the busy polls of the slot.

Main definitions:

* `Exchange.saysFull` — the answer that a slot is not ready;
* `Exchange.creditSpec` — what the operations of an exchange cost and bring in;
* `Exchange.Nears` — **an exchange is within a number of steps of its end**.

Main results:

* `Exchange.credit_deviceRound` — a round can be paid for;
* `Exchange.Nears.steps` — **every step brings an exchange nearer to its end**;
* `Exchange.le_effort` — the bound on the steps of an exchange is large enough.
-/

import Offload.Proofs.Device.Exchange
import Offload.Proofs.Simulator.Busy

set_option autoImplicit false
set_option relaxedAutoImplicit false

namespace Offload.Exchange

open Native Simulator

/-! ### Credit -/

/-- The answer that a slot is not ready. -/
def saysFull : (o : Op) → o.Answer → Bool
  | .call (.inputFull _ _), r => r.stored = some true
  | _, _ => false

/-- What an operation brings in. -/
def income (o : Op) (x : o.Answer) : Nat := if saysFull o x then 2 else 0

/-- What is kept for a new round: its operations, and the step that begins it. -/
def reserve : Nat := 13

/-- What the operations of an exchange cost and bring in; no more is kept than a new round needs. -/
def creditSpec : OpSpec Nat := fun o Q n => ∀ x, ∃ n', n' < n + income o x ∧ n' ≤ reserve ∧ Q x n'

/-- A round that ends without a result has to leave what the next one needs. -/
def Affords : Option (Outcome Bytes) → Nat → Prop
  | none, n => reserve ≤ n
  | some _, _ => True

section

variable {α β : Type} {n : Nat}

theorem lt_income {m : Nat} (h : m < n) {o : Op} {x : o.Answer} : m < n + income o x :=
  Nat.lt_of_lt_of_le h (Nat.le_add_right _ _)

/-- Judging a status takes at most three operations. -/
theorem credit_check {status : Status} {Q : Outcome Unit → Nat → Prop} (h₃ : 3 ≤ n)
    (hok : Q (.ok ()) n) (herror : ∀ e m, Q (.error e) m) :
    (check status).run.Meets creditSpec Q n := by
  by_cases hs : status.isBenign = true
  · rw [check_of_isBenign hs]
    exact hok
  · rw [check, if_neg hs]
    refine fun code => ⟨2, lt_income h₃, by decide, ?_⟩
    refine fun text => ⟨1, lt_income (by decide), by decide, ?_⟩
    exact fun _ => ⟨0, lt_income (by decide), by decide, herror _ _⟩

theorem credit_request {c : Call} {prepared : c.Stored} {Q : Outcome c.Stored → Nat → Prop}
    (h₃ : 3 ≤ n) (hn : n ≤ reserve) (hok : ∀ stored, Q (.ok stored) n)
    (herror : ∀ e m, Q (.error e) m) :
    (request c prepared).run.Meets creditSpec Q (n + 1) := by
  rw [meets_request_iff]
  intro r
  refine ⟨n, lt_income (Nat.lt_succ_self n), hn, ?_⟩
  exact credit_check h₃ (hok _) herror

theorem credit_perform {o : Op} {Q : o.Answer → Nat → Prop} (hn : n ≤ reserve)
    (hQ : ∀ x, Q x n) : (perform o).Meets creditSpec Q (n + 1) :=
  fun x => ⟨n, lt_income (Nat.lt_succ_self n), hn, hQ x⟩

theorem credit_view {c : Call} {prepared : c.Stored} {Q : Outcome View → Nat → Prop}
    {ofStored : c.Stored → Outcome View} (h₃ : 3 ≤ n) (hn : n ≤ reserve)
    (hok : ∀ view, Q (.ok view) n) (herror : ∀ e m, Q (.error e) m) :
    (request c prepared >>= fun stored => liftM (ofStored stored)).run.Meets creditSpec Q
      (n + 1) := by
  rw [meets_action_bind]
  refine credit_request h₃ hn (fun stored => ?_) herror
  show Q (ofStored stored) n
  cases ofStored stored with
  | ok view => exact hok view
  | error e => exact herror e n

theorem credit_copy {o : Op} {checked : Outcome Unit} {Q : Outcome o.Answer → Nat → Prop}
    (hn : n ≤ reserve) (hok : ∀ x, Q (.ok x) n) (herror : ∀ e, Q (.error e) (n + 1)) :
    (liftM checked >>= fun _ => liftM (perform o) : Action o.Answer).run.Meets creditSpec Q
      (n + 1) := by
  rw [meets_action_bind]
  cases checked with
  | error e => exact herror e
  | ok => exact credit_perform hn hok

end

theorem credit_liftOutcome {α : Type} {r : Outcome α} {n : Nat} {Q : Outcome α → Nat → Prop} :
    (liftM r : Action α).run.Meets creditSpec Q n ↔ Q r n := Iff.rfl

/-- **A transfer can be paid for.** -/
theorem credit_transfer (s : Session) (slot : UInt32) (input : Bytes)
    {Q : Outcome Bytes → Nat → Prop} (hQ : ∀ r m, Q r m) :
    (transfer s slot input).run.Meets creditSpec Q 11 := by
  simp only [transfer, meets_action_bind, credit_liftOutcome]
  cases messageLength (Padding.pad input) with
  | error e => exact hQ _ _
  | ok length =>
      refine credit_view (n := 10) (by decide) (by decide) (fun inputView => ?_) fun e m => hQ _ _
      refine credit_view (n := 9) (by decide) (by decide) (fun outputView => ?_) fun e m => hQ _ _
      refine credit_copy (n := 8) (by decide) (fun _ => ?_) fun e => hQ _ _
      refine credit_request (n := 7) (by decide) (by decide) (fun _ => ?_) fun e m => hQ _ _
      refine credit_perform (n := 6) (by decide) fun _ => ?_
      refine credit_request (n := 5) (by decide) (by decide) (fun received => ?_) fun e m => hQ _ _
      simp only [either_ok, meets_outcome]
      refine credit_copy (n := 4) (by decide) (fun bytes => ?_) fun e => ?_
      · refine credit_request (n := 3) (by decide) (by decide) (fun _ => ?_) fun e m => hQ _ _
        exact credit_perform (n := 2) (by decide) fun _ => hQ _ _
      · exact credit_request (n := 4) (by decide) (by decide) (fun _ => hQ _ _) fun e m => hQ _ _

/-- **A round can be paid for**, and one that ends without a result leaves what the next one
needs. -/
theorem credit_deviceRound (device : Device) (slot : UInt32) (input : Bytes) :
    (deviceRound device slot input).Meets creditSpec Affords 12 := by
  cases hs : device.session with
  | none =>
      rw [deviceRound, hs]
      trivial
  | some session =>
      rw [deviceRound, hs]
      simp only
      rw [round, Program.meets_bind, Session.inputFull, meets_request_iff]
      intro r
      by_cases hfull : r.stored = some true
      · have hincome : income (.call (.inputFull session.handle slot)) r = 2 := by
          simp [income, saysFull, hfull]
        refine ⟨reserve, by rw [hincome]; decide, Nat.le_refl _, ?_⟩
        refine credit_check (by decide) ?_ fun e m => trivial
        simp only [either_ok, hfull, Option.getD_some]
        exact Nat.le_refl _
      · have hnot : r.stored.getD false = false := by
          cases hstored : r.stored with
          | none => rfl
          | some full => simpa [hstored] using hfull
        refine ⟨11, lt_income (by decide), by decide, ?_⟩
        refine credit_check (by decide) ?_ fun e m => trivial
        simp only [either_ok, hnot]
        rw [Program.meets_bind]
        exact credit_transfer session slot input fun _ _ => trivial

/-! ### Steps -/

variable {compute : UInt32 → Bytes → Bytes} {slot : UInt32}

theorem not_blocked (compute : UInt32 → Bytes → Bytes) {o : Op} {w : World Simulator}
    (ho : IsAbout slot o) (hheld : w.driver.isHeld slot = false) :
    (driver compute).isBlocked o w = false ∧ (driver compute).isStillBlocked o w = false := by
  cases o with
  | call c =>
      cases c with
      | wait h j =>
          obtain rfl : j = slot := Option.some_inj.1 ho.2
          refine ⟨?_, hheld⟩
          show ((w.driver.validate (some h) (some j)).1 = .success && w.driver.isHeld j) = false
          rw [hheld, Bool.and_false]
      | _ => exact ⟨rfl, rfl⟩
  | _ => exact ⟨rfl, rfl⟩

/-- No operation keeps the jobs of a slot waiting longer. -/
theorem eases_answered (compute : UInt32 → Bytes → Bytes) (slot : UInt32) (late : Bool) (o : Op)
    (w : World Simulator) :
    Eases slot w.driver (answered (driver compute) late o w).2.driver := by
  cases o with
  | call c =>
      rw [(answered_call compute late c w).2]
      exact eases_reply compute late c
  | store region data =>
      have hstore : Eases slot w.driver (w.driver.store region data) := by
        refine eases_modifySlot region.slot (fun t => ?_) fun t h => ?_
        · cases region.side <;> exact Nat.le_refl _
        · cases hside : region.side <;> simpa [hside] using h
      cases late <;> exact hstore
  | lastError | lastErrorText | fetch | log => cases late <;> exact .refl _ _

/-- **What an operation brings in is paid for by a busy poll.** -/
theorem income_answered (compute : UInt32 → Bytes → Bytes) {o : Op} (ho : IsAbout slot o)
    (late : Bool) (w : World Simulator) :
    2 * (answered (driver compute) late o w).2.driver.busyPolls slot +
        income o (answered (driver compute) late o w).1 ≤ 2 * w.driver.busyPolls slot := by
  have hpolls := (eases_answered compute slot late o w).polls
  by_cases hfull : saysFull o (answered (driver compute) late o w).1 = true
  · rw [income, if_pos hfull]
    cases o with
    | call c =>
        cases c with
        | inputFull h j =>
            obtain rfl : j = slot := Option.some_inj.1 ho.2
            obtain ⟨h₁, h₂⟩ := answered_call compute late (.inputFull h j) w
            rw [reply_of_ne compute late (by simp [operation])] at h₁ h₂
            have hlt : (Simulator.call compute (.inputFull h j) w.driver).2.busyPolls j <
                w.driver.busyPolls j := busyPolls_of_full (by simpa [saysFull, h₁] using hfull)
            rw [h₂]
            omega
        | _ => cases hfull
    | _ => cases hfull
  · rw [income, if_neg hfull]
    omega

/-! ### How near the end is -/

/-- An exchange has a result within `m` operations and new rounds, provided that its slot is not
held and says at most `polls` times that it is not ready. -/
def Nears (polls : Nat) (rest : Program (Option (Outcome Bytes))) (m : Nat) : Prop :=
  ∃ n, rest.Meets creditSpec Affords n ∧ n ≤ reserve ∧ n + 2 * polls ≤ m

section

variable {polls polls' m m' i : Nat} {rest : Program (Option (Outcome Bytes))} {run run' : Run}
  {site site' : Site Simulator}

theorem Nears.mono (h : Nears polls rest m) (hpolls : polls' ≤ polls) (hm : m ≤ m') :
    Nears polls' rest m' := by
  obtain ⟨n, hmeets, hn, hle⟩ := h
  exact ⟨n, hmeets, hn, by omega⟩

/-- However often the slot says that it is not ready, there is a bound. -/
theorem Nears.renew (h : Nears polls rest m) (polls' : Nat) :
    Nears polls' rest (reserve + 2 * polls') := by
  obtain ⟨n, hmeets, hn, -⟩ := h
  exact ⟨n, hmeets, hn, by omega⟩

/-- The bound on the steps of an exchange covers those that finish the job, too. -/
theorem le_effort (polls : Nat) : reserve + 2 * polls + 4 ≤ effort polls := by
  unfold reserve effort
  omega

theorem nears_deviceRound (device : Device) (slot : UInt32) (input : Bytes) (polls : Nat) :
    Nears polls (deviceRound device slot input) (12 + 2 * polls) :=
  ⟨12, credit_deviceRound device slot input, by decide, Nat.le_refl _⟩

/-- **Every step brings an exchange nearer to its end**, except for one that enters a call which
blocks. -/
theorem Nears.steps (h : Nears (site.world.driver.busyPolls slot) run.rest m)
    (habout : ∀ o next, run.rest = .step o next → IsAbout slot o)
    (hstep : step (driver compute) i run site = .continues run' site') :
    (∃ m' < m, Nears (site'.world.driver.busyPolls slot) run'.rest m') ∨
      Nears (site'.world.driver.busyPolls slot) run'.rest m ∧ run.entered = false ∧
        run'.entered = true ∧ site.world.driver.isHeld slot = true := by
  obtain ⟨n, hmeets, hn, hle⟩ := h
  cases stepped_of_step hstep with
  | again hrest =>
      -- what was left of the old round is more than what the new one costs
      rw [hrest] at hmeets
      have hreserve : reserve ≤ n := hmeets
      have hlt : 12 < reserve := by decide
      have hnear := nears_deviceRound site.device (UInt32.ofNat i) run.input
        (site.world.driver.busyPolls slot)
      exact Or.inl ⟨_, by omega, hnear⟩
  | answer o next hrest hreturns =>
      rw [hrest] at hmeets
      obtain ⟨n', hlt, hn', hnext⟩ := hmeets (answered (driver compute) run.entered o site.world).1
      have hincome := income_answered compute (habout o next hrest) run.entered
        site.world
      -- what the operation brings in is at most what its busy poll was worth
      refine Or.inl ⟨_, ?_, ⟨n', hnext, hn', Nat.le_refl _⟩⟩
      dsimp only
      omega
  | enter o next hrest hreturns hblocked =>
      have hentered : run.entered = false := by
        cases hentered : run.entered with
        | false => rfl
        | true =>
            -- a call that has been entered and does not return yet stays where it is
            have hstill : (driver compute).isStillBlocked o site.world = true := by
              simpa [returns, hentered] using hreturns
            rw [step, hrest] at hstep
            simp [hentered, hstill] at hstep
      have hheld : site.world.driver.isHeld slot = true := by
        cases hheld : site.world.driver.isHeld slot with
        | true => rfl
        | false =>
            have hnot := (not_blocked compute (habout o next hrest) hheld).1
            exact absurd (hnot.symm.trans hblocked) Bool.false_ne_true
      exact Or.inr ⟨⟨n, hmeets, hn, hle⟩, hentered, rfl, hheld⟩

/-- Every step counts, unless the slot is held. -/
theorem Nears.continues (h : Nears (site.world.driver.busyPolls slot) run.rest m)
    (habout : ∀ o next, run.rest = .step o next → IsAbout slot o)
    (hstep : step (driver compute) i run site = .continues run' site') :
    ∃ m', Nears (site'.world.driver.busyPolls slot) run'.rest m' ∧ m' ≤ m ∧
      (site.world.driver.isHeld slot = false → m' < m) := by
  rcases h.steps habout hstep with ⟨m', hlt, hnear⟩ | ⟨hnear, -, -, hheld⟩
  · exact ⟨m', hnear, Nat.le_of_lt hlt, fun _ => hlt⟩
  · refine ⟨m, hnear, Nat.le_refl m, fun hfree => ?_⟩
    exact absurd (hfree.symm.trans hheld) Bool.false_ne_true

/-- **An exchange that is blocked waits for its output**, and its slot is held. -/
theorem waits_of_blocked (habout : ∀ o next, run.rest = .step o next → IsAbout slot o)
    (hstep : step (driver compute) i run site = .blocked) :
    run.entered = true ∧ site.world.driver.isHeld slot = true ∧
      ∃ next, run.rest = .step (.call (.wait (some token) slot)) next := by
  cases stepped_of_step hstep with
  | wait o next hrest hentered hblocked =>
      have ho := habout o next hrest
      cases o with
      | call c =>
          cases c with
          | wait h j =>
              obtain rfl : j = slot := Option.some_inj.1 ho.2
              obtain rfl : h = some token := Option.some_inj.1 ho.1
              exact ⟨hentered, hblocked, next, hrest⟩
          | _ => cases hblocked
      | _ => cases hblocked

/-- An exchange waits for nothing but the release of its slot. -/
theorem not_blocked_of_not_held (hheld : site.world.driver.isHeld slot = false)
    (habout : ∀ o next, run.rest = .step o next → IsAbout slot o) :
    step (driver compute) i run site ≠ .blocked := fun hstep =>
  Bool.false_ne_true (hheld.symm.trans (waits_of_blocked habout hstep).2.1)

end

end Offload.Exchange

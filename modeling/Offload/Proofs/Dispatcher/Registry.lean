/-
**Registers through a dispatcher.**

A dispatcher is brought up on a simulated device without faults.  Callers read and write registers,
look at the enable bit and toggle it, jobs are submitted and run, slots are held and released, and
at some point the dispatcher is torn down.  What callers are told is what two maps would tell them:
jobs change no register, the teardown clears the enable bit and nothing else, and after it every
access is answered with the error of a closed device.

Main definitions:

* `Registry`, `Registry.turn` — a run of a dispatcher with what callers have been told;
* `Station.Stage` — the device holds the registers, or comes to hold them while it is being closed;
* `Registry.RegisterInv` — **the invariant**;
* `Registry.Refines` — the maps describe the run.

Main results:

* `Station.KeepsToSlots.shows` — jobs change no register;
* `Registry.RegisterInv.turn` — every turn keeps the device and the maps together;
* `Registry.registers_refined` — **the maps describe every run**.
-/

import Offload.Proofs.Dispatcher.Accesses
import Offload.Proofs.Dispatcher.RunInvariant

set_option autoImplicit false
set_option relaxedAutoImplicit false

namespace Offload

open Native Simulator

/-! ### Runs -/

/-- A run of a dispatcher, and what has happened to its registers, oldest first. -/
structure Registry where
  run : Station.Run
  entries : List Entry

/-- The device has been closed. -/
def Dispatcher.Teardown.hasClosed : Dispatcher.Teardown → Bool
  | .releasing | .finished => true
  | .notBegun | .announcing | .stopping | .waiting | .closing _ => false

/-- The device is open, or closed, or it is being closed. -/
theorem Dispatcher.Teardown.isEarly_eq {teardown : Teardown}
    (hnot : ∀ rest, teardown ≠ .closing rest) : teardown.isEarly = !teardown.hasClosed := by
  cases teardown with
  | closing rest => exact absurd rfl (hnot rest)
  | _ => rfl

namespace Registry

/-- What can happen next. -/
inductive Turn where
  /-- A caller makes an access through the dispatcher. -/
  | access (access : Access)
  /-- Anything else happens. -/
  | other (turn : Station.Turn)

/-- The turn neither injects faults nor gets at the registers past the dispatcher. -/
def isApart : Station.Turn → Bool
  | .hook hook => hook.isApart
  | .operate o => o.isReport
  | .execute _ | .move _ | .look _ _ | .take _ => true

/-- How far the teardown has come. -/
def teardown (x : Registry) : Dispatcher.Teardown := x.run.station.dispatcher.teardown

/-- What is noted when a step takes the teardown to closing the device. -/
def noted (teardown teardown' : Dispatcher.Teardown) : List Entry :=
  if teardown.isEarly && !teardown'.isEarly then [.closed] else []

/-- The beginning. -/
def start (d : Dispatcher) (w : World Simulator) : Registry := ⟨.start d w, []⟩

variable (compute : UInt32 → Bytes → Bytes)

/-- One turn, which is missing when it is not possible. -/
def turn (x : Registry) : Turn → Option Registry
  | .access access =>
      (x.run.station.onDevice (driver compute) access.conduct).map fun (answer, station) =>
        { run := { x.run with station }, entries := x.entries ++ [.told access answer] }
  | .other turn =>
      if isApart turn then
        (x.run.turn compute turn).map fun run =>
          { run
            entries := x.entries ++ noted x.teardown run.station.dispatcher.teardown }
      else none

/-- Many turns. -/
def turns (ts : List Turn) (x : Registry) : Option Registry := ts.foldlM (turn compute) x

end Registry

/-! ### The registers and the teardown -/

namespace Station

open Registry

variable {compute : UInt32 → Bytes → Bytes} {setup : Setup} {n : Nat} {R : Registers}
  {s s' : Station Simulator} {move : Move} {e : Option Pool.Event}

/-- The device holds the registers; while it is being closed, it comes to hold them. -/
structure Stage (compute : UInt32 → Bytes → Bytes) (R : Registers) (s : Station Simulator) :
    Prop where
  early : s.dispatcher.teardown.isEarly = true → s.world.driver.Shows R ∧ R.isOpen = true
  closing : ∀ rest, s.dispatcher.teardown = .closing rest → R.isOpen = false ∧
    ∃ S, s.world.driver.Shows S ∧
      rest.Meets (registerSpec compute) (fun r R' => R' = R ∧ r.2.session = none) S
  late : s.dispatcher.teardown.hasClosed = true →
    R.isOpen = false ∧ s.world.driver.Shows R ∧ s.dispatcher.device.session = none

theorem Stage.still (h : Stage compute R s) (hd : s'.dispatcher = s.dispatcher)
    (hshows : ∀ S, s.world.driver.Shows S → s'.world.driver.Shows S) : Stage compute R s' := by
  refine ⟨fun hearly => ?_, fun rest hrest => ?_, fun hlate => ?_⟩
  · rw [hd] at hearly
    exact (h.early hearly).imp_left (hshows R)
  · rw [hd] at hrest
    obtain ⟨hclosed, S, hS, hmeets⟩ := h.closing rest hrest
    exact ⟨hclosed, S, hshows S hS, hmeets⟩
  · rw [hd] at hlate ⊢
    obtain ⟨hclosed, hR, hsession⟩ := h.late hlate
    exact ⟨hclosed, hshows R hR, hsession⟩

theorem KeepsToSlots.shows_continues (hk : KeepsToSlots s) {i : Nat} {job : Pool.Job}
    {run run' : Exchange.Run} {site : Exchange.Site Simulator}
    (hw : s.dispatcher.pool.worker? i = some (.running job run))
    (hstep : Exchange.step (driver compute) i run s.scheduler.shared = .continues run' site)
    (h : s.world.driver.Shows R) : site.world.driver.Shows R := by
  cases Exchange.stepped_of_step hstep with
  | again | enter => exact h
  | answer o next hrest => exact h.answered (hk.about hw o next hrest) _ rfl

/-- **A step of the pool does not show**: jobs change no register. -/
theorem KeepsToSlots.shows (hk : KeepsToSlots s) {poolMove : Pool.Move}
    {q : Pool.Scheduler Exchange.Run (Exchange.Site Simulator)}
    (hq : Pool.Scheduler.Transition (executor (driver compute) patience) s.scheduler poolMove e q)
    (h : s.world.driver.Shows R) : q.shared.world.driver.Shows R := by
  obtain ⟨-, hdriver⟩ | ⟨slot, job, run, hw, ⟨run', hstep⟩ | hstep⟩ := Exchange.still_or_running hq
  · rw [hdriver]
    exact h
  · exact hk.shows_continues hw hstep h
  · exact absurd hstep (hk.not_died hw _)

theorem Stage.same {teardown : Dispatcher.Teardown}
    (hearly : teardown.isEarly = true → s.dispatcher.teardown.isEarly = true)
    (h : Stage compute R s) : Stage compute (R.after (noted teardown s.dispatcher.teardown)) s := by
  have hnothing : noted teardown s.dispatcher.teardown = [] := by
    rw [noted, if_neg]
    cases hwas : teardown.isEarly with
    | false => simp
    | true => simp [hearly hwas]
  rw [hnothing]
  exact h

theorem Stage.driven (h : Stage compute R s) (hk : KeepsToSlots s) {poolMove : Pool.Move}
    {arrivals : List Pool.Job} {teardown : Dispatcher.Teardown}
    {q : Pool.Scheduler Exchange.Run (Exchange.Site Simulator)}
    (hd : Driving s move poolMove arrivals teardown)
    (hq : Pool.Scheduler.Transition (executor (driver compute) patience) s.scheduler poolMove e q) :
    Stage compute (R.after (noted s.dispatcher.teardown
      (s.driven q e arrivals teardown).dispatcher.teardown)) (s.driven q e arrivals teardown) := by
  have hdevice : q.shared.device = s.dispatcher.device := (hk.touches hq).1
  have hshows {S : Registers} (hS : s.world.driver.Shows S) : q.shared.world.driver.Shows S :=
    hk.shows hq hS
  rcases hd.teardown_eq with rfl | ⟨hstopping, rfl⟩
  · refine Stage.same id ?_
    refine ⟨fun hearly => (h.early hearly).imp_left hshows, fun rest hrest => ?_, fun hlate => ?_⟩
    · obtain ⟨hclosed, S, hS, hmeets⟩ := h.closing rest hrest
      exact ⟨hclosed, S, hshows hS, hmeets⟩
    · obtain ⟨hclosed, hR, hsession⟩ := h.late hlate
      exact ⟨hclosed, hshows hR, (congrArg Device.session hdevice).trans hsession⟩
  · have hearly : s.dispatcher.teardown.isEarly = true := by rw [hstopping]; rfl
    refine Stage.same (fun _ => rfl) ?_
    exact ⟨fun _ => (h.early hearly).imp_left hshows, by rintro rest ⟨⟩, by rintro ⟨⟩⟩

/-- **A step of the station**: if it begins to close the device the registers are closed, and
otherwise they are as before. -/
theorem Stage.transition (h : Stage compute R s) (hk : KeepsToSlots s) (hu : DeviceInv setup n s)
    (hsome : (R.shell Session.configRegister).isSome = true)
    (ht : Transition (driver compute) patience s move e s') :
    Stage compute (R.after (noted s.dispatcher.teardown s'.dispatcher.teardown)) s' := by
  cases ht with
  | turnAway | takeIn | tearDownAgain =>
      exact Stage.same id ⟨h.early, h.closing, h.late⟩
  | pool _ _ _ _ _ _ hd hq => exact h.driven hk hd hq
  | tearDown hnot =>
      have hearly : s.dispatcher.teardown.isEarly = true := by rw [(hu.untorn hnot).1]; rfl
      refine Stage.same (fun _ => rfl) ?_
      exact ⟨fun _ => h.early hearly, by rintro rest ⟨⟩, by rintro ⟨⟩⟩
  | announce router hteardown =>
      have hearly : s.dispatcher.teardown.isEarly = true := by rw [hteardown]; rfl
      refine Stage.same (fun _ => rfl) ?_
      exact ⟨fun _ => h.early hearly, by rintro rest ⟨⟩, by rintro ⟨⟩⟩
  | endSession hteardown =>
      have hearly : s.dispatcher.teardown.isEarly = true := by rw [hteardown]; rfl
      obtain ⟨hshows, hopen⟩ := h.early hearly
      have hclosed : R.after (noted s.dispatcher.teardown
          (winding (.closing s.dispatcher.device.close) s).dispatcher.teardown) = R.closed := by
        rw [hteardown]
        exact if_pos hopen
      refine ⟨by rintro ⟨⟩, ?_, by rintro ⟨⟩⟩
      rintro rest ⟨⟩
      rw [hclosed]
      refine ⟨rfl, R, hshows, ?_⟩
      exact Device.registers_close (hu.session hearly) rfl hopen hsome ⟨rfl, rfl⟩
  | closing o next hteardown =>
      obtain ⟨hclosed, S, hS, hmeets⟩ := h.closing _ hteardown
      obtain ⟨S', hS', hnext⟩ := hmeets s.world hS
      refine Stage.same (by rw [hteardown]; rintro ⟨⟩) ?_
      refine ⟨by rintro ⟨⟩, ?_, by rintro ⟨⟩⟩
      rintro rest ⟨⟩
      exact ⟨hclosed, S', hS', hnext⟩
  | closed was device hteardown =>
      obtain ⟨hclosed, S, hS, rfl, hsession⟩ := h.closing _ hteardown
      refine Stage.same (by rw [hteardown]; rintro ⟨⟩) ?_
      exact ⟨by rintro ⟨⟩, (by rintro rest ⟨⟩), fun _ => ⟨hclosed, hS, hsession⟩⟩
  | release router hteardown =>
      have hlate : s.dispatcher.teardown.hasClosed = true := by rw [hteardown]; rfl
      refine Stage.same (by rw [hteardown]; rintro ⟨⟩) ?_
      exact ⟨by rintro ⟨⟩, (by rintro rest ⟨⟩), fun _ => h.late hlate⟩

theorem shows_of_transition (hk : KeepsToSlots s)
    (hnot : ∀ rest, s.dispatcher.teardown ≠ .closing rest)
    (ht : Transition (driver compute) patience s move e s') (h : s.world.driver.Shows R) :
    s'.world.driver.Shows R := by
  cases ht with
  | pool _ _ _ _ _ _ _ hq => exact hk.shows hq h
  | closing _ _ hteardown => exact absurd hteardown (hnot _)
  | _ => exact h

theorem hasClosed_of_transition (hu : DeviceInv setup n s)
    (ht : Transition (driver compute) patience s move e s')
    (hlate : s.dispatcher.teardown.hasClosed = true) :
    s'.dispatcher.teardown.hasClosed = true := by
  have hne {teardown : Dispatcher.Teardown} (hteardown : s.dispatcher.teardown = teardown)
      (hnot : teardown.hasClosed = false) : False := by
    rw [hteardown, hnot] at hlate
    cases hlate
  cases ht with
  | turnAway | takeIn | tearDownAgain => exact hlate
  | pool _ _ _ _ _ _ hd =>
      cases hd with
      | stop hteardown | wait hteardown => exact (hne hteardown rfl).elim
      | _ => exact hlate
  | tearDown hnot => exact (hne (hu.untorn hnot).1 rfl).elim
  | announce _ hteardown | endSession hteardown | closing _ _ hteardown =>
      exact (hne hteardown rfl).elim
  | closed | release => rfl

/-! ### Accesses through the dispatcher -/

/-- What the registers are after an access of an open device, and of a closed one. -/
theorem Stage.access (h : Stage compute R s) (hu : DeviceInv setup n s)
    (hnot : ∀ rest, s.dispatcher.teardown ≠ .closing rest) (access : Access) :
    let r := (driver compute).run (s.dispatcher.device.withSession access.conduct).run s.world
    r.1 = R.answer access ∧
      Stage compute (R.enter (.told access r.1)) { s with world := r.2 } := by
  have hstages := Dispatcher.Teardown.isEarly_eq hnot
  rw [Device.withSession]
  cases hlate : s.dispatcher.teardown.hasClosed with
  | false =>
      rw [hlate] at hstages
      obtain ⟨hshows, hopen⟩ := h.early hstages
      have hwritten : (R.written access).isOpen = true := by
        cases access <;> exact hopen
      have henter (answer : Outcome access.Answer) :
          R.enter (.told access answer) = R.written access := if_pos hopen
      rw [hu.session hstages]
      dsimp only
      have hconduct : ComesTo compute R (access.conduct ⟨token, n⟩) _ _ :=
        comesTo_conduct rfl hopen access
      obtain ⟨hanswer, hshows'⟩ := hconduct s.world hshows
      refine ⟨hanswer.trans (if_pos hopen).symm, ?_⟩
      rw [henter]
      refine ⟨fun _ => ⟨hshows', hwritten⟩, fun rest hrest => absurd hrest (hnot rest), ?_⟩
      exact fun h => absurd (hlate.symm.trans h) Bool.false_ne_true
  | true =>
      obtain ⟨hclosed, -, hsession⟩ := h.late hlate
      have henter (entry : Entry) : R.enter entry = R := by simp [Registers.enter, hclosed]
      rw [hsession]
      dsimp only
      rw [henter, Registers.answer, hclosed]
      exact ⟨rfl, h.early, h.closing, h.late⟩

theorem Run.exists_turns (compute : UInt32 → Bytes → Bytes) {α : Type} {p : Program α}
    (hp : p.Every (isRegister · = true)) (r : Run) :
    ∃ ts, Run.turns compute ts r =
      some (r.withWorld ((driver compute).run p r.station.world).2) := by
  induction p generalizing r with
  | done a => exact ⟨[], rfl⟩
  | step o next ih =>
      obtain ⟨ts, hts⟩ := ih _ (hp.2 _) (r.withWorld ((driver compute).answer o r.station.world).2)
      have ht : r.turn compute (.operate o) =
          some (r.withWorld ((driver compute).answer o r.station.world).2) := if_pos hp.1
      exact ⟨.operate o :: ts, (foldlM_cons_of_eq_some ht).trans hts⟩

end Station

/-! ### The invariant -/

namespace Registry

open Station

variable {compute : UInt32 → Bytes → Bytes} {setup : Setup} {n : Nat} {R : Registers}
  {x x' : Registry}

/-- The dispatcher is in order, its device and the maps are together, and callers have been told
what the maps answer. -/
structure RegisterInv (compute : UInt32 → Bytes → Bytes) (setup : Setup) (n : Nat) (R : Registers)
    (x : Registry) : Prop where
  runInv : RunInv compute setup n x.run
  stage : Stage compute (R.after x.entries) x.run.station
  honest : R.Honest x.entries

/-- **An access is possible unless the device is being closed.** -/
theorem turn_access (hnot : ∀ rest, x.teardown ≠ .closing rest) (access : Access) :
    let r := (driver compute).run (x.run.station.dispatcher.device.withSession access.conduct).run
      x.run.station.world
    x.turn compute (.access access) =
      some ⟨x.run.withWorld r.2, x.entries ++ [.told access r.1]⟩ := by
  rw [teardown] at hnot
  simp only [turn, onDevice]
  rfl

theorem not_closing_of_turn {access : Access} (h : x.turn compute (.access access) = some x')
    (rest : Program (Bool × Device)) : x.teardown ≠ .closing rest := by
  intro hrest
  rw [teardown] at hrest
  simp [turn, onDevice, hrest] at h

theorem other_eq_some {t : Station.Turn} (h : x.turn compute (.other t) = some x') :
    ∃ r, isApart t = true ∧ x.run.turn compute t = some r ∧
      x' = ⟨r, x.entries ++ noted x.teardown r.station.dispatcher.teardown⟩ := by
  rw [turn] at h
  split at h
  · next hapart =>
      obtain ⟨r, ht, rfl⟩ := Option.map_eq_some_iff.1 h
      exact ⟨r, hapart, ht, rfl⟩
  · cases h

/-- A turn that is apart from the registers is a step of the station, perhaps with a new completion,
or it leaves the dispatcher alone and does not show. -/
theorem cases_of_apart {t : Station.Turn} (hapart : isApart t = true) {r r' : Run}
    (ht : r.turn compute t = some r') :
    (∃ l move e s deeds, Transition (driver compute) patience (r.withLedger l).station move e s ∧
        r' = r.after s e deeds) ∨
      r'.station.dispatcher = r.station.dispatcher ∧
        ∀ S, r.station.world.driver.Shows S → r'.station.world.driver.Shows S := by
  cases Run.turned_of_turn ht with
  | execute input e s hs => exact Or.inl ⟨_, _, e, s, [], hs, rfl⟩
  | move move e s hmove hs => exact Or.inl ⟨r.station.ledger, move, e, s, _, hs, rfl⟩
  | hook hook s hs => exact Or.inr ⟨rfl, fun _ => hook.shows hapart hs⟩
  | operate o ho =>
      have hsame : ((driver compute).answer o r.station.world).2.driver = r.station.world.driver :=
        Exchange.driver_answered_report hapart false r.station.world
      refine Or.inr ⟨rfl, fun S hS => ?_⟩
      rw [← hsame] at hS
      exact hS
  | look | take => exact Or.inr ⟨rfl, fun _ h => h⟩

/-- The device is closed when it is open. -/
theorem honest_noted {teardown teardown' : Dispatcher.Teardown}
    (h : teardown.isEarly = true → R.isOpen = true) : R.Honest (noted teardown teardown') := by
  unfold noted
  split
  · next hnoted =>
      rw [Bool.and_eq_true] at hnoted
      exact ⟨h hnoted.1, trivial⟩
  · trivial

namespace RegisterInv

theorem access (hk : RegisterInv compute setup n R x) {access : Access}
    (h : x.turn compute (.access access) = some x') : RegisterInv compute setup n R x' := by
  have hnot := not_closing_of_turn h
  obtain ⟨hanswer, hstage⟩ := hk.stage.access hk.runInv.deviceInv hnot access
  obtain rfl := Option.some_inj.1 ((turn_access hnot access).symm.trans h)
  refine ⟨?_, ?_, ?_⟩
  · obtain ⟨ts, hts⟩ := Run.exists_turns compute (Device.every_withSession
      x.run.station.dispatcher.device fun session _ => access.every_conduct session) x.run
    exact hk.runInv.turns hts
  · rw [Registers.after_append]
    exact hstage
  · exact Registers.honest_append.2 ⟨hk.honest, hanswer, trivial⟩

theorem other (hk : RegisterInv compute setup n R x)
    (hsome : (R.shell Session.configRegister).isSome = true) {t : Station.Turn}
    (h : x.turn compute (.other t) = some x') : RegisterInv compute setup n R x' := by
  have hsome' : ((R.after x.entries).shell Session.configRegister).isSome = true := by
    rwa [Registers.isSome_after]
  obtain ⟨r, hapart, ht, rfl⟩ := other_eq_some h
  refine ⟨hk.runInv.turn ht, ?_, ?_⟩
  · rw [Registers.after_append]
    rcases cases_of_apart hapart ht with ⟨l, move, e, s, deeds, hs, rfl⟩ | ⟨hd, hshows⟩
    · have hstage : Stage compute (R.after x.entries) (x.run.withLedger l).station :=
        hk.stage.still rfl fun _ h => h
      exact hstage.transition (hk.runInv.keepsToSlots l) (hk.runInv.deviceInv.still rfl rfl) hsome' hs
    · rw [teardown, ← hd]
      exact Stage.same id (hk.stage.still hd hshows)
  · exact Registers.honest_append.2 ⟨hk.honest, honest_noted fun h => (hk.stage.early h).2⟩

/-- **Every turn keeps the device and the maps together.** -/
theorem turn (hk : RegisterInv compute setup n R x)
    (hsome : (R.shell Session.configRegister).isSome = true) {t : Turn}
    (h : x.turn compute t = some x') : RegisterInv compute setup n R x' := by
  cases t with
  | access access => exact hk.access h
  | other t => exact hk.other hsome h

theorem turns (hk : RegisterInv compute setup n R x)
    (hsome : (R.shell Session.configRegister).isSome = true) {ts : List Turn}
    (h : turns compute ts x = some x') : RegisterInv compute setup n R x' :=
  foldlM_induction h hk fun _ _ _ hk ht => hk.turn hsome ht

end RegisterInv

/-! ### What the maps say of a run -/

/-- **The maps describe a run**, `R` being what they were at its beginning. -/
structure Refines (compute : UInt32 → Bytes → Bytes) (R : Registers) (x : Registry) : Prop where
  /-- Callers have been told what the maps answered at the time. -/
  told : ∀ before access answer rest, x.entries = before ++ .told access answer :: rest →
    answer = (R.after before).answer access
  /-- Unless the device is being closed an access is possible, and is answered as by the maps. -/
  possible : (∀ rest, x.teardown ≠ .closing rest) → ∀ access, ∃ x',
    x.turn compute (.access access) = some x' ∧
      x'.entries = x.entries ++ [.told access ((R.after x.entries).answer access)]
  /-- Unless the device is being closed it holds what the maps hold. -/
  held : (∀ rest, x.teardown ≠ .closing rest) → x.run.device.registers = R.after x.entries
  isOpen : (R.after x.entries).isOpen = x.teardown.isEarly
  /-- Nothing but an access changes a register, until the device is being closed. -/
  apart : (∀ rest, x.teardown ≠ .closing rest) → ∀ t x', x.turn compute (.other t) = some x' →
    x'.run.device.registers = x.run.device.registers
  /-- Closing the device clears the enable bit, and nobody gets an answer after it. -/
  cleared : ∀ before rest, x.entries = before ++ .closed :: rest →
    (R.after before).Cleared (R.after x.entries) ∧
      ∀ access answer, .told access answer ∈ rest → answer = .error .closed
  /-- Once the device has been closed no register changes any more. -/
  settled : x.teardown.hasClosed = true → ∀ ts x', turns compute ts x = some x' →
    x'.run.device.registers = x.run.device.registers

theorem RegisterInv.hasClosed_turn (hk : RegisterInv compute setup n R x) {t : Turn}
    (h : x.turn compute t = some x') (hlate : x.teardown.hasClosed = true) :
    x'.teardown.hasClosed = true := by
  cases t with
  | access access =>
      cases (turn_access (not_closing_of_turn h) access).symm.trans h
      exact hlate
  | other t =>
      obtain ⟨r, hapart, ht, rfl⟩ := other_eq_some h
      rcases cases_of_apart hapart ht with ⟨l, move, e, s, deeds, hs, rfl⟩ | ⟨hd, -⟩
      · have hdeviceInv : DeviceInv setup n (x.run.withLedger l).station :=
          hk.runInv.deviceInv.still rfl rfl
        exact hasClosed_of_transition hdeviceInv hs hlate
      · rw [teardown, hd]
        exact hlate

theorem entries_turn {t : Turn} (h : x.turn compute t = some x') :
    ∃ more, x'.entries = x.entries ++ more := by
  cases t with
  | access access =>
      cases (turn_access (not_closing_of_turn h) access).symm.trans h
      exact ⟨_, rfl⟩
  | other t =>
      obtain ⟨r, -, -, rfl⟩ := other_eq_some h
      exact ⟨_, rfl⟩

namespace RegisterInv

/-- Unless the device is being closed it holds what the maps hold. -/
theorem shows (hk : RegisterInv compute setup n R x) (hnot : ∀ rest, x.teardown ≠ .closing rest) :
    x.run.device.Shows (R.after x.entries) := by
  have hstages := Dispatcher.Teardown.isEarly_eq hnot
  cases hlate : x.teardown.hasClosed with
  | false =>
      rw [hlate] at hstages
      exact (hk.stage.early hstages).1
  | true => exact (hk.stage.late hlate).2.1

theorem isOpen_eq (hk : RegisterInv compute setup n R x) :
    (R.after x.entries).isOpen = x.teardown.isEarly := by
  cases hteardown : x.teardown with
  | closing rest => exact (hk.stage.closing rest hteardown).1
  | releasing | finished => exact (hk.stage.late (by rw [← teardown, hteardown]; rfl)).1
  | _ => exact (hk.stage.early (by rw [← teardown, hteardown]; rfl)).2

/-- **Once the device has been closed no register changes any more.** -/
theorem settled (hk : RegisterInv compute setup n R x)
    (hsome : (R.shell Session.configRegister).isSome = true)
    (hlate : x.teardown.hasClosed = true) {ts : List Turn}
    (h : Registry.turns compute ts x = some x') :
    x'.run.device.registers = x.run.device.registers := by
  induction ts generalizing x with
  | nil =>
      obtain rfl : x = x' := Option.some_inj.1 h
      rfl
  | cons t ts ih =>
      obtain ⟨x₁, ht, hts⟩ := Option.bind_eq_some_iff.1 h
      have hk₁ := hk.turn hsome ht
      have hlate₁ := hk.hasClosed_turn ht hlate
      obtain ⟨more, hmore⟩ := entries_turn ht
      obtain ⟨hclosed, hshows, -⟩ := hk.stage.late hlate
      have hsame : R.after x₁.entries = R.after x.entries := by
        rw [hmore, Registers.after_append, Registers.after_of_closed hclosed]
      calc x'.run.device.registers = x₁.run.device.registers := ih hk₁ hlate₁ hts
        _ = R.after x₁.entries := (hk₁.stage.late hlate₁).2.1.registers
        _ = R.after x.entries := hsame
        _ = x.run.device.registers := hshows.registers.symm

/-- **The maps describe a run that keeps the invariant.** -/
theorem refines (hk : RegisterInv compute setup n R x)
    (hsome : (R.shell Session.configRegister).isSome = true) : x.Refines compute R where
  told before access answer rest hentries := by
    have hhonest := hk.honest
    rw [hentries] at hhonest
    exact (Registers.honest_append.1 hhonest).2.1
  possible hnot access := by
    obtain ⟨hanswer, -⟩ := hk.stage.access hk.runInv.deviceInv hnot access
    refine ⟨_, turn_access hnot access, ?_⟩
    rw [← hanswer]
  held hnot := (hk.shows hnot).registers
  isOpen := hk.isOpen_eq
  apart hnot t x' h := by
    obtain ⟨r, hapart, ht, rfl⟩ := other_eq_some h
    have hshown := hk.shows hnot
    rcases cases_of_apart hapart ht with ⟨l, move, e, s, deeds, hs, rfl⟩ | ⟨-, hshows⟩
    · have hshows := shows_of_transition (hk.runInv.keepsToSlots l) hnot hs hshown
      exact hshows.registers.trans hshown.registers.symm
    · exact (hshows _ hshown).registers.trans hshown.registers.symm
  cleared before rest hentries := by
    have hhonest := hk.honest
    rw [hentries] at hhonest
    obtain ⟨-, hopen, hrest⟩ := Registers.honest_append.1 hhonest
    have henter : (R.after before).enter .closed = (R.after before).closed := if_pos hopen
    rw [henter] at hrest
    refine ⟨?_, fun access answer hmem => hrest.eq_closed rfl hmem⟩
    have hafter : R.after x.entries = (R.after before).closed := by
      rw [hentries, Registers.after_append, Registers.after, List.foldl_cons, henter]
      exact Registers.after_of_closed rfl rest
    rw [hafter]
    exact Registers.cleared_closed
  settled hlate ts x' h := hk.settled hsome hlate h

end RegisterInv

/-! ### Runs on a device that has been used -/

section

variable {injected : List Fault} {blocked : List Call} {s₀ : Simulator} {d : Dispatcher}
  {w : World Simulator} {router : Log.Router} {library : Option String} {config : Config}

/-- The registers that exist on a device are those that its setup says. -/
theorem isSome_registers (hs₀ : Reachable compute setup injected blocked s₀) (i : UInt32) :
    (s₀.registers.shell i).isSome = true ↔ i < setup.shellRegisters := by
  show s₀.shell[i.toNat]?.isSome = true ↔ _
  rw [Option.isSome_iff_ne_none, Ne, List.getElem?_eq_none_iff, Nat.not_le, hs₀.length_shell,
    UInt32.lt_iff_toNat_lt]

theorem RegisterInv.start (hs₀ : Reachable compute setup injected blocked s₀)
    (hfaults : s₀.faults = []) (hregister : 0 < setup.shellRegisters)
    (hup : (driver compute).run (Dispatcher.bringUp library config).run ⟨s₀, router⟩ =
      (.ok d, w)) :
    RegisterInv compute setup d.bufferSize s₀.registers.opened (start d w) := by
  have hcomes : d.ComesUpOn compute s₀ w := by
    refine ⟨library, config, router, ?_⟩
    have hrun := Program.meddled_run (driver compute) Meddling
      (Dispatcher.bringUp library config).run ⟨s₀, router⟩
    rwa [hup] at hrun
  have hslots : s₀.slots.length = s₀.setup.bufferCount.toNat := by
    have hlength := congrArg List.length hs₀.regions
    rwa [List.length_map, List.length_replicate, ← hs₀.setup_eq] at hlength
  have hshown : w.driver.Shows s₀.registers.opened := by
    have hbefore : (World.mk s₀ router).driver.Shows s₀.registers := ⟨hfaults, rfl⟩
    have hmeets : (Dispatcher.bringUp library config).run.Meets (registerSpec compute) _
        s₀.registers :=
      Dispatcher.registers_bringUp ((isSome_registers hs₀ _).2 hregister)
    obtain ⟨R', hshows, hopened⟩ := hbefore.run hmeets
    rw [hup] at hshows hopened
    exact hopened d rfl ▸ hshows
  have hteardown : (Registry.start d w).run.station.dispatcher.teardown = .notBegun :=
    hcomes.isUp.1.teardown
  refine ⟨?_, ⟨fun _ => ⟨hshown, rfl⟩, fun rest hrest => ?_, fun hlate => ?_⟩, trivial⟩
  · have hrunInv := RunInv.comesUpOn hcomes hslots
    rwa [hs₀.setup_eq] at hrunInv
  · rw [hteardown] at hrest
    cases hrest
  · rw [hteardown] at hlate
    cases hlate

/-- The hooks of a test touch no register of the loaded image. -/
theorem soft_hooks {hooks : List Hook} {s s' : Simulator}
    (h : List.foldlM (fun s hook => Hook.apply hook s) s hooks = some s') : s'.soft = s.soft := by
  induction hooks generalizing s with
  | nil =>
      obtain rfl : s = s' := Option.some_inj.1 h
      rfl
  | cons hook hooks ih =>
      rw [List.foldlM_cons] at h
      obtain ⟨s₁, happly, h⟩ := Option.bind_eq_some_iff.1 h
      refine (ih h).trans ?_
      cases Hook.applied_of_apply happly <;> rfl

/-- **The maps describe every run.**  A dispatcher is brought up on a device that may have been used
before and has no faults pending; callers make accesses, jobs run, slots are held and released, and
the dispatcher is torn down, in any order.  The maps are at first what the device held before, but
for the configuration, which is one. -/
theorem registers_refined (hs₀ : Reachable compute setup injected blocked s₀)
    (hfaults : s₀.faults = []) (hregister : 0 < setup.shellRegisters)
    (hup : (driver compute).run (Dispatcher.bringUp library config).run ⟨s₀, router⟩ = (.ok d, w))
    {ts : List Turn} (hx : turns compute ts (start d w) = some x) :
    x.Refines compute s₀.registers.opened ∧
      (∀ entries i,
        (i < setup.shellRegisters →
          ((s₀.registers.opened.after entries).shell i).isSome = true) ∧
        (setup.shellRegisters ≤ i → (s₀.registers.opened.after entries).Lacks i)) ∧
      s₀.registers.opened.shell Session.configRegister = some 1 ∧
      (∀ i, i ≠ Session.configRegister →
        s₀.registers.opened.shell i = s₀.shellRegister? i) ∧
      s₀.registers.opened.soft = s₀.soft ∧
      ∀ hooks, List.foldlM (fun s hook => Hook.apply hook s) (Simulator.fresh setup) hooks =
        some s₀ → ∀ address, s₀.soft address = 0 := by
  have hexists (i : UInt32) :
      (s₀.registers.opened.shell i).isSome = true ↔ i < setup.shellRegisters :=
    (iff_of_eq (congrArg (· = true) (Registers.isSome_modify ..))).trans (isSome_registers hs₀ i)
  have hsome := (hexists Session.configRegister).2 hregister
  have hkept := (RegisterInv.start hs₀ hfaults hregister hup).turns hsome hx
  refine ⟨hkept.refines hsome, ?_, ?_, ?_, rfl, ?_⟩
  · intro entries i
    have hafter : ((s₀.registers.opened.after entries).shell i).isSome = true ↔
        i < setup.shellRegisters := by
      rw [Registers.isSome_after]
      exact hexists i
    refine ⟨hafter.2, fun hi => Registers.lacks_of_none (Option.not_isSome_iff_eq_none.1 ?_)⟩
    rw [hafter]
    exact UInt32.not_lt.2 hi
  · obtain ⟨old, hold⟩ := Option.isSome_iff_exists.1
      ((isSome_registers hs₀ Session.configRegister).2 hregister)
    have hself := Registers.shell_modify_self (R := s₀.registers) Session.configRegister fun _ => 1
    rw [hold] at hself
    exact hself
  · exact fun i hi => Registers.shell_modify_of_ne hi _
  · intro hooks hprepared address
    rw [soft_hooks hprepared]
    rfl

end

/-! ### A run with a job and a teardown -/

section

open Station.Run

/-- Callers write registers of both kinds, one that does not exist among them, a job runs, the
registers are read again, and the dispatcher is torn down. -/
def accessed : List Turn :=
  [.access (.writeShell 0 0xF0), .access (.setPcieEnabled true), .access (.writeShell 99 1),
    .access (.writeSoft 5 7)] ++
  (.execute [1] :: .move (.enter 0) :: often 6 .proceed ++ often 24 (.work 0)).map .other ++
  [.access (.readShell 0), .access (.readSoft 5), .access .pcieEnabled] ++
  (often 1 .tearDown ++ often 2 .wind ++ often 3 (.work 0) ++ often 11 .wind).map .other ++
  [.access (.readShell 0)]

/-- What is left of it. -/
def afterAccessed : Option Registry :=
  broughtUp.1.toOption.bind fun d => turns backwards accessed (start d broughtUp.2)

theorem state_afterAccessed :
    afterAccessed.map (fun x => (x.entries.length, x.run.device.shellRegister? 0,
      x.teardown.hasClosed)) = some (9, some 0xF0, true) := by
  decide +kernel

/-- The maps describe the run, and the teardown has cleared the enable bit only. -/
theorem registers_refined_accessed :
    ∃ d w x, (driver backwards).run (Dispatcher.bringUp none .standard).run
        ⟨Simulator.fresh oneSlot, default⟩ = (.ok d, w) ∧
      turns backwards accessed (start d w) = some x ∧
      x.Refines backwards (Simulator.fresh oneSlot).registers.opened ∧
      (x.run.device.shellRegister? 0, x.teardown.hasClosed) = (some 0xF0, true) := by
  obtain ⟨x, hx, hstate⟩ := Option.map_eq_some_iff.1 state_afterAccessed
  obtain ⟨d, hd, hx⟩ := Option.bind_eq_some_iff.1 hx
  have hup : (driver backwards).run (Dispatcher.bringUp none .standard).run
      ⟨Simulator.fresh oneSlot, default⟩ = (.ok d, broughtUp.2) := by
    exact Prod.ext (Outcome.eq_ok_of_toOption hd) rfl
  obtain ⟨hrefines, -⟩ := registers_refined .fresh rfl (by decide) hup hx
  refine ⟨d, broughtUp.2, x, hup, hx, hrefines, ?_⟩
  exact congrArg Prod.snd hstate

end

end Registry

end Offload

/-
**The handle of a dispatcher's device, on any driver.**

Whatever a driver answers to the calls that are made of it, a dispatcher creates at most one handle,
uses no other one, and gives it back exactly once: when it does not come up, or when it is torn down.
Callers submit jobs and use registers meanwhile, jobs run, and what is no step of the dispatcher may
change at any time.

Main definitions:

* `Access` — the operations on registers;
* `Service`, `Service.turn` — a dispatcher and the callers that use its registers, and what can
  happen next;
* `Service.Stage` — where the life of the handle stands;
* `Service.HandleInv` — **the invariant**.

Main results:

* `Dispatcher.life_bringUp` — a dispatcher that does not come up has given its handle back;
* `Service.HandleInv.turn` — every turn keeps the invariant;
* `Service.handle_lifecycle` — **the life of the handle, in every run on every driver**.
-/

import Offload.Proofs.Device.Lifetime
import Offload.Proofs.Dispatcher.RoundTrip

set_option autoImplicit false
set_option relaxedAutoImplicit false

namespace Offload

open Native

/-! ### Bringing a dispatcher up -/

namespace Dispatcher

variable {T : Trace} {h : Handle}

theorem life_setUp {device : Device} {n : Nat} {Q : Outcome (Pool Exchange.Run) → Trace → Prop}
    (hs : device.session = some ⟨h, n⟩) (hT : IsLive h T)
    (hok : ∀ slots T', 1 ≤ slots → IsLive h T' → Q (.ok (Pool.fresh slots)) T')
    (herror : ∀ e T', IsLive h T' → Q (.error e) T') :
    (setUp device).run.Meets lifeSpec Q T := by
  simp only [setUp, Device.withSession, hs, meets_action_bind]
  refine life_request hT rfl (fun _ => rfl) fun r T₁ h₁ => ?_
  cases r with
  | error e => exact herror e _ h₁
  | ok =>
      refine Device.life_setPcieEnabled h₁ fun r T₂ h₂ => ?_
      cases r with
      | error e => exact herror e _ h₂
      | ok =>
          simp only [either_ok]
          by_cases hslots : device.capabilities.bufferCount.toNat = 0
          · simp only [hslots, if_true]
            exact herror _ _ h₂
          · simp only [hslots, if_false, Pool.build]
            exact hok _ _ (Nat.one_le_iff_ne_zero.2 hslots) h₂

/-- A dispatcher that has come up holds the live handle. -/
structure Holds (h : Handle) (d : Dispatcher) : Prop where
  session : ∃ n, d.device.session = some ⟨h, n⟩
  pool : ∃ slots, 1 ≤ slots ∧ d.pool = Pool.fresh slots
  teardown : d.teardown = .notBegun

theorem life_bringUpDevice {library : Option String} {config : Config}
    {Q : Outcome (Device × Pool Exchange.Run) → Trace → Prop} (hT : IsBlank T)
    (hok : ∀ d h n slots T', d.session = some ⟨h, n⟩ → 1 ≤ slots → IsLive h T' →
      Q (.ok (d, Pool.fresh slots)) T')
    (herror : ∀ e T', IsSettled T' → Q (.error e) T') :
    (bringUpDevice library config).run.Meets lifeSpec Q T := by
  rw [bringUpDevice]
  cases openParams config with
  | error e =>
      rw [meets_action_bind]
      exact (meets_lift _).2 (Device.life_noteUnloaded (herror e _ (Or.inl hT)))
  | ok params =>
      rw [meets_action_bind]
      refine Device.life_bringUp hT (fun d h n T₁ hs h₁ => ?_) fun e T₁ h₁ => herror e _ h₁
      rw [either_ok, meets_action_bind, meets_outcome]
      refine life_setUp hs h₁ (fun slots T₂ hslots h₂ => ?_) fun e T₂ h₂ => ?_
      · exact hok d h n slots _ hs hslots h₂
      · rw [either_ok, meets_action_bind]
        refine (meets_lift _).2 (Device.life_close hs h₂ fun T₃ h₃ => ?_)
        exact herror e _ (Or.inr ⟨h, h₃⟩)

/-- **A dispatcher that does not come up has given its handle back**, if it had one. -/
theorem life_bringUp {library : Option String} {config : Config} (hT : IsBlank T) :
    (bringUp library config).run.Meets lifeSpec
      (either (fun d T' => ∃ h, d.Holds h ∧ IsLive h T') fun _ => IsSettled) T := by
  have hsink {sink : Option Log.Sink} {Q : Outcome Unit → Trace → Prop} (hQ : Q (.ok ()) T) :
      (liftM (installSink sink) : Action Unit).run.Meets lifeSpec Q T := by
    cases sink <;> exact hQ
  rw [bringUp, meets_action_bind]
  refine hsink ?_
  rw [either_ok, meets_action_bind, meets_outcome]
  refine life_bringUpDevice hT (fun d h n slots T₁ hs hslots h₁ => ?_) fun e T₁ h₁ => ?_
  · exact ⟨h, ⟨⟨n, hs⟩, ⟨slots, hslots, rfl⟩, rfl⟩, h₁⟩
  · rw [either_ok, meets_action_bind]
    cases config.sink <;> exact h₁

end Dispatcher

/-! ### A dispatcher in service -/

/-- The operations on registers that callers can ask for. -/
inductive Access where
  | readShell (index : UInt32)
  | writeShell (index value : UInt32)
  | readSoft (address : UInt64)
  | writeSoft (address value : UInt64)
  | pcieEnabled
  | setPcieEnabled (enabled : Bool)

/-- What an operation does in a session; what its caller makes of the value does not matter. -/
def Access.perform (session : Session) : Access → Action Unit
  | .readShell index => session.readShell index >>= fun _ => pure ()
  | .writeShell index value => session.writeShell index value
  | .readSoft address => session.readSoft address >>= fun _ => pure ()
  | .writeSoft address value => session.writeSoft address value
  | .pcieEnabled => session.pcieEnabled >>= fun _ => pure ()
  | .setPcieEnabled enabled => session.setPcieEnabled enabled

/-- A dispatcher on a traced driver, and what is left of the operations on registers that callers
have begun. -/
structure Service (σ : Type) where
  station : Station (Traced σ)
  callers : List (Program (Outcome Unit))

namespace Service

variable {σ : Type}

/-- What can happen next. -/
inductive Turn (σ : Type) where
  /-- The station makes a step. -/
  | move (move : Station.Move)
  /-- A caller begins an operation on registers. -/
  | begin (access : Access)
  /-- A caller makes the next step of its operation. -/
  | goOn (caller : Nat)
  /-- What is no step of the dispatcher changes: the driver's own state, logging, completions. -/
  | aside (inner : σ) (router : Log.Router) (ledger : Ledger)

/-- The calls that have been made. -/
def trace (s : Service σ) : Trace := s.station.world.driver.trace

/-- The dispatcher of a service. -/
def dispatcher (s : Service σ) : Dispatcher := s.station.dispatcher

/-- The next step of the teardown is to begin to close the device. -/
def closesNext (s : Service σ) : Bool :=
  match s.dispatcher.teardown, s.dispatcher.pool.closing with
  | .waiting, .finished => true
  | _, _ => false

/-- A dispatcher that has come up, at the beginning of its service. -/
def start (d : Dispatcher) (w : World (Traced σ)) : Service σ :=
  { station := { world := w, ledger := .empty, dispatcher := d }, callers := [] }

/-- One turn, which is missing when it is not possible.  The device is closed only when no caller is
using it, and while it is being closed no caller begins to. -/
def turn (D : Driver σ) (patience : σ → Nat) (s : Service σ) : Turn σ → Option (Service σ)
  | .move move =>
      if s.closesNext && !s.callers.isEmpty && move = .wind then none
      else
        (s.station.step D.traced (fun state => patience state.inner) move).map fun (station, _) =>
          { s with station }
  | .begin access =>
      match s.dispatcher.teardown with
      | .closing _ => none
      | _ => some { s with
          callers := s.callers ++ [(s.dispatcher.device.withSession access.perform).run] }
  | .goOn caller =>
      match s.callers[caller]? with
      | none => none
      | some (.done _) => some { s with callers := s.callers.eraseIdx caller }
      | some (.step o next) =>
          let (answer, world) := D.traced.answer o s.station.world
          some { station := { s.station with world }
                 callers := s.callers.set caller (next answer) }
  | .aside inner router ledger =>
      some { s with station :=
        { s.station with world := ⟨{ s.station.world.driver with inner }, router⟩, ledger } }

/-- Many turns. -/
def turns (D : Driver σ) (patience : σ → Nat) (ts : List (Turn σ)) (s : Service σ) :
    Option (Service σ) :=
  ts.foldlM (turn D patience) s

/-! ### The invariant -/

/-- Where the life of the handle stands. -/
inductive Stage (h : Handle) (s : Service σ) : Prop
  /-- The device is open. -/
  | live (n : Nat) (hearly : s.dispatcher.teardown.isEarly = true)
      (hsession : s.dispatcher.device.session = some ⟨h, n⟩) (hT : IsLive h s.trace)
      (hcallers : ∀ p ∈ s.callers, p.Every (Exchange.Uses h))
  /-- The device is being closed, and nobody is using it. -/
  | closing (rest : Program (Bool × Device)) (hteardown : s.dispatcher.teardown = .closing rest)
      (hT : IsLive h s.trace ∨ IsSpent h s.trace) (hcallers : s.callers = [])
      (hrest : rest.Meets lifeSpec (fun x T => x.2.session = none ∧ IsSpent h T) s.trace)
  /-- The device is closed. -/
  | spent (hteardown : s.dispatcher.teardown = .releasing ∨ s.dispatcher.teardown = .finished)
      (hsession : s.dispatcher.device.session = none) (hT : IsSpent h s.trace)
      (hcallers : ∀ p ∈ s.callers, ∃ r, p = .done r)

/-- What holds in every state of every run. -/
structure HandleInv (h : Handle) (s : Service σ) : Prop where
  phased : Pool.Phased s.dispatcher.pool
  untorn : s.dispatcher.tornDown = false → s.dispatcher.teardown = .notBegun
  late : s.dispatcher.teardown.isEarly = false → s.dispatcher.pool.closing = .finished
  running : ∀ i job run, s.dispatcher.pool.worker? i = some (.running job run) →
    run.rest.Every (Exchange.Uses h)
  disciplined : IsDisciplined s.trace
  stage : Stage h s

variable {D : Driver σ} {patience : σ → Nat} {s s' : Service σ} {h : Handle}

/-! ### Steps of exchanges -/

/-- What exchanges leave alone: the handle stays live, the record disciplined, and the device the
dispatcher's. -/
structure Sites (h : Handle) (site site' : Exchange.Site (Traced σ)) : Prop where
  device : site'.device = site.device
  live : IsLive h site'.world.driver.trace
  disciplined : IsDisciplined site'.world.driver.trace

theorem life_of_uses {o : Op} {T : Trace} (ho : Exchange.Uses h o) (hT : IsLive h T)
    (hd : IsDisciplined T) : lifeSpec o (fun _ T' => IsLive h T' ∧ IsDisciplined T') T := by
  cases o with
  | call c =>
      exact ⟨hT.may ho.1, fun reply => ⟨hT.concat ho.1 (ho.2 _), hd.concat (hT.may ho.1)⟩⟩
  | store | log => exact ⟨hT, hd⟩
  | _ => exact fun _ => ⟨hT, hd⟩

/-- An exchange that goes on uses the live handle, and will use no other. -/
theorem sites_continues {i : Nat} {run run' : Exchange.Run} {site site' : Exchange.Site (Traced σ)}
    {n : Nat} (hsession : site.device.session = some ⟨h, n⟩) (hT : IsLive h site.world.driver.trace)
    (hd : IsDisciplined site.world.driver.trace) (hrun : run.rest.Every (Exchange.Uses h))
    (hstep : Exchange.step D.traced i run site = .continues run' site') :
    Sites h site site' ∧ run'.rest.Every (Exchange.Uses h) := by
  cases Exchange.stepped_of_step hstep with
  | again => exact ⟨⟨rfl, hT, hd⟩, Exchange.uses_deviceRound hsession _⟩
  | enter => exact ⟨⟨rfl, hT, hd⟩, hrun⟩
  | answer o next hrest =>
      rw [hrest] at hrun
      have hlife := life_of_uses hrun.1 hT hd
      obtain ⟨hT', hd'⟩ : IsLive h (Exchange.answered D.traced run.entered o
            site.world).2.driver.trace ∧
          IsDisciplined (Exchange.answered D.traced run.entered o site.world).2.driver.trace := by
        cases run.entered with
        | true => exact lifeSpec_resumed hlife
        | false => exact lifeSpec_answer hlife
      exact ⟨⟨rfl, hT', hd'⟩, hrun.2 _⟩

theorem sites_died {i : Nat} {run : Exchange.Run} {site site' : Exchange.Site (Traced σ)}
    (hT : IsLive h site.world.driver.trace) (hd : IsDisciplined site.world.driver.trace)
    (hrun : run.rest.Every (Exchange.Uses h))
    (hstep : Exchange.step D.traced i run site = .died site') : Sites h site site' := by
  cases Exchange.stepped_of_step hstep with
  | die o next world hrest hentered htrap =>
      obtain ⟨c, rfl, htrace⟩ := trapped?_traced htrap
      rw [hrest] at hrun
      have hmay := hT.may hrun.1.1
      refine ⟨rfl, ?_, ?_⟩
      · show IsLive h world.driver.trace
        rw [htrace]
        exact hT.concat hrun.1.1 (hrun.1.2 _)
      · show IsDisciplined world.driver.trace
        rw [htrace]
        exact hd.concat hmay

/-! ### Steps of the pool -/

variable {move : Pool.Move} {e : Option Pool.Event}
  {q : Pool.Scheduler Exchange.Run (Exchange.Site (Traced σ))}

theorem HandleInv.pool_live {n : Nat} (hk : HandleInv h s)
    (hsession : s.dispatcher.device.session = some ⟨h, n⟩) (hT : IsLive h s.trace)
    (hq : Pool.Scheduler.Transition (Exchange.executor D.traced fun state => patience state.inner)
      s.station.scheduler move e q) :
    Sites h s.station.scheduler.shared q.shared ∧
      ∀ i job run, q.pool.worker? i = some (.running job run) →
        run.rest.Every (Exchange.Uses h) := by
  have hsame : Sites h s.station.scheduler.shared s.station.scheduler.shared :=
    ⟨rfl, hT, hk.disciplined⟩
  have hrunning : ∀ i job run, s.station.scheduler.pool.worker? i = some (.running job run) →
      run.rest.Every (Exchange.Uses h) := hk.running
  cases Pool.effect_of_transition hq with
  | calm _ _ hcalm hshared =>
      refine ⟨?_, fun i job run hrun => hrunning i job run (hcalm i job run hrun)⟩
      rcases hshared with hshared | ⟨level, line, hshared⟩ <;> rw [hshared]
      · exact hsame
      · exact ⟨rfl, hT, hk.disciplined⟩
  | begin slot job _ hw _ hshared hw' hne =>
      refine ⟨hshared ▸ hsame, Pool.running_of_others hrunning hw' ?_ hne⟩
      rintro _ _ ⟨⟩
      exact Exchange.uses_deviceRound hsession _
  | goOn slot job run run' _ hw _ hstep hw' hne =>
      obtain ⟨hsites, hrun'⟩ := sites_continues hsession hT hk.disciplined
        (hrunning slot job run hw) hstep
      refine ⟨hsites, Pool.running_of_others hrunning hw' ?_ hne⟩
      rintro _ _ ⟨⟩
      exact hrun'
  | «return» slot job run outcome _ hw _ hstep hw' hne =>
      rw [(Exchange.eq_of_returned hstep).1]
      exact ⟨hsame, Pool.running_of_others hrunning hw' (by simp) hne⟩
  | die slot job run _ hw hstep hw' hne =>
      exact ⟨sites_died hT hk.disciplined (hrunning slot job run hw) hstep,
        Pool.running_of_others hrunning hw' (by simp) hne⟩

/-- Once the pool has come to its end its steps touch nothing. -/
theorem HandleInv.pool_late (hk : HandleInv h s) (hlate : s.dispatcher.teardown.isEarly = false)
    (hq : Pool.Scheduler.Transition (Exchange.executor D.traced fun state => patience state.inner)
      s.station.scheduler move e q) :
    q.shared.device = s.dispatcher.device ∧ q.shared.world.driver = s.station.world.driver ∧
      q.pool.closing = .finished := by
  have hend : s.station.scheduler.pool.closing = .finished := hk.late hlate
  have hphased : Pool.Phased s.station.scheduler.pool := hk.phased
  have hnot := Pool.not_running_of_finished hphased hend
  have hclosing := Pool.finished_of_transition hphased hq hend
  obtain ⟨hdevice, hdriver⟩ | ⟨slot, job, run, hw, -⟩ := Exchange.still_or_running hq
  · exact ⟨hdevice, hdriver, hclosing⟩
  · exact absurd hw (hnot slot job run)

/-! ### Steps of the station -/

theorem Stage.still (hs : Stage h s) (hdevice : s'.dispatcher.device = s.dispatcher.device)
    (hteardown : s'.dispatcher.teardown = s.dispatcher.teardown) (htrace : s'.trace = s.trace)
    (hcallers : s'.callers = s.callers) : Stage h s' := by
  cases hs with
  | live n hearly hsession hT hc =>
      exact .live n (by rw [hteardown, hearly]) (by rw [hdevice, hsession]) (htrace ▸ hT)
        (hcallers ▸ hc)
  | closing rest ht hT hc hrest =>
      exact .closing rest (by rw [hteardown, ht]) (htrace ▸ hT) (by rw [hcallers, hc])
        (htrace ▸ hrest)
  | spent ht hsession hT hc =>
      exact .spent (by rwa [hteardown]) (by rw [hdevice, hsession]) (htrace ▸ hT) (hcallers ▸ hc)

theorem HandleInv.still (hk : HandleInv h s) (hpool : s'.dispatcher.pool = s.dispatcher.pool)
    (hdevice : s'.dispatcher.device = s.dispatcher.device)
    (htorn : s'.dispatcher.tornDown = s.dispatcher.tornDown)
    (hteardown : s'.dispatcher.teardown = s.dispatcher.teardown) (htrace : s'.trace = s.trace)
    (hcallers : s'.callers = s.callers) : HandleInv h s' where
  phased := hpool ▸ hk.phased
  untorn := by
    rw [htorn, hteardown]
    exact hk.untorn
  late := by
    rw [hteardown, hpool]
    exact hk.late
  running := by
    rw [hpool]
    exact hk.running
  disciplined := htrace ▸ hk.disciplined
  stage := hk.stage.still hdevice hteardown htrace hcallers

/-- As long as the teardown has not begun to close the device, the handle is live. -/
theorem Stage.of_early (hs : Stage h s) (hearly : s.dispatcher.teardown.isEarly = true) :
    ∃ n, s.dispatcher.device.session = some ⟨h, n⟩ ∧ IsLive h s.trace ∧
      ∀ p ∈ s.callers, p.Every (Exchange.Uses h) := by
  cases hs with
  | live n _ hsession hT hc => exact ⟨n, hsession, hT, hc⟩
  | closing rest ht =>
      rw [ht] at hearly
      cases hearly
  | spent ht => rcases ht with ht | ht <;> rw [ht] at hearly <;> cases hearly

/-- While the device is being closed nobody else is using it. -/
theorem Stage.of_closing (hs : Stage h s) {rest : Program (Bool × Device)}
    (hteardown : s.dispatcher.teardown = .closing rest) :
    (IsLive h s.trace ∨ IsSpent h s.trace) ∧ s.callers = [] ∧
      rest.Meets lifeSpec (fun x T => x.2.session = none ∧ IsSpent h T) s.trace := by
  cases hs with
  | live _ hearly =>
      rw [hteardown] at hearly
      cases hearly
  | closing rest' ht hT hc hrest =>
      cases hteardown.symm.trans ht
      exact ⟨hT, hc, hrest⟩
  | spent ht => rcases ht with ht | ht <;> cases hteardown.symm.trans ht

theorem Stage.of_spent (hs : Stage h s)
    (hteardown : s.dispatcher.teardown = .releasing ∨ s.dispatcher.teardown = .finished) :
    s.dispatcher.device.session = none ∧ IsSpent h s.trace ∧ ∀ p ∈ s.callers, ∃ r, p = .done r := by
  cases hs with
  | live _ hearly => rcases hteardown with ht | ht <;> rw [ht] at hearly <;> cases hearly
  | closing rest ht => rcases hteardown with ht' | ht' <;> cases ht'.symm.trans ht
  | spent _ hsession hT hc => exact ⟨hsession, hT, hc⟩

/-- Once it has, the handle is live or spent, and stays so with whatever may be called. -/
theorem life_of_closing {o : Op} {Q : o.Answer → Trace → Prop} {T : Trace} (ho : lifeSpec o Q T)
    (hT : IsLive h T ∨ IsSpent h T) (hd : IsDisciplined T) :
    lifeSpec o (fun x T' => (IsLive h T' ∨ IsSpent h T') ∧ IsDisciplined T' ∧ Q x T') T := by
  cases o with
  | call c =>
      refine ⟨ho.1, fun reply => ⟨?_, hd.concat ho.1, ho.2 reply⟩⟩
      exact hT.elim (fun hT => hT.next ho.1) fun hT => absurd ho.1 hT.not_may
  | store | log => exact ⟨hT, hd, ho⟩
  | _ => exact fun x => ⟨hT, hd, ho x⟩

theorem HandleInv.driven (hk : HandleInv h s) {poolMove : Pool.Move} {stationMove : Station.Move}
    {arrivals : List Pool.Job} {teardown : Dispatcher.Teardown}
    (hd : Station.Driving s.station stationMove poolMove arrivals teardown)
    (hq : Pool.Scheduler.Transition (Exchange.executor D.traced fun state => patience state.inner)
      s.station.scheduler poolMove e q) :
    HandleInv h { s with station := s.station.driven q e arrivals teardown } := by
  have hphased : Pool.Phased q.pool :=
    Pool.Phased.step hk.phased hq
  have huntorn : s.dispatcher.tornDown = false → teardown = .notBegun := fun htorn =>
    hd.teardown_eq_notBegun (hk.untorn htorn)
  cases hearly : s.dispatcher.teardown.isEarly with
  | true =>
      have hearly' : teardown.isEarly = true := hd.isEarly_eq.trans hearly
      obtain ⟨n, hsession, hT, hc⟩ := hk.stage.of_early hearly
      obtain ⟨hsites, hrunning⟩ := hk.pool_live hsession hT hq
      refine ⟨hphased, huntorn, ?_, hrunning, hsites.disciplined, ?_⟩
      · exact fun hlate => absurd (hlate.symm.trans hearly') Bool.false_ne_true
      · exact .live n hearly' ((congrArg Device.session hsites.device).trans hsession) hsites.live hc
  | false =>
      obtain ⟨hdevice, hdriver, hend⟩ := hk.pool_late hearly hq
      have hsame : teardown = s.dispatcher.teardown := by
        rcases hd.teardown_eq with rfl | ⟨hstopping, -⟩
        · rfl
        · cases hearly.symm.trans (congrArg Dispatcher.Teardown.isEarly hstopping)
      have htrace : q.shared.world.driver.trace = s.trace := congrArg Traced.trace hdriver
      refine ⟨hphased, huntorn, fun _ => hend, fun i job run hrun => ?_, ?_, ?_⟩
      · exact absurd hrun (Pool.not_running_of_finished (s := q) hphased hend i job run)
      · show IsDisciplined q.shared.world.driver.trace
        rw [htrace]
        exact hk.disciplined
      · exact hk.stage.still hdevice hsame htrace rfl

/-- **A step of the station keeps the invariant**, provided that nobody is using the device when it
begins to be closed. -/
theorem HandleInv.transition {move : Station.Move} {station : Station (Traced σ)} (hk : HandleInv h s)
    (hgate : s.closesNext = true → move = .wind → s.callers = [])
    (ht : Station.Transition D.traced (fun state => patience state.inner) s.station move e station) :
    HandleInv h { s with station } := by
  have huntorn {teardown : Dispatcher.Teardown} (hbegun : s.dispatcher.teardown ≠ .notBegun)
      (htorn : s.dispatcher.tornDown = false) : teardown = .notBegun :=
    absurd (hk.untorn htorn) hbegun
  cases ht with
  | turnAway | takeIn => exact hk.still rfl rfl rfl rfl rfl rfl
  | tearDownAgain => exact hk
  | pool _ _ _ _ _ _ hd hq => exact hk.driven hd hq
  | tearDown htorn =>
      obtain ⟨n, hsession, hT, hc⟩ := hk.stage.of_early (by rw [hk.untorn htorn]; rfl)
      exact ⟨hk.phased, (fun h => by cases h), (fun h => by cases h), hk.running, hk.disciplined,
        .live n rfl hsession hT hc⟩
  | announce router hteardown =>
      have hteardown : s.dispatcher.teardown = .announcing := hteardown
      obtain ⟨n, hsession, hT, hc⟩ := hk.stage.of_early (by rw [hteardown]; rfl)
      exact ⟨hk.phased, huntorn (by simp [hteardown]),
        (fun h => by cases h), hk.running, hk.disciplined, .live n rfl hsession hT hc⟩
  | endSession hteardown hclosing =>
      have hteardown : s.dispatcher.teardown = .waiting := hteardown
      have hclosing : s.dispatcher.pool.closing = .finished := hclosing
      obtain ⟨n, hsession, hT, hc⟩ := hk.stage.of_early (by rw [hteardown]; rfl)
      have hcallers := hgate (by rw [closesNext, hteardown, hclosing]) rfl
      refine ⟨hk.phased, huntorn (by simp [hteardown]),
        fun _ => hclosing, hk.running, hk.disciplined, .closing _ rfl (Or.inl hT) hcallers ?_⟩
      exact Device.life_close hsession hT fun T' hT' => ⟨rfl, hT'⟩
  | closing o next hteardown =>
      have hteardown : s.dispatcher.teardown = .closing (.step o next) := hteardown
      obtain ⟨hT, hc, hrest⟩ := hk.stage.of_closing hteardown
      obtain ⟨hT', hd', hrest'⟩ := lifeSpec_answer (D := D) (life_of_closing hrest hT hk.disciplined)
      exact ⟨hk.phased, huntorn (by simp [hteardown]),
        fun _ => hk.late (by rw [hteardown]; rfl), hk.running, hd', .closing _ rfl hT' hc hrest'⟩
  | closed was device hteardown =>
      have hteardown : s.dispatcher.teardown = .closing (.done (was, device)) := hteardown
      obtain ⟨hT, hc, hsession, hspent⟩ := hk.stage.of_closing hteardown
      refine ⟨hk.phased, huntorn (by simp [hteardown]),
        fun _ => hk.late (by rw [hteardown]; rfl), hk.running, hk.disciplined,
        .spent (Or.inl rfl) hsession hspent ?_⟩
      rw [hc]
      exact fun p hp => absurd hp List.not_mem_nil
  | release router hteardown =>
      have hteardown : s.dispatcher.teardown = .releasing := hteardown
      obtain ⟨hsession, hT, hc⟩ := hk.stage.of_spent (Or.inl hteardown)
      exact ⟨hk.phased, huntorn (by simp [hteardown]),
        fun _ => hk.late (by rw [hteardown]; rfl), hk.running, hk.disciplined,
        .spent (Or.inr rfl) hsession hT hc⟩

/-! ### Every turn -/

theorem uses_perform (n : Nat) (access : Access) :
    (access.perform ⟨h, n⟩).run.Every (Exchange.Uses h) := by
  have hrequest {c : Call} {prepared : c.Stored} (hc : Exchange.Uses h (.call c)) :
      (request c prepared).run.Every (Exchange.Uses h) :=
    every_request (Exchange.admitsReports_uses h) hc
  cases access with
  | readShell => exact every_action_bind (hrequest ⟨rfl, fun _ => rfl⟩) fun _ => trivial
  | writeShell => exact hrequest ⟨rfl, fun _ => rfl⟩
  | readSoft => exact every_action_bind (hrequest ⟨rfl, fun _ => rfl⟩) fun _ => trivial
  | writeSoft => exact hrequest ⟨rfl, fun _ => rfl⟩
  | pcieEnabled =>
      refine every_action_bind ?_ fun _ => trivial
      exact every_action_bind (hrequest ⟨rfl, fun _ => rfl⟩) fun _ => trivial
  | setPcieEnabled =>
      exact every_action_bind (hrequest ⟨rfl, fun _ => rfl⟩) fun _ => hrequest ⟨rfl, fun _ => rfl⟩

theorem HandleInv.begin (hk : HandleInv h s) (access : Access)
    (hteardown : ∀ rest, s.dispatcher.teardown ≠ .closing rest) :
    HandleInv h { s with
      callers := s.callers ++ [(s.dispatcher.device.withSession access.perform).run] } := by
  refine ⟨hk.phased, hk.untorn, hk.late, hk.running, hk.disciplined, ?_⟩
  cases hk.stage with
  | live n hearly hsession hT hc =>
      refine .live n hearly hsession hT fun p hp => ?_
      rcases List.mem_append.1 hp with hp | hp
      · exact hc p hp
      · rw [List.mem_singleton.1 hp, Device.withSession, hsession]
        exact uses_perform n access
  | closing rest ht => exact absurd ht (hteardown rest)
  | spent ht hsession hT hc =>
      refine .spent ht hsession hT fun p hp => ?_
      rcases List.mem_append.1 hp with hp | hp
      · exact hc p hp
      · rw [List.mem_singleton.1 hp, Device.withSession, hsession]
        exact ⟨_, rfl⟩

theorem HandleInv.leave (hk : HandleInv h s) (caller : Nat) :
    HandleInv h { s with callers := s.callers.eraseIdx caller } := by
  refine ⟨hk.phased, hk.untorn, hk.late, hk.running, hk.disciplined, ?_⟩
  cases hk.stage with
  | live n hearly hsession hT hc =>
      exact .live n hearly hsession hT fun p hp => hc p (List.mem_of_mem_eraseIdx hp)
  | closing rest ht hT hc hrest => exact .closing rest ht hT (by simp [hc]) hrest
  | spent ht hsession hT hc =>
      exact .spent ht hsession hT fun p hp => hc p (List.mem_of_mem_eraseIdx hp)

/-- A caller that makes a step of its operation: the handle is live. -/
theorem HandleInv.goOn (hk : HandleInv h s) {caller : Nat} {o : Op}
    {next : o.Answer → Program (Outcome Unit)} (hcaller : s.callers[caller]? = some (.step o next)) :
    HandleInv h {
      station := { s.station with world := (D.traced.answer o s.station.world).2 }
      callers := s.callers.set caller (next (D.traced.answer o s.station.world).1) } := by
  have hmem := List.mem_of_getElem? hcaller
  cases hk.stage with
  | live n hearly hsession hT hc =>
      obtain ⟨ho, hnext⟩ := hc _ hmem
      obtain ⟨hT', hd'⟩ := lifeSpec_answer (D := D) (life_of_uses ho hT hk.disciplined)
      refine ⟨hk.phased, hk.untorn, hk.late, hk.running, hd', .live n hearly hsession hT' ?_⟩
      intro p hp
      rcases List.mem_or_eq_of_mem_set hp with hp | rfl
      · exact hc p hp
      · exact hnext _
  | closing rest ht hT hc =>
      rw [hc] at hmem
      exact absurd hmem List.not_mem_nil
  | spent ht hsession hT hc =>
      obtain ⟨r, hr⟩ := hc _ hmem
      cases hr

/-- **Every turn keeps the invariant.** -/
theorem HandleInv.turn {t : Turn σ} (hk : HandleInv h s) (ht : s.turn D patience t = some s') :
    HandleInv h s' := by
  cases t with
  | move move =>
      simp only [Service.turn] at ht
      split at ht
      · cases ht
      · next hgate =>
          obtain ⟨⟨station, e⟩, hstep, rfl⟩ := Option.map_eq_some_iff.1 ht
          refine hk.transition (fun hcloses hmove => ?_) (Station.transition_of_step hstep)
          simpa [hcloses, hmove] using hgate
  | begin access =>
      simp only [Service.turn] at ht
      split at ht
      · cases ht
      · next hteardown =>
          cases ht
          exact hk.begin access hteardown
  | goOn caller =>
      simp only [Service.turn] at ht
      split at ht
      · cases ht
      · cases ht
        exact hk.leave caller
      · next o next hcaller =>
          cases ht
          exact hk.goOn hcaller
  | aside inner router ledger =>
      cases ht
      exact hk.still rfl rfl rfl rfl rfl rfl

theorem HandleInv.start {d : Dispatcher} {w : World (Traced σ)} (hd : d.Holds h)
    (hT : IsLive h w.driver.trace) (hdisciplined : IsDisciplined w.driver.trace) :
    HandleInv h (start d w) := by
  obtain ⟨⟨n, hsession⟩, ⟨slots, hslots, hpool⟩, hteardown⟩ := hd
  have hpool : (Service.start d w).dispatcher.pool = Pool.fresh slots := hpool
  have hteardown : (Service.start d w).dispatcher.teardown = .notBegun := hteardown
  refine ⟨?_, fun _ => hteardown, fun hlate => ?_, fun i job run hrun => ?_, hdisciplined, ?_⟩
  · rw [hpool]
    exact (Pool.Sound.fresh (ρ := Exchange.Run) hslots ()).phased
  · rw [hteardown] at hlate
    cases hlate
  · rw [hpool] at hrun
    exact absurd hrun (Pool.not_running_fresh i job run)
  · exact .live n (by rw [hteardown]; rfl) hsession hT fun p hp => absurd hp List.not_mem_nil

/-! ### The life of the handle -/

theorem HandleInv.turns {ts : List (Turn σ)} (hk : HandleInv h s)
    (hr : turns D patience ts s = some s') : HandleInv h s' :=
  foldlM_induction hr hk fun _ _ _ hk ht => hk.turn ht

/-- The handle is live until the call that gives it back, and spent after it. -/
theorem Stage.held (hs : Stage h s) : IsLive h s.trace ∨ IsSpent h s.trace := by
  cases hs with
  | live _ _ _ hT => exact Or.inl hT
  | closing _ _ hT => exact hT
  | spent _ _ hT => exact Or.inr hT

theorem HandleInv.may_of_running (hk : HandleInv h s) {i : Nat} {job : Pool.Job} {run : Exchange.Run}
    {c : Call} {next : Reply c → Program (Option (Outcome Bytes))}
    (hw : s.dispatcher.pool.worker? i = some (.running job run))
    (hrest : run.rest = .step (.call c) next) : May s.trace c := by
  cases hearly : s.dispatcher.teardown.isEarly with
  | true =>
      obtain ⟨n, -, hT, -⟩ := hk.stage.of_early hearly
      have hrun := hk.running i job run hw
      rw [hrest] at hrun
      exact hT.may hrun.1.1
  | false =>
      exact absurd hw (Pool.not_running_of_finished (s := s.station.scheduler) hk.phased
        (hk.late hearly) i job run)

/-- What is no step of the dispatcher leaves the record alone. -/
def Aside (w w' : World (Traced σ)) : Prop := w'.driver.trace = w.driver.trace

/-- **The life of the handle**, on every driver, whatever it answers.

When a dispatcher is brought up every call on record might be made when it was: a call that takes a
handle takes the only one that was created, before any call to give it back.  If the dispatcher does
not come up, one call has been made to give back whatever handle there was.  If it comes up there is
a live handle, and from then on, while callers submit jobs and use registers, jobs run, and the
dispatcher is torn down, every call on record might be made, no other handle is created, and at most
one call is made to give the handle back; when the teardown has returned it has been made, whatever
it came to.  The calls that running jobs are making, or are going to make next, may be made. -/
theorem handle_lifecycle (D : Driver σ) (patience : σ → Nat) {library : Option String}
    {config : Config} {inner : σ} {router : Log.Router} {r : Outcome Dispatcher}
    {w : World (Traced σ)}
    (hup : (Dispatcher.bringUp library config).run.Meddled D.traced Aside
      ⟨⟨inner, []⟩, router⟩ r w) :
    IsDisciplined w.driver.trace ∧ (created w.driver.trace).length ≤ 1 ∧
    (∀ e, r = .error e → closings w.driver.trace = (created w.driver.trace).map some) ∧
    ∀ d, r = .ok d → ∃ h, created w.driver.trace = [h] ∧ closings w.driver.trace = [] ∧
      ∀ ts s, turns D patience ts (start d w) = some s →
        IsDisciplined s.trace ∧ created s.trace = [h] ∧
        (closings s.trace = [] ∨ closings s.trace = [some h]) ∧
        (s.dispatcher.teardown = .finished → closings s.trace = [some h]) ∧
        ∀ i job run c next, s.dispatcher.pool.worker? i = some (.running job run) →
          run.rest = .step (.call c) next → May s.trace c := by
  have hlife : (Dispatcher.bringUp library config).run.Meets lifeSpec
      (either (fun d T => ∃ h, d.Holds h ∧ IsLive h T) fun _ => IsSettled) [] :=
    Dispatcher.life_bringUp ⟨rfl, rfl⟩
  have hview : ∀ w w' : World (Traced σ), Aside w w' → w'.driver.trace = w.driver.trace :=
    fun _ _ haside => haside
  obtain ⟨hd, hends⟩ := (hlife.isDisciplined isDisciplined_nil).meddled (fun w => w.driver.trace)
    hview (fun o Q w => lifeSpec_answer) hup
  cases r with
  | error e =>
      have hsettled : IsSettled w.driver.trace := hends
      refine ⟨hd, ?_, ?_, by rintro d ⟨⟩⟩
      · rcases hsettled with hT | ⟨h, hT⟩ <;> simp [hT.created]
      · rintro _ -
        rcases hsettled with hT | ⟨h, hT⟩ <;> simp [hT.created, hT.closings]
  | ok d =>
      obtain ⟨h, hholds, hT⟩ : ∃ h, d.Holds h ∧ IsLive h w.driver.trace := hends
      refine ⟨hd, by simp [hT.created], by rintro e ⟨⟩, ?_⟩
      rintro _ ⟨⟩
      refine ⟨h, hT.created, hT.closings, fun ts s hr => ?_⟩
      have hk := (HandleInv.start hholds hT hd).turns hr
      refine ⟨hk.disciplined, ?_, ?_, ?_, fun i job run c next hw hrest => ?_⟩
      · exact hk.stage.held.elim (·.created) (·.created)
      · exact hk.stage.held.imp (·.closings) (·.closings)
      · intro hfinished
        exact (hk.stage.of_spent (Or.inr hfinished)).2.1.closings
      · exact hk.may_of_running hw hrest

/-! ### A teardown while the device is in use -/

open Simulator Station.Run

/-- A device that will not take its handle back. -/
def clinging : Simulator :=
  { Simulator.fresh oneSlot with faults := [⟨.closeHandle, none, .driverError⟩] }

/-- A dispatcher brought up on it. -/
def broughtUpClinging : Outcome Dispatcher × World (Traced Simulator) :=
  (driver backwards).traced.run (Dispatcher.bringUp none .standard).run ⟨⟨clinging, []⟩, default⟩

/-- The same turn again and again. -/
def repeatedly (count : Nat) (move : Station.Move) : List (Turn Simulator) :=
  List.replicate count (.move move)

/-- While a job is running and a caller is about to write a register the dispatcher is torn down. -/
def tornDownMeanwhile : List (Turn Simulator) :=
  .move (.execute ⟨0, [1]⟩) :: .move (.enter 0) :: repeatedly 6 .proceed ++
    repeatedly 10 (.work 0) ++ .begin (.setPcieEnabled true) :: .goOn 0 :: .move .tearDown ::
    repeatedly 2 .wind ++ repeatedly 11 (.work 0) ++ .goOn 0 :: .goOn 0 :: repeatedly 15 .wind

/-- The run. -/
def afterTornDownMeanwhile : Option (Service Simulator) :=
  broughtUpClinging.1.toOption.bind fun d =>
    turns (driver backwards) (fun _ => 0) tornDownMeanwhile (start d broughtUpClinging.2)

theorem finished_tornDownMeanwhile :
    (afterTornDownMeanwhile.map fun s =>
      match s.dispatcher.teardown with
      | .finished => true
      | _ => false) = some true := by
  decide +kernel

/-- One call has been made to give the handle back, although it failed. -/
theorem handle_lifecycle_tornDownMeanwhile :
    ∃ d w s h, (Dispatcher.bringUp none .standard).run.Meddled (driver backwards).traced Aside
        ⟨⟨clinging, []⟩, default⟩ (.ok d) w ∧
      turns (driver backwards) (fun _ => 0) tornDownMeanwhile (start d w) = some s ∧
      created s.trace = [h] ∧ closings s.trace = [some h] ∧ IsDisciplined s.trace := by
  obtain ⟨s, hs, hfinished⟩ := Option.map_eq_some_iff.1 finished_tornDownMeanwhile
  obtain ⟨d, hd, hr⟩ := Option.bind_eq_some_iff.1 hs
  have hup : (Dispatcher.bringUp none .standard).run.Meddled (driver backwards).traced Aside
      ⟨⟨clinging, []⟩, default⟩ (.ok d) broughtUpClinging.2 := by
    rw [← Outcome.eq_ok_of_toOption hd]
    exact Program.meddled_run _ _ _ _
  obtain ⟨h, -, -, hservice⟩ := (handle_lifecycle (driver backwards) (fun _ => 0) hup).2.2.2 d rfl
  obtain ⟨hdisciplined, hcreated, -, hclosed, -⟩ := hservice _ s hr
  refine ⟨d, _, s, h, hup, hr, hcreated, hclosed ?_, hdisciplined⟩
  split at hfinished
  · next hteardown => exact hteardown
  · cases hfinished

end Service

end Offload

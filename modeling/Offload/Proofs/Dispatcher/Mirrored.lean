/-
**A dispatcher on twin drivers.**

A dispatcher on one of twin drivers and a dispatcher on the other take the same steps: the one is
where the other is, with the texts of failures retold.  Only when it closes its device, the one
whose driver comes from a library may make a step of its own, to note that the library is gone.

Main definitions:

* `Exchange.Run.Mirrors`, `Dispatcher.Mirrors`, `Station.Mirrors` — **exchanges, dispatchers and
  stations at the same place**;
* `Native.Program.lead`, `Dispatcher.Teardown.lead` — how many lines the one may log alone.

Main results:

* `Exchange.mirrors_executor` — exchanges go on alike;
* `Dispatcher.mirrors_bringUp`, `Dispatcher.mirrors_load` — **bringing a dispatcher up**;
* `Station.mirrors_step` — **a step of the one is a step of the other, unless the other logs a line
  alone**.
-/

import Offload.Dispatcher.Station
import Offload.Proofs.Device.Mirrored
import Offload.Proofs.Dispatcher.Construction
import Offload.Proofs.Pool.Mirrored

set_option autoImplicit false
set_option relaxedAutoImplicit false

namespace Offload

open Native

variable {f : String → String} {library : Option String}

/-! ### Exchanges -/

namespace Exchange

/-- Exchanges that have come equally far. -/
structure Run.Mirrors (f : String → String) (run run' : Run) : Prop where
  input : run'.input = run.input
  entered : run'.entered = run.entered
  rest : run.rest.Mirrors f false (fun r r' => r' = r.map (Outcome.retold f)) run'.rest

/-- What exchanges share: drivers in the same state, and the same device. -/
structure Site.Mirrors {σ : Type} (library : Option String) (site site' : Site σ) : Prop where
  driver : site'.world.driver = site.world.driver
  device : site.device.Mirrors library site'.device

variable {σ : Type} {D E : Driver σ} {run run' : Run} {site site' : Site σ}

/-- **Exchanges that have come equally far go on alike.** -/
theorem mirrors_step (hnull : f View.nullText = View.nullText) (htwins : Twins f D E) (slot : Nat)
    (hrun : run.Mirrors f run') (hsite : site.Mirrors library site') :
    (step D slot run site).Mirrors f (Run.Mirrors f) (Site.Mirrors library)
      (step E slot run' site') := by
  obtain ⟨input, rest, entered⟩ := run
  obtain ⟨input', rest', entered'⟩ := run'
  obtain ⟨rfl, rfl, hrest⟩ : input' = input ∧ entered' = entered ∧ _ :=
    ⟨hrun.input, hrun.entered, hrun.rest⟩
  obtain ⟨hdriver, hdevice⟩ := hsite
  -- an answer that comes to the same
  have hgoOn {o o' : Op} {next : o.Answer → Program (Option (Outcome Bytes))}
      {next' : o'.Answer → Program (Option (Outcome Bytes))} {r : o.Answer × World σ}
      {r' : o'.Answer × World σ} (hworld : r'.2.driver = r.2.driver)
      (hnext : (next r.1).Mirrors f false (fun r r' => r' = r.map (Outcome.retold f))
        (next' r'.1)) :
      (goOn ⟨input', .step o next, entered'⟩ next site r).Mirrors f (Run.Mirrors f)
        (Site.Mirrors library) (goOn ⟨input', .step o' next', entered'⟩ next' site' r') :=
    .continues ⟨rfl, rfl, hnext⟩ ⟨hworld, hdevice⟩
  cases hrest with
  | @done r r' h =>
      obtain rfl : r' = r.map (Outcome.retold f) := h
      cases r with
      | none =>
          refine .continues ⟨rfl, rfl, ?_⟩ ⟨hdriver, hdevice⟩
          exact mirrors_deviceRound hnull hdevice.session _ _
      | some outcome => exact .returned outcome ⟨hdriver, hdevice⟩
  | step o hnext =>
      simp only [step, htwins.isStillBlocked hdriver, htwins.isBlocked hdriver]
      split
      · split
        · exact .blocked
        · obtain ⟨hanswer, hworld⟩ := htwins.resumed hdriver o
          exact hgoOn hworld (by rw [hanswer]; exact hnext _)
      · have htrapped := htwins.trapped hdriver o
        revert htrapped
        generalize D.trapped? o site.world = trapped
        generalize E.trapped? o site'.world = trapped'
        rintro (hleft | _)
        · exact .died ⟨hleft, hdevice⟩
        · dsimp only
          split
          · exact .continues ⟨rfl, rfl, .step o hnext⟩ ⟨hdriver, hdevice⟩
          · obtain ⟨hanswer, hworld⟩ := htwins.answer hdriver o
            exact hgoOn hworld (by rw [hanswer]; exact hnext _)
  | log request request' hnext =>
      -- logging neither blocks nor traps
      cases entered' with
      | true => exact hgoOn hdriver hnext
      | false => exact hgoOn hdriver hnext
  | extra hlag => cases hlag

/-- **Exchanges as jobs of a pool.** -/
theorem mirrors_executor (hnull : f View.nullText = View.nullText) (htwins : Twins f D E)
    (patience : σ → Nat) :
    (executor D patience).Mirrors f (Run.Mirrors f) (Site.Mirrors library)
      (executor E patience) where
  begin _ _ _ _ h :=
    ⟨⟨rfl, rfl, mirrors_deviceRound hnull h.device.session _ _⟩, h⟩
  step slot _ _ _ _ hrun h := mirrors_step hnull htwins slot hrun h
  note _ _ _ _ h := ⟨h.driver, h.device⟩

end Exchange

/-! ### Dispatchers -/

namespace Dispatcher

/-- Teardowns at the same place.  The second one may still have a line to log while it closes its
device. -/
inductive Teardown.Mirrors (f : String → String) (library : Option String) :
    Teardown → Teardown → Prop
  | notBegun : Mirrors f library .notBegun .notBegun
  | announcing : Mirrors f library .announcing .announcing
  | stopping : Mirrors f library .stopping .stopping
  | waiting : Mirrors f library .waiting .waiting
  | closing {rest rest' : Program (Bool × Device)}
      (h : rest.Mirrors f true (fun r r' => r'.1 = r.1 ∧ r.2.Mirrors library r'.2) rest') :
      Mirrors f library (.closing rest) (.closing rest')
  | releasing : Mirrors f library .releasing .releasing
  | finished : Mirrors f library .finished .finished

/-- Dispatchers at the same place. -/
structure Mirrors (f : String → String) (library : Option String) (d d' : Dispatcher) : Prop where
  device : d.device.Mirrors library d'.device
  pool : d.pool.Mirrors f (Exchange.Run.Mirrors f) d'.pool
  sink : d'.sink = d.sink
  tornDown : d'.tornDown = d.tornDown
  teardown : d.teardown.Mirrors f library d'.teardown
  arrivals : d'.arrivals = d.arrivals

variable {d d' : Dispatcher}

theorem Mirrors.admission (h : d.Mirrors f library d') (input : Bytes) :
    d'.admission input = d.admission input := by
  rw [Dispatcher.admission, Dispatcher.admission, bufferSize, bufferSize, h.device.capabilities,
    h.tornDown]

/-! #### Bringing up -/

theorem mirrors_setUp {lag : Bool} {device device' : Device} (h : device.Mirrors library device') :
    (setUp device).run.Mirrors f lag
      (Outcome.Mirrors (Error.Retold f) (Pool.Mirrors f (Exchange.Run.Mirrors f)))
      (setUp device').run := by
  have hclear (s : Session) : Echoing f lag (s.writeShell Session.configRegister 0) :=
    mirrors_request (c := .writeShell s.handle Session.configRegister 0) trivial
  refine mirrors_action_bind (R := Eq) (mirrors_mono (Device.mirrors_withSession h hclear)
    fun _ _ h => h.retold) fun _ _ _ => ?_
  refine mirrors_action_bind (R := Eq) (mirrors_mono (Device.mirrors_withSession h
    fun s => s.echoing_setPcieEnabled true) fun _ _ h => h.retold) fun _ _ _ => ?_
  rw [h.capabilities, h.eq]
  have hpool : Outcome.Mirrors (Error.Retold f) (Pool.Mirrors f (Exchange.Run.Mirrors f))
      (Pool.build device.capabilities.bufferCount.toNat)
      (Pool.build device.capabilities.bufferCount.toNat) := by
    rw [Pool.build]
    split
    · exact .error (.plain _ (by simp))
    · exact .ok (Pool.mirrors_fresh _)
  dsimp only
  split
  · exact mirrors_throw .noBuffers
  · refine mirrors_action_bind (mirrors_liftOutcome hpool) fun pool pool' hpool => ?_
    exact mirrors_action_bind (mirrors_logLine _ _ _) fun _ _ _ => mirrors_pure hpool

theorem mirrors_bringUpDevice (library : Option String) (config : Config) :
    (bringUpDevice none config).run.Mirrors f true
      (Outcome.Mirrors (Error.Retold f) fun r r' =>
        r.1.Mirrors library r'.1 ∧ r.2.Mirrors f (Exchange.Run.Mirrors f) r'.2)
      (bringUpDevice library config).run := by
  rw [bringUpDevice, bringUpDevice]
  rcases openParams_cases config with ⟨path, -, -, hparams⟩ | ⟨-, hparams⟩
  · rw [hparams]
    refine mirrors_action_bind (mirrors_lift (Device.mirrors_noteUnloaded library)) fun _ _ _ => ?_
    exact mirrors_throw (.plain _ (by simp))
  · rw [hparams]
    refine mirrors_action_bind (Device.mirrors_bringUp library config.endpoint _)
      fun device device' hdevice => ?_
    refine mirrors_action_bind (mirrors_outcome (mirrors_setUp hdevice)) fun r r' hr => ?_
    cases hr with
    | ok hpool => exact mirrors_pure ⟨hdevice, hpool⟩
    | error h =>
        refine mirrors_action_bind (mirrors_lift (Device.mirrors_close hdevice)) fun _ _ _ => ?_
        exact mirrors_throw h

theorem mirrors_installSink {lag : Bool} (sink : Option Log.Sink) :
    (installSink sink).Mirrors f lag Eq (installSink sink) := by
  cases sink with
  | none => exact .done rfl
  | some sink => exact .log _ _ (.done rfl)

theorem mirrors_removeSink {lag : Bool} (sink : Option Log.Sink) :
    (removeSink sink).Mirrors f lag Eq (removeSink sink) := by
  cases sink with
  | none => exact .done rfl
  | some sink => exact .log _ _ (.done rfl)

/-- **Bringing a dispatcher up.** -/
theorem mirrors_bringUp (library : Option String) (config : Config) :
    (bringUp none config).run.Mirrors f true
      (Outcome.Mirrors (Error.Retold f) (Mirrors f library)) (bringUp library config).run := by
  refine mirrors_action_bind (mirrors_lift (mirrors_installSink config.sink)) fun _ _ _ => ?_
  refine mirrors_action_bind (mirrors_outcome (mirrors_bringUpDevice library config))
    fun r r' hr => ?_
  cases hr with
  | ok h => exact mirrors_pure ⟨h.1, h.2, rfl, rfl, .notBegun, rfl⟩
  | error h =>
      refine mirrors_action_bind (mirrors_lift (mirrors_removeSink config.sink)) fun _ _ _ => ?_
      exact mirrors_throw h

end Dispatcher

/-! ### Libraries that can be loaded -/

namespace Library

/-- There is a library at a path that a linker loads. -/
def Loads (linker : Linker) (path : String) : Prop :=
  Text.hasNul path = false ∧ ∃ exported, linker path = .ok exported ∧ missing? exported = none

/-- Who loads such a library first logs a line, and goes on. -/
theorem mirrors_load {α β : Type} {R : Outcome α → Outcome β → Prop} {linker : Linker}
    {path : String} (h : Loads linker path) {a : Action α} {a' : Action β}
    (ha : a.run.Mirrors f true R a'.run) :
    a.run.Mirrors f true R (load linker path >>= fun _ => a').run := by
  obtain ⟨hnul, exported, hlinker, hmissing⟩ := h
  have hload : load linker path =
      liftM (logLine .debug s!"accel: loaded driver library {path}") := by
    simp only [load, hnul, hlinker, hmissing]
    rfl
  rw [hload]
  exact .extra rfl _ ha

end Library

/-- **Bringing a dispatcher up on a library that is loaded for it.** -/
theorem Dispatcher.mirrors_load {linker : Library.Linker} {path : String}
    (h : Library.Loads linker path) (config : Config) :
    (bringUp none config).run.Mirrors f true
      (Outcome.Mirrors (Error.Retold f) (Mirrors f (some path)))
      (load linker { config with libraryPath := path }).run :=
  .extra rfl _ (Library.mirrors_load h (mirrors_bringUp (some path) config))

/-! ### How far the one may lag behind -/

/-- The number of lines that a program logs before it does anything else. -/
def Native.Program.lead {α : Type} : Program α → Nat
  | .step (.log _) next => (next ()).lead + 1
  | _ => 0

/-- The number of lines that a teardown logs before it does anything else to the device. -/
def Dispatcher.Teardown.lead : Teardown → Nat
  | .closing rest => rest.lead
  | _ => 0

/-! ### Stations -/

namespace Station

variable {σ : Type} {D E : Driver σ} (patience : σ → Nat) {s s' : Station σ}

/-- Stations at the same place. -/
structure Mirrors (f : String → String) (library : Option String) (s s' : Station σ) : Prop where
  driver : s'.world.driver = s.world.driver
  ledger : s'.ledger = s.ledger.retold f
  dispatcher : s.dispatcher.Mirrors f library s'.dispatcher

/-- Steps that come to the same. -/
structure MirroredStep (f : String → String) (library : Option String)
    (r r' : Station σ × Option Pool.Event) : Prop where
  state : r.1.Mirrors f library r'.1
  event : r'.2 = r.2.map (Pool.Event.retold f)

theorem Mirrors.scheduler (h : s.Mirrors f library s') :
    s.scheduler.Mirrors f (Exchange.Run.Mirrors f) (Exchange.Site.Mirrors library) s'.scheduler :=
  ⟨h.dispatcher.pool, h.ledger, h.driver, h.dispatcher.device⟩

theorem Mirrors.withScheduler (h : s.Mirrors f library s')
    {r r' : Pool.Scheduler Exchange.Run (Exchange.Site σ)}
    (hr : r.Mirrors f (Exchange.Run.Mirrors f) (Exchange.Site.Mirrors library) r') :
    (s.withScheduler r).Mirrors f library (s'.withScheduler r') :=
  ⟨hr.shared.driver, hr.ledger,
    { h.dispatcher with pool := hr.pool, device := hr.shared.device }⟩

theorem Mirrors.refuse (h : s.Mirrors f library s') (ticket : Ticket) {e : Error}
    (he : e.retold f = e) : (s.refuse ticket e).Mirrors f library (s'.refuse ticket e) := by
  have hresolve := s.ledger.resolve_retold (f := f) ticket (.error e)
  rw [← h.ledger, Outcome.retold, he] at hresolve
  exact ⟨h.driver, congrArg Prod.snd hresolve, h.dispatcher⟩

theorem Mirrors.winding (h : s.Mirrors f library s') {teardown teardown' : Dispatcher.Teardown}
    (ht : teardown.Mirrors f library teardown') :
    (s.winding teardown).Mirrors f library (s'.winding teardown') :=
  ⟨h.driver, h.ledger, { h.dispatcher with teardown := ht }⟩

/-- A job that is not admitted is refused for a reason of the library's own. -/
theorem retold_admission {d : Dispatcher} {input : Bytes} {e : Error}
    (h : d.admission input = .error e) : e.retold f = e := by
  rw [Dispatcher.admission] at h
  split at h
  · cases h; rfl
  · split at h
    · cases h; rfl
    · split at h <;> cases h
      rfl

/-- **A step of the pool.** -/
theorem mirrors_poolStep (hnull : f View.nullText = View.nullText) (htwins : Twins f D E)
    (h : s.Mirrors f library s') (move : Pool.Move) :
    Option.Rel (MirroredStep f library) (s.poolStep D patience move)
      (s'.poolStep E patience move) := by
  refine rel_map (Pool.Scheduler.mirrors_step (Exchange.mirrors_executor hnull htwins patience)
    h.scheduler move) fun r r' hr => ?_
  obtain ⟨r, event⟩ := r
  obtain ⟨r', event'⟩ := r'
  obtain rfl : event' = event.map (Pool.Event.retold f) := hr.event
  have hs := h.withScheduler hr.state
  cases event with
  | none => exact ⟨hs, rfl⟩
  | some event =>
      cases event with
      | refused job => exact ⟨hs.refuse job.ticket rfl, rfl⟩
      | _ => exact ⟨hs, rfl⟩

/-- A step of closing the device: the one whose driver comes from a library may log a line alone. -/
theorem mirrors_wind_closing (htwins : Twins f D E) (h : s.Mirrors f library s')
    {rest rest' : Program (Bool × Device)} (ht : s.dispatcher.teardown = .closing rest)
    (ht' : s'.dispatcher.teardown = .closing rest')
    (hrest : rest.Mirrors f true (fun r r' => r'.1 = r.1 ∧ r.2.Mirrors library r'.2) rest') :
    Option.Rel (MirroredStep f library) (s.wind D patience) (s'.wind E patience) ∨
      ∃ s₁', s'.wind E patience = some (s₁', none) ∧ s.Mirrors f library s₁' ∧
        s₁'.dispatcher.teardown.lead < s'.dispatcher.teardown.lead := by
  cases hrest with
  | @done r r' hr =>
      refine .inl ?_
      obtain ⟨was, device⟩ := r
      obtain ⟨was', device'⟩ := r'
      simp only [wind, ht, ht']
      refine .some ⟨⟨h.driver, h.ledger, ?_⟩, rfl⟩
      exact { h.dispatcher with device := hr.2, teardown := .releasing }
  | step o hnext =>
      refine .inl ?_
      obtain ⟨hanswer, hdriver⟩ := htwins.answer h.driver o
      simp only [wind, ht, ht']
      refine .some ⟨⟨hdriver, h.ledger, { h.dispatcher with teardown := .closing ?_ }⟩, rfl⟩
      rw [hanswer]
      exact hnext _
  | log request request' hnext =>
      refine .inl ?_
      simp only [wind, ht, ht']
      exact .some ⟨⟨h.driver, h.ledger, { h.dispatcher with teardown := .closing hnext }⟩, rfl⟩
  | @extra _ request _ next' hnext =>
      have hwind : s'.wind E patience = some
          (winding (.closing (next' ()))
            { s' with world := (E.answer (.log request) s'.world).2 }, none) := by
        simp only [wind, ht']
      refine .inr ⟨_, hwind, ⟨h.driver, h.ledger, ?_⟩, ?_⟩
      · exact { h.dispatcher with teardown := by rw [ht]; exact .closing hnext }
      · rw [ht']
        exact Nat.lt_succ_self _

/-- **A step of the teardown**: the one whose driver comes from a library may log a line alone. -/
theorem mirrors_wind (hnull : f View.nullText = View.nullText) (htwins : Twins f D E)
    (h : s.Mirrors f library s') :
    Option.Rel (MirroredStep f library) (s.wind D patience) (s'.wind E patience) ∨
      ∃ s₁', s'.wind E patience = some (s₁', none) ∧ s.Mirrors f library s₁' ∧
        s₁'.dispatcher.teardown.lead < s'.dispatcher.teardown.lead := by
  have hteardown := h.dispatcher.teardown
  generalize ht : s.dispatcher.teardown = teardown at hteardown
  generalize ht' : s'.dispatcher.teardown = teardown' at hteardown
  cases hteardown with
  | notBegun => exact .inl (by rw [wind, wind, ht, ht']; exact .none)
  | finished => exact .inl (by rw [wind, wind, ht, ht']; exact .none)
  | announcing =>
      refine .inl ?_
      simp only [wind, ht, ht']
      exact .some ⟨⟨h.driver, h.ledger, { h.dispatcher with teardown := .stopping }⟩, rfl⟩
  | stopping =>
      refine .inl ?_
      simp only [wind, ht, ht']
      exact rel_map (mirrors_poolStep patience hnull htwins h .close) fun _ _ hr =>
        ⟨hr.state.winding .waiting, hr.event⟩
  | waiting =>
      refine .inl ?_
      simp only [wind, ht, ht', h.dispatcher.pool.closing]
      cases s.dispatcher.pool.closing with
      | finished =>
          exact .some ⟨h.winding (.closing (Device.mirrors_close h.dispatcher.device)), rfl⟩
      | _ => exact mirrors_poolStep patience hnull htwins h .wind
  | closing hrest =>
      rw [← ht']
      exact mirrors_wind_closing patience htwins h ht ht' hrest
  | releasing =>
      refine .inl ?_
      have hrelease : (s'.runProgram E (Dispatcher.removeSink s'.dispatcher.sink)).2.world.driver =
          (s.runProgram D (Dispatcher.removeSink s.dispatcher.sink)).2.world.driver := by
        rw [h.dispatcher.sink]
        cases s.dispatcher.sink <;> exact h.driver
      simp only [wind, ht, ht']
      exact .some ⟨⟨hrelease, h.ledger, { h.dispatcher with teardown := .finished }⟩, rfl⟩

/-- **A step of the one is a step of the other, unless the other logs a line alone.** -/
theorem mirrors_step (hnull : f View.nullText = View.nullText) (htwins : Twins f D E)
    (h : s.Mirrors f library s') (move : Move) :
    Option.Rel (MirroredStep f library) (s.step D patience move) (s'.step E patience move) ∨
      move = .wind ∧ ∃ s₁', s'.step E patience move = some (s₁', none) ∧ s.Mirrors f library s₁' ∧
        s₁'.dispatcher.teardown.lead < s'.dispatcher.teardown.lead := by
  cases move with
  | execute job =>
      refine .inl ?_
      simp only [step, h.dispatcher.admission]
      cases hadmission : s.dispatcher.admission job.input with
      | error e => exact .some ⟨h.refuse job.ticket (retold_admission hadmission), rfl⟩
      | ok =>
          refine .some ⟨⟨h.driver, h.ledger, ?_⟩, rfl⟩
          exact { h.dispatcher with arrivals := congrArg (· ++ [job]) h.dispatcher.arrivals }
  | enter ticket =>
      refine .inl ?_
      simp only [step, h.dispatcher.arrivals]
      cases s.dispatcher.arrivals.find? _ with
      | none => exact .none
      | some job =>
          have harrivals (arrivals : List Pool.Job) : Mirrors f library
              { s with dispatcher := { s.dispatcher with arrivals } }
              { s' with dispatcher := { s'.dispatcher with arrivals } } :=
            ⟨h.driver, h.ledger, { h.dispatcher with arrivals := rfl }⟩
          exact mirrors_poolStep patience hnull htwins (harrivals _) (.submit job)
  | proceed => exact .inl (mirrors_poolStep patience hnull htwins h .proceed)
  | work slot => exact .inl (mirrors_poolStep patience hnull htwins h (.work slot))
  | tearDown =>
      refine .inl ?_
      simp only [step, h.dispatcher.tornDown]
      split
      · exact .some ⟨h, rfl⟩
      · refine .some ⟨⟨h.driver, h.ledger, ?_⟩, rfl⟩
        exact { h.dispatcher with tornDown := rfl, teardown := .announcing }
  | wind => exact (mirrors_wind patience hnull htwins h).imp_right fun hahead => ⟨rfl, hahead⟩

end Station

end Offload

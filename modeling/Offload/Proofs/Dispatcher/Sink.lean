/-
**Who touches the installed sink.**

The sink that receives the log lines is one for all.  The native driver, the workers and the callers
that use a device log lines, but leave the sink alone.  A dispatcher touches it at two moments: when
it is brought up it installs its own sink, if it has one, before it does anything else, and takes it
away again when it fails; when it is torn down it takes its own sink away as the last thing it does.

Main definitions:

* `Native.KeepsSink` — operations that leave the installed sink alone;
* `Dispatcher.Owns` — **the invariant of a dispatcher with its sink**;
* `Dispatcher.isOver` — the teardown has returned.

Main results:

* `Dispatcher.sink_bringUp` — the installed sink after a dispatcher has been brought up, or not;
* `Dispatcher.Owns.step` — **a step leaves the installed sink alone, or ends the teardown and takes
  the dispatcher's own sink away**.
-/

import Offload.Proofs.Log.Routing
import Offload.Proofs.Dispatcher.Reached
import Offload.Proofs.Dispatcher.DeviceInvariant
import Offload.Proofs.Device.Stepped

set_option autoImplicit false
set_option relaxedAutoImplicit false

namespace Offload

open Native

/-! ### Operations -/

namespace Native

/-- The operation neither installs a sink nor takes one away. -/
def KeepsSink : Op → Prop
  | .log (.install _) | .log (.remove _) => False
  | _ => True

theorem admitsReports_keepsSink : AdmitsReports KeepsSink := ⟨trivial, trivial, fun _ _ => trivial⟩

theorem admitsSlotless_keepsSink : AdmitsSlotless KeepsSink :=
  ⟨admitsReports_keepsSink, fun _ _ => trivial⟩

theorem admitsExchanges_keepsSink (h : Handle) : AdmitsExchanges h KeepsSink where
  toAdmitsReports := admitsReports_keepsSink
  onSlot _ _ _ := trivial
  store _ _ := trivial
  fetch _ _ := trivial

/-- The messages of a driver are lines. -/
theorem sink_relay (notices : List Notice) (r : Log.Router) : (relay notices r).sink = r.sink := by
  induction notices generalizing r with
  | nil => rfl
  | cons notice notices ih => exact (ih _).trans (r.sink_emit _ _)

variable {σ α : Type} {o : Op}

theorem sink_answer (D : Driver σ) (ho : KeepsSink o) (w : World σ) :
    (D.answer o w).2.router.sink = w.router.sink := by
  cases o with
  | call c => exact sink_relay _ _
  | log request =>
      cases request with
      | start => exact w.router.sink_start
      | line level text => exact w.router.sink_line level text
      | install | remove => cases ho
  | lastError | lastErrorText | store | fetch => rfl

theorem sink_resumed (D : Driver σ) (ho : KeepsSink o) (w : World σ) :
    (D.resumed o w).2.router.sink = w.router.sink := by
  cases o with
  | call c => exact sink_relay _ _
  | _ => exact sink_answer D ho w

/-- A call that never returns logs nothing. -/
theorem router_trapped {D : Driver σ} {w w' : World σ} (h : D.trapped? o w = some w') :
    w'.router = w.router := by
  cases o with
  | call c =>
      obtain ⟨s, -, rfl⟩ := Option.map_eq_some_iff.1 h
      rfl
  | _ => cases h

/-- **Programs of such operations leave the installed sink alone.** -/
theorem sink_run (D : Driver σ) {p : Program α} (hp : p.Every KeepsSink) (w : World σ) :
    (D.run p w).2.router.sink = w.router.sink := by
  induction p generalizing w with
  | done a => rfl
  | step o next ih => exact (ih _ (hp.2 _) _).trans (sink_answer D hp.1 w)

end Native

/-! ### Bringing up -/

namespace Dispatcher

variable {σ : Type}

/-- What is done with what bringing up the device has come to. -/
def assemble (config : Config) : Outcome (Device × Pool Exchange.Run) → Program (Outcome Dispatcher)
  | .ok (device, pool) =>
      .done (.ok {
        device, pool
        sink := config.sink
        tornDown := false
        teardown := .notBegun
        arrivals := [] })
  | .error e => removeSink config.sink >>= fun _ => .done (.error e)

/-- Bringing a dispatcher up installs its sink, brings up the device, and takes the sink away again
if this fails. -/
theorem run_bringUp (library : Option String) (config : Config) :
    (bringUp library config).run =
      installSink config.sink >>= fun _ =>
        (bringUpDevice library config).run >>= assemble config := by
  have hlift : bringUp library config =
      ExceptT.lift (installSink config.sink) >>= fun _ =>
        ExceptT.lift (bringUpDevice library config).run >>= fun r =>
          ExceptT.mk (assemble config r) := by
    refine bind_congr fun _ => bind_congr fun r => ?_
    cases r with
    | ok built => rfl
    | error e =>
        refine ExceptT.ext ?_
        exact ExceptT.run_bind_lift _ _
  rw [hlift, ExceptT.run_bind_lift]
  simp only [ExceptT.run_bind_lift]
  rfl

/-- **The installed sink after a dispatcher has been brought up**: its own if it has one, else the
one that was installed before; when it fails with a sink of its own there is none. -/
theorem sink_bringUp (D : Driver σ) (library : Option String) (config : Config) (w : World σ) :
    (D.run (bringUp library config).run w).2.router.sink =
      match (D.run (bringUp library config).run w).1 with
      | .ok _ => config.sink.or w.router.sink
      | .error _ => if config.sink.isSome then none else w.router.sink := by
  have hinstalled : (D.run (installSink config.sink) w).2.router.sink =
      config.sink.or w.router.sink := by
    cases config.sink <;> rfl
  have hkept := sink_run D (every_bringUpDevice admitsSlotless_keepsSink library config)
    (D.run (installSink config.sink) w).2
  rw [hinstalled] at hkept
  rw [run_bringUp, Driver.run_bind, Driver.run_bind]
  generalize D.run (bringUpDevice library config).run (D.run (installSink config.sink) w).2 = r
    at hkept ⊢
  obtain ⟨r, w'⟩ := r
  cases r with
  | ok built => exact hkept
  | error e =>
      simp only [assemble, Driver.run_bind, Driver.run_done]
      -- nobody has changed the sink meanwhile, so it is the dispatcher's own if it has one
      cases hsink : config.sink with
      | none =>
          rw [hsink] at hkept
          exact hkept
      | some sink =>
          rw [hsink] at hkept
          have hown : w'.router.isInstalled sink = true := decide_eq_true hkept
          show (w'.router.remove sink).sink = none
          rw [Log.Router.remove, if_pos hown]

/-! ### At work -/

/-- The teardown has returned. -/
def isOver (d : Dispatcher) : Bool :=
  match d.teardown with
  | .finished => true
  | _ => false

theorem isOver_iff {d : Dispatcher} : d.isOver = true ↔ d.teardown = .finished := by
  unfold isOver
  split
  · next h => simp [h]
  · next h => simpa using h

/-- A dispatcher that has brought up with a sink knows it, all that it does with its driver leaves
the installed sink alone, and it is torn down once. -/
structure Owns (sink : Option Log.Sink) (d : Dispatcher) : Prop where
  sink : d.sink = sink
  untorn : d.tornDown = false → d.teardown = .notBegun
  running : ∀ i job run, d.pool.worker? i = some (.running job run) → run.rest.Every KeepsSink
  closing : ∀ rest, d.teardown = .closing rest → rest.Every KeepsSink

theorem Owns.start {D : Driver σ} {library : Option String} {config : Config} {w w' : World σ}
    {d : Dispatcher} (h : D.run (bringUp library config).run w = (.ok d, w')) :
    d.Owns config.sink := by
  have hnew : d.IsNew := by
    have hrun := Program.meddled_run D (fun _ _ => False) (bringUp library config).run w
    rw [h] at hrun
    exact isNew_of_bringUp hrun
  obtain ⟨n, -, hpool⟩ := hnew.pool
  refine ⟨?_, fun _ => hnew.teardown, fun i job run hw => ?_, fun rest hrest => ?_⟩
  · rw [run_bringUp, Driver.run_bind, Driver.run_bind] at h
    generalize D.run (bringUpDevice library config).run (D.run (installSink config.sink) w).2 = r
      at h
    obtain ⟨r, w₁⟩ := r
    cases r with
    | ok built =>
        cases h
        rfl
    | error e =>
        simp only [assemble, Driver.run_bind] at h
        cases h
  · rw [hpool] at hw
    exact absurd hw (Pool.not_running_fresh i job run)
  · rw [hnew.teardown] at hrest
    cases hrest

end Dispatcher

/-! ### Steps -/

section

variable {σ : Type} {D : Driver σ} {patience : σ → Nat}

theorem Exchange.sink_continues {i : Nat} {run run' : Run} {site site' : Site σ}
    (hrun : run.rest.Every KeepsSink) (hstep : step D i run site = .continues run' site') :
    site'.world.router.sink = site.world.router.sink ∧ run'.rest.Every KeepsSink := by
  cases stepped_of_step hstep with
  | again =>
      exact ⟨rfl, every_deviceRound _ _ _ fun s _ => admitsExchanges_keepsSink s.handle⟩
  | enter => exact ⟨rfl, hrun⟩
  | answer o next hrest =>
      rw [hrest] at hrun
      refine ⟨?_, hrun.2 _⟩
      cases run.entered with
      | true => exact sink_resumed D hrun.1 site.world
      | false => exact sink_answer D hrun.1 site.world

theorem Exchange.sink_died {i : Nat} {run : Run} {site site' : Site σ}
    (hstep : step D i run site = .died site') :
    site'.world.router.sink = site.world.router.sink := by
  cases stepped_of_step hstep with
  | die o next world hrest hentered htrap => exact congrArg Log.Router.sink (router_trapped htrap)

theorem Pool.sink_of_transition {s q : Scheduler Exchange.Run (Exchange.Site σ)} {move : Move}
    {e : Option Event}
    (hrunning : ∀ i job run, s.pool.worker? i = some (.running job run) →
      run.rest.Every KeepsSink)
    (hq : Scheduler.Transition (Exchange.executor D patience) s move e q) :
    q.shared.world.router.sink = s.shared.world.router.sink ∧
      ∀ i job run, q.pool.worker? i = some (.running job run) → run.rest.Every KeepsSink := by
  cases effect_of_transition hq with
  | calm _ _ hcalm hshared =>
      refine ⟨?_, fun i job run hw => hrunning i job run (hcalm i job run hw)⟩
      rcases hshared with hshared | ⟨level, line, hshared⟩ <;> rw [hshared]
      exact Log.Router.sink_line _ _ _
  | begin slot job _ hw _ hshared hw' hothers =>
      refine ⟨?_, running_of_others hrunning hw' ?_ hothers⟩
      · rw [hshared]
        rfl
      · rintro _ _ ⟨⟩
        exact Exchange.every_deviceRound _ _ _ fun s _ => admitsExchanges_keepsSink s.handle
  | goOn slot job run run' _ hw _ hstep hw' hothers =>
      obtain ⟨hsink, hrun'⟩ := Exchange.sink_continues (hrunning slot job run hw) hstep
      refine ⟨hsink, running_of_others hrunning hw' ?_ hothers⟩
      rintro _ _ ⟨⟩
      exact hrun'
  | «return» slot job run outcome _ hw _ hstep hw' hothers =>
      refine ⟨?_, running_of_others hrunning hw' (by simp) hothers⟩
      rw [(Exchange.eq_of_returned hstep).1]
  | die slot job run _ hw hstep hw' hothers =>
      exact ⟨Exchange.sink_died hstep, running_of_others hrunning hw' (by simp) hothers⟩

end

namespace Dispatcher

variable {σ : Type} {D : Driver σ} {patience : σ → Nat} {sink : Option Log.Sink}
  {s s' : Station σ} {move : Station.Move} {e : Option Pool.Event}

/-- The installed sink after a step: the end of a teardown takes the dispatcher's own sink away, and
nothing else changes it. -/
def sinkAfter (sink : Option Log.Sink) (s s' : Station σ) : Option Log.Sink :=
  if s.dispatcher.isOver = false ∧ s'.dispatcher.isOver = true ∧ s.world.router.sink = sink then
    none
  else s.world.router.sink

/-- A step that neither ends the teardown nor touches the sink. -/
theorem sinkAfter_of_same (hsink : s'.world.router.sink = s.world.router.sink)
    (hover : s'.dispatcher.isOver = s.dispatcher.isOver) :
    s'.world.router.sink = sinkAfter sink s s' := by
  rw [hsink, sinkAfter, if_neg]
  rintro ⟨hnot, hdone, -⟩
  rw [hover, hnot] at hdone
  cases hdone

theorem Owns.driven (h : s.dispatcher.Owns sink) {poolMove : Pool.Move}
    {arrivals : List Pool.Job} {teardown : Teardown}
    {q : Pool.Scheduler Exchange.Run (Exchange.Site σ)}
    (hd : Station.Driving s move poolMove arrivals teardown)
    (hq : Pool.Scheduler.Transition (Station.executor D patience) s.scheduler poolMove e q) :
    (s.driven q e arrivals teardown).dispatcher.Owns sink ∧
      (s.driven q e arrivals teardown).world.router.sink =
        sinkAfter sink s (s.driven q e arrivals teardown) := by
  obtain ⟨hsink, hrunning⟩ := Pool.sink_of_transition (s := s.scheduler) h.running hq
  -- neither stopping nor waiting is the end of the teardown
  rcases hd.teardown_eq with rfl | ⟨hstopping, rfl⟩
  · exact ⟨⟨h.sink, h.untorn, hrunning, h.closing⟩, sinkAfter_of_same hsink rfl⟩
  · refine ⟨⟨h.sink, fun htorn => ?_, hrunning, by rintro rest ⟨⟩⟩, sinkAfter_of_same hsink ?_⟩
    · exact absurd (h.untorn htorn) (by simp [hstopping])
    · simp only [isOver, hstopping]
      rfl

/-- **A step leaves the installed sink alone, or ends the teardown and takes the dispatcher's own
sink away.** -/
theorem Owns.step (h : s.dispatcher.Owns sink) (hstep : s.step D patience move = some (s', e)) :
    s'.dispatcher.Owns sink ∧ s'.world.router.sink = sinkAfter sink s s' := by
  have huntorn {teardown : Teardown} (hbegun : s.dispatcher.teardown ≠ .notBegun)
      (htorn : s.dispatcher.tornDown = false) : teardown = .notBegun :=
    absurd (h.untorn htorn) hbegun
  cases Station.transition_of_step hstep with
  | turnAway | takeIn =>
      exact ⟨⟨h.sink, h.untorn, h.running, h.closing⟩, sinkAfter_of_same rfl rfl⟩
  | pool _ _ _ _ _ _ hd hq => exact h.driven hd hq
  | tearDownAgain => exact ⟨h, sinkAfter_of_same rfl rfl⟩
  | tearDown hnot =>
      refine ⟨⟨h.sink, (by rintro ⟨⟩), h.running, (by rintro rest ⟨⟩)⟩, sinkAfter_of_same rfl ?_⟩
      simp only [isOver, h.untorn hnot]
  | announce router hteardown =>
      refine ⟨⟨h.sink, huntorn (by simp [hteardown]), h.running, (by rintro rest ⟨⟩)⟩,
        sinkAfter_of_same ?_ ?_⟩
      · -- a line goes to the sink and leaves it where it is
        simp only [Station.step, Station.wind, hteardown, Option.some.injEq, Prod.mk.injEq] at hstep
        rw [← hstep.1]
        exact Log.Router.sink_line _ _ _
      · simp only [isOver, Station.winding, hteardown]
  | endSession hteardown hclosing =>
      refine ⟨⟨h.sink, huntorn (by simp [hteardown]), h.running, ?_⟩, sinkAfter_of_same rfl ?_⟩
      · rintro rest ⟨⟩
        exact Device.every_close admitsSlotless_keepsSink _
      · simp only [isOver, Station.winding, hteardown]
  | closing o next hteardown =>
      obtain ⟨ho, hnext⟩ := h.closing _ hteardown
      refine ⟨⟨h.sink, huntorn (by simp [hteardown]), h.running, ?_⟩, sinkAfter_of_same ?_ ?_⟩
      · rintro rest ⟨⟩
        exact hnext _
      · exact sink_answer D ho s.world
      · simp only [isOver, Station.winding, hteardown]
  | closed was device hteardown =>
      refine ⟨⟨h.sink, huntorn (by simp [hteardown]), h.running, (by rintro rest ⟨⟩)⟩,
        sinkAfter_of_same rfl ?_⟩
      simp only [isOver, Station.winding, hteardown]
  | release router hteardown =>
      refine ⟨⟨h.sink, huntorn (by simp [hteardown]), h.running, (by rintro rest ⟨⟩)⟩, ?_⟩
      simp only [Station.step, Station.wind, hteardown, Option.some.injEq, Prod.mk.injEq] at hstep
      have hnot : s.dispatcher.isOver = false := by simp only [isOver, hteardown]
      rw [← hstep.1, sinkAfter, hnot]
      have hdone : (Station.winding .finished
          (s.runProgram D (removeSink s.dispatcher.sink)).2).dispatcher.isOver = true := rfl
      rw [hdone, h.sink]
      -- the teardown is over, and what was installed goes if it is the dispatcher's own
      cases sink with
      | none =>
          show s.world.router.sink = _
          by_cases hnone : s.world.router.sink = none <;> simp [hnone]
      | some own =>
          show (s.world.router.remove own).sink = _
          unfold Log.Router.remove Log.Router.isInstalled
          by_cases hown : s.world.router.sink = some own <;> simp [hown]

theorem Owns.isOver_step (h : s.dispatcher.Owns sink)
    (hstep : s.step D patience move = some (s', e)) (hover : s.dispatcher.isOver = true) :
    s'.dispatcher.isOver = true := by
  have hfinished := isOver_iff.1 hover
  have hne {teardown : Teardown} (hteardown : s.dispatcher.teardown = teardown)
      (hnot : teardown ≠ .finished) : False := hnot (hteardown.symm.trans hfinished)
  cases Station.transition_of_step hstep with
  | turnAway | takeIn | tearDownAgain => exact hover
  | pool _ _ _ _ _ _ hd hq =>
      cases hd with
      | stop hteardown => exact (hne hteardown (by simp)).elim
      | wait hteardown => exact (hne hteardown (by simp)).elim
      | _ => exact hover
  | tearDown hnot => exact (hne (h.untorn hnot) (by simp)).elim
  | announce _ hteardown | endSession hteardown | closing _ _ hteardown | closed _ _ hteardown
  | release _ hteardown => exact (hne hteardown (by simp)).elim

end Dispatcher

end Offload

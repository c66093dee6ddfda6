/-
**Dispatchers that share the installed sink.**

There is one installed sink, and any number of dispatchers that are brought up and torn down at any
time, each with a driver of its own or with one that they share.  Some have a sink of their own,
which may be the sink of others as well.  Callers install sinks and take them away in between, and
whatever else goes on is done in between, too.  The installed sink can be told from this alone: a
dispatcher that comes up puts its own sink there, one that does not leaves none behind, and a
teardown takes the dispatcher's own sink away, once, and never another one.

Main definitions:

* `ConfiguredDispatcher`, `SharedLog` — a dispatcher on its driver, and all that share the state of
  logging;
* `SharedLog.Act`, `SharedLog.act`, `SharedLog.run` — what can happen next, and many such acts;
* `SharedLog.Constructs`, `SharedLog.Moved` — what bringing a dispatcher up, and its moves, come to.

Main results:

* `SharedLog.Settled.act` — every act keeps the invariants of the dispatchers;
* `SharedLog.Settled.moves` — what the moves of one dispatcher come to;
* `SharedLog.sink_ownership` — **the installed sink after every act of every run**.
-/

import Offload.Proofs.Dispatcher.RoundTrip
import Offload.Proofs.Dispatcher.Sink

set_option autoImplicit false
set_option relaxedAutoImplicit false

namespace Offload

open Native

/-- A dispatcher that has been brought up on a driver, and the sink that was configured for it. -/
structure ConfiguredDispatcher (σ : Type) where
  driver : Driver σ
  configured : Option Log.Sink
  dispatcher : Dispatcher

/-- Dispatchers that share the state of logging.  The state of the drivers is one, so that they may
be the same driver, or different ones on parts of the state. -/
structure SharedLog (σ : Type) where
  world : World σ
  ledger : Ledger
  /-- The dispatchers brought up so far, torn down ones included. -/
  dispatchers : List (ConfiguredDispatcher σ)

namespace SharedLog

variable {σ : Type}

/-- What can happen next. -/
inductive Act (σ : Type) where
  /-- Somebody uses logging: installs a sink or takes one away, logs a line, or sets the level. -/
  | logging (op : Script.LogOp)
  /-- A dispatcher is brought up on a driver. -/
  | construct (driver : Driver σ) (library : Option String) (config : Config)
  /-- A dispatcher makes a step: of a job, or of a call to tear it down.  Such a call is also what
  dropping the dispatcher comes to. -/
  | move (index : Nat) (move : Station.Move)
  /-- Drivers and completions change for other reasons. -/
  | elsewhere (driver : σ) (ledger : Ledger)

/-- The installed sink. -/
def installed (h : SharedLog σ) : Option Log.Sink := h.world.router.sink

/-- One dispatcher with everything that it works on. -/
def station (h : SharedLog σ) (t : ConfiguredDispatcher σ) : Station σ :=
  { world := h.world, ledger := h.ledger, dispatcher := t.dispatcher }

/-- The state after one dispatcher has worked. -/
def withStation (h : SharedLog σ) (index : Nat) (t : ConfiguredDispatcher σ) (s : Station σ) :
    SharedLog σ :=
  { world := s.world, ledger := s.ledger
    dispatchers := h.dispatchers.set index { t with dispatcher := s.dispatcher } }

variable (patience : σ → Nat)

/-- One act, which is missing when it is not possible. -/
def act (h : SharedLog σ) : Act σ → Option (SharedLog σ)
  | .logging op => some { h with world := { h.world with router := (op.perform h.world.router).2 } }
  | .construct driver library config =>
      match driver.run (Dispatcher.bringUp library config).run h.world with
      | (.ok dispatcher, world) =>
          some { h with world, dispatchers := h.dispatchers ++ [⟨driver, config.sink, dispatcher⟩] }
      | (.error _, world) => some { h with world }
  | .move index move =>
      (h.dispatchers[index]?).bind fun t =>
        ((h.station t).step t.driver patience move).map fun (s, _) => h.withStation index t s
  | .elsewhere driver ledger => some { h with world := { h.world with driver }, ledger }

/-- Many acts. -/
def run (acts : List (Act σ)) (h : SharedLog σ) : Option (SharedLog σ) :=
  acts.foldlM (act patience) h

/-- The moves of one dispatcher. -/
def moves (index : Nat) (ms : List Station.Move) : List (Act σ) := ms.map (.move index)

/-! ### The invariant -/

/-- Every dispatcher owns the sink that was configured for it. -/
def Settled (h : SharedLog σ) : Prop := ∀ t ∈ h.dispatchers, t.dispatcher.Owns t.configured

variable {patience} {h h' : SharedLog σ}

theorem Settled.move (hs : h.Settled) {index : Nat} {move : Station.Move}
    {t : ConfiguredDispatcher σ} (ht : h.dispatchers[index]? = some t)
    (hact : h.act patience (.move index move) = some h') :
    ∃ s e, (h.station t).step t.driver patience move = some (s, e) ∧
      h' = h.withStation index t s ∧ s.dispatcher.Owns t.configured ∧
      h'.installed = Dispatcher.sinkAfter t.configured (h.station t) s := by
  simp only [act, ht, Option.bind_some] at hact
  obtain ⟨⟨s, e⟩, hstep, rfl⟩ := Option.map_eq_some_iff.1 hact
  have howns : (h.station t).dispatcher.Owns t.configured := hs t (List.mem_of_getElem? ht)
  obtain ⟨howns', hsink⟩ := howns.step hstep
  exact ⟨s, e, hstep, rfl, howns', hsink⟩

/-- **Every act keeps the invariants of the dispatchers.** -/
theorem Settled.act (hs : h.Settled) {a : Act σ} (hact : h.act patience a = some h') :
    h'.Settled := by
  cases a with
  | logging | elsewhere =>
      cases hact
      exact hs
  | construct driver library config =>
      simp only [SharedLog.act] at hact
      split at hact
      · next dispatcher world hrun =>
          cases hact
          intro t ht
          rcases List.mem_append.1 ht with ht | ht
          · exact hs t ht
          · rw [List.mem_singleton.1 ht]
            exact Dispatcher.Owns.start hrun
      · cases hact
        exact hs
  | move index move =>
      cases ht : h.dispatchers[index]? with
      | none => simp [SharedLog.act, ht] at hact
      | some t =>
          obtain ⟨s, e, -, rfl, howns, -⟩ := hs.move ht hact
          intro t' ht'
          rcases List.mem_or_eq_of_mem_set ht' with ht' | rfl
          · exact hs t' ht'
          · exact howns

/-- So does every run. -/
theorem Settled.run (hs : h.Settled) {acts : List (Act σ)}
    (hrun : run patience acts h = some h') : h'.Settled :=
  foldlM_induction hrun hs fun _ _ _ hs hact => hs.act hact

/-- **What the moves of one dispatcher come to.**  If they are the end of its teardown, its own sink
is taken away if it is the installed one; otherwise the installed sink is as before. -/
theorem Settled.moves (hs : h.Settled) {index : Nat} {t : ConfiguredDispatcher σ}
    (ht : h.dispatchers[index]? = some t) {ms : List Station.Move}
    (hrun : SharedLog.run patience (moves index ms) h = some h') :
    ∃ t', h'.dispatchers[index]? = some t' ∧ t'.configured = t.configured ∧
      (t.dispatcher.isOver = true → t'.dispatcher.isOver = true) ∧
      h'.installed =
        if t.dispatcher.isOver = false ∧ t'.dispatcher.isOver = true ∧
          h.installed = t.configured then none
        else h.installed := by
  induction ms generalizing h t with
  | nil =>
      obtain rfl : h = h' := Option.some_inj.1 hrun
      refine ⟨t, ht, rfl, id, (if_neg ?_).symm⟩
      rintro ⟨hnot, hover, -⟩
      exact Bool.false_ne_true (hnot.symm.trans hover)
  | cons m ms ih =>
      obtain ⟨h₁, hact, hrun⟩ := Option.bind_eq_some_iff.1 hrun
      obtain ⟨s, e, hstep, heq, howns, hsink⟩ := hs.move ht hact
      have howns₀ : (h.station t).dispatcher.Owns t.configured := hs t (List.mem_of_getElem? ht)
      have hstays := howns₀.isOver_step hstep
      have ht₁ : h₁.dispatchers[index]? = some { t with dispatcher := s.dispatcher } := by
        have hlt := (List.getElem?_eq_some_iff.1 ht).1
        rw [heq]
        exact List.getElem?_set_self hlt
      obtain ⟨t', ht', hconfigured, hover, hinstalled⟩ := ih (hs.act hact) ht₁ hrun
      refine ⟨t', ht', hconfigured, fun h => hover (hstays h), ?_⟩
      rw [hinstalled, hsink]
      -- the teardown ends with the first move, with a later one, or not at all
      cases hbefore : t.dispatcher.isOver with
      | true =>
          have hnow : s.dispatcher.isOver = true := hstays hbefore
          simp [Dispatcher.sinkAfter, station, installed, hbefore, hnow]
      | false =>
          cases hnow : s.dispatcher.isOver with
          | true =>
              have hlater : t'.dispatcher.isOver = true := hover hnow
              simp [Dispatcher.sinkAfter, station, installed, hbefore, hnow, hlater]
          | false => simp [Dispatcher.sinkAfter, station, installed, hbefore, hnow]

/-! ### Ownership -/

/-- Nothing is different after a dispatcher has worked, if the dispatcher has not. -/
theorem withStation_station {index : Nat} {t : ConfiguredDispatcher σ}
    (ht : h.dispatchers[index]? = some t) :
    h.withStation index t (h.station t) = h := by
  obtain ⟨hlt, rfl⟩ := List.getElem?_eq_some_iff.1 ht
  have hset : h.dispatchers.set index h.dispatchers[index] = h.dispatchers :=
    List.set_getElem_self hlt
  exact congrArg (fun dispatchers => { h with dispatchers }) hset

/-- **What bringing a dispatcher up comes to.** -/
structure Constructs (driver : Driver σ) (library : Option String) (config : Config)
    (h h' : SharedLog σ) : Prop where
  /-- Its own sink is installed before anything else is done. -/
  first : ∀ own, config.sink = some own →
    ∃ next, (Dispatcher.bringUp library config).run = .step (.log (.install own)) next
  /-- When it comes up, its own sink is installed if it has one; else nothing has changed. -/
  ok : ∀ d, (driver.run (Dispatcher.bringUp library config).run h.world).1 = .ok d →
    h'.dispatchers = h.dispatchers ++ [⟨driver, config.sink, d⟩] ∧
      h'.installed = config.sink.or h.installed
  /-- When it fails, no sink is installed if it has one; else nothing has changed. -/
  error : ∀ e, (driver.run (Dispatcher.bringUp library config).run h.world).1 = .error e →
    h'.dispatchers = h.dispatchers ∧ h'.installed = if config.sink.isSome then none else h.installed

theorem constructs (h : SharedLog σ) (driver : Driver σ) (library : Option String)
    (config : Config) :
    ∃ h', h.act patience (.construct driver library config) = some h' ∧
      Constructs driver library config h h' := by
  have hsink := Dispatcher.sink_bringUp driver library config h.world
  have hfirst (own : Log.Sink) (hown : config.sink = some own) :
      ∃ next, (Dispatcher.bringUp library config).run = .step (.log (.install own)) next := by
    rw [Dispatcher.run_bringUp, hown]
    exact ⟨_, rfl⟩
  cases hrun : driver.run (Dispatcher.bringUp library config).run h.world with
  | mk r world =>
      rw [hrun] at hsink
      cases r with
      | ok dispatcher =>
          refine ⟨_, by rw [act, hrun], hfirst, ?_, ?_⟩
          · rw [hrun]
            rintro d ⟨⟩
            exact ⟨rfl, hsink⟩
          · rw [hrun]
            rintro e ⟨⟩
      | error e =>
          refine ⟨_, by rw [act, hrun], hfirst, ?_, ?_⟩
          · rw [hrun]
            rintro d ⟨⟩
          · rw [hrun]
            exact fun _ _ => ⟨rfl, hsink⟩

/-- **What the moves of one dispatcher come to**, which was `t` before them. -/
structure Moved (index : Nat) (t : ConfiguredDispatcher σ) (h h' : SharedLog σ)
    (t' : ConfiguredDispatcher σ) : Prop where
  dispatcher : h'.dispatchers[index]? = some t'
  configured : t'.configured = t.configured
  lasts : t.dispatcher.isOver = true → t'.dispatcher.isOver = true
  /-- The end of its teardown takes the installed sink away if and only if this is its own. -/
  ended : t.dispatcher.isOver = false → t'.dispatcher.isOver = true →
    h'.installed = if h.installed = t.configured then none else h.installed
  /-- Before the end of its teardown, and after it, the installed sink is left alone. -/
  otherwise : t'.dispatcher.isOver = t.dispatcher.isOver → h'.installed = h.installed
  /-- Its own sink is not installed right after its teardown. -/
  own : t.dispatcher.isOver = false → t'.dispatcher.isOver = true →
    ∀ own, t.configured = some own → h'.installed ≠ some own
  /-- A sink that is not its own stays. -/
  others : ∀ sink, h.installed = some sink → t.configured ≠ some sink → h'.installed = some sink

theorem Settled.moved (hs : h.Settled) {index : Nat} {t : ConfiguredDispatcher σ}
    (ht : h.dispatchers[index]? = some t) {ms : List Station.Move}
    (hrun : SharedLog.run patience (SharedLog.moves index ms) h = some h') :
    ∃ t', Moved index t h h' t' := by
  obtain ⟨t', ht', hconfigured, hover, hinstalled⟩ := hs.moves ht hrun
  have hended (hnot : t.dispatcher.isOver = false) (hdone : t'.dispatcher.isOver = true) :
      h'.installed = if h.installed = t.configured then none else h.installed := by
    rw [hinstalled]
    simp only [hnot, hdone, true_and]
  refine ⟨t', ht', hconfigured, hover, hended, fun heq => ?_, fun hnot hdone own hown => ?_,
    fun sink hsink hne => ?_⟩
  · rw [hinstalled, if_neg]
    rintro ⟨hnot, hdone, -⟩
    exact Bool.false_ne_true (hnot.symm.trans (heq.symm.trans hdone))
  · rw [hended hnot hdone, hown]
    by_cases hsame : h.installed = some own <;> simp [hsame]
  · rw [hinstalled, if_neg, hsink]
    rintro ⟨-, -, hsame⟩
    exact hne (hsame.symm.trans hsink)

/-- **The installed sink.**  Dispatchers are brought up, work and are torn down in any order, while
callers use logging, and the sinks may be shared.  However it has come to where it is: callers
change the installed sink by installing one and taking one away; bringing a dispatcher up installs
its sink first, and leaves none behind when it fails; the end of its teardown takes its own sink
away and no other; tearing it down again changes nothing. -/
theorem sink_ownership {acts : List (Act σ)} {world : World σ} {ledger : Ledger}
    (hrun : run patience acts ⟨world, ledger, []⟩ = some h) :
    (∀ op, ∃ h', h.act patience (.logging op) = some h' ∧ h'.dispatchers = h.dispatchers ∧
      h'.installed = op.sinkAfter h.installed) ∧
    (∀ driver library config, ∃ h', h.act patience (.construct driver library config) = some h' ∧
      Constructs driver library config h h') ∧
    (∀ index t ms h', h.dispatchers[index]? = some t →
      run patience (moves index ms) h = some h' → ∃ t', Moved index t h h' t') ∧
    (∀ (index : Nat) (t : ConfiguredDispatcher σ), h.dispatchers[index]? = some t →
      t.dispatcher.tornDown = true → h.act patience (.move index .tearDown) = some h) ∧
    ∀ driver ledger, ∃ h', h.act patience (.elsewhere driver ledger) = some h' ∧
      h'.dispatchers = h.dispatchers ∧ h'.installed = h.installed := by
  have hs : h.Settled := Settled.run (by simp [Settled]) hrun
  refine ⟨fun op => ?_, h.constructs, fun index t ms h' ht hmoves => hs.moved ht hmoves,
    fun index t ht htorn => ?_, fun driver ledger => ⟨_, rfl, rfl, rfl⟩⟩
  · exact ⟨_, rfl, rfl, Script.sink_perform op _⟩
  · have hstep : (h.station t).step t.driver patience .tearDown = some (h.station t, none) :=
      if_pos htorn
    rw [act, ht, Option.bind_some, hstep, Option.map_some]
    exact congrArg some (withStation_station ht)

/-! ### A shared sink -/

section

open Station.Run

/-- Two dispatchers with the same sink. -/
def shared : Config := { Config.standard with sink := some ⟨"shared"⟩ }

/-- The moves of a whole teardown of a dispatcher that has had no jobs; there are more of them when
closing the device fails. -/
def teardown (winds : Nat) : List Station.Move :=
  .tearDown :: List.replicate 2 .wind ++ List.replicate 4 (.work 0) ++ List.replicate winds .wind

/-- The dispatchers are brought up, the first one is torn down, and a caller installs a sink. -/
def handover : List (Act Simulator) :=
  .construct (Simulator.driver backwards) none shared ::
    .construct (Simulator.driver backwards) none shared ::
    moves 0 (teardown 11) ++ [.logging (.install ⟨"other"⟩)]

/-- What is left of them. -/
def afterHandover : Option (SharedLog Simulator) :=
  run Simulator.patience handover ⟨⟨Simulator.fresh oneSlot, default⟩, default, []⟩

theorem state_afterHandover :
    afterHandover.map (fun h => (h.installed, h.dispatchers.map (·.configured),
      h.dispatchers.map (·.dispatcher.tornDown),
      (run Simulator.patience (moves 1 (teardown 18)) h).map fun h' =>
        h'.dispatchers.map (·.dispatcher.isOver))) =
      some (some ⟨"other"⟩, [some ⟨"shared"⟩, some ⟨"shared"⟩], [true, false],
        some [true, true]) := by
  decide +kernel

/-- The second teardown leaves the sink of the caller in place, and so does tearing the first
dispatcher down again. -/
theorem sink_ownership_handover :
    ∃ h h' t, afterHandover = some h ∧
      run Simulator.patience (moves 1 (teardown 18)) h = some h' ∧ h'.dispatchers[1]? = some t ∧
      t.dispatcher.isOver = true ∧ h'.installed = some ⟨"other"⟩ ∧
      h.act Simulator.patience (.move 0 .tearDown) = some h := by
  obtain ⟨h, hrun, hstate⟩ := Option.map_eq_some_iff.1 state_afterHandover
  simp only [Prod.mk.injEq] at hstate
  obtain ⟨hother, hconfigured, htorn, hmoves⟩ := hstate
  obtain ⟨h', hmoves, hover⟩ := Option.map_eq_some_iff.1 hmoves
  obtain ⟨-, -, hmoved, hagain, -⟩ := sink_ownership hrun
  obtain ⟨first, second, hdispatchers⟩ : ∃ first second, h.dispatchers = [first, second] := by
    have hlength := congrArg List.length hconfigured
    rw [List.length_map] at hlength
    exact List.length_eq_two.1 hlength
  rw [hdispatchers] at hconfigured htorn
  simp only [List.map_cons, List.map_nil, List.cons.injEq, and_true] at hconfigured htorn
  obtain ⟨t, ht⟩ := hmoved 1 second (teardown 18) h' (by rw [hdispatchers]; rfl) hmoves
  refine ⟨h, h', t, hrun, hmoves, ht.dispatcher, ?_, ht.others _ hother ?_, ?_⟩
  · have hat := congrArg (·[1]?) hover
    simpa [ht.dispatcher] using hat
  · rw [hconfigured.2]
    decide
  · exact hagain 0 first (by rw [hdispatchers]; rfl) htorn.1

end

end SharedLog

end Offload

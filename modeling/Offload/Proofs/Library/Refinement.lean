/-
**A driver and the library that forwards to it, in use.**

Whatever callers do with a driver, they get the same when it comes through a library that forwards
to it, and the driver ends in the same state: every run of the one is a run of the other with the
same operations, the same interference and the same jobs, and only errors tell the two apart, whose
texts have been through a buffer.  With a library more is logged than with the driver at hand, which
takes steps of its own.

Main definitions:

* `DriverRun.Retold` — **what two runs have in common**;
* `DriverRun.Stretches` — the same turns, of which some are repeated;
* `DriverRun.Mirrors` — runs at the same place.

Main results:

* `DriverRun.mirrors_step` — **a step of the one is a step of the other, unless the other logs a line
  alone**;
* `DriverRun.forwarding_refines` — **a driver library refines the driver that it forwards to, and the
  other way round**.
-/

import Offload.Proofs.Dispatcher.Mirrored
import Offload.Proofs.Dispatcher.RoundTrip
import Offload.Proofs.Library.DriverRun

set_option autoImplicit false
set_option relaxedAutoImplicit false

namespace Offload

open Native

namespace DriverRun

variable {σ : Type} {f : String → String}

/-! ### What can be seen -/

/-- What a caller gets, where the texts of the driver in errors have gone through `f`. -/
inductive Result.Retold (f : String → String) : Result → Result → Prop
  | opened {r r' : Outcome Capabilities} (h : Outcome.Mirrors (Error.Retold f) Eq r r') :
      Retold f (.opened r) (.opened r')
  | value (r : Outcome Script.Value) : Retold f (.value r) (.value (r.retold f))
  | closed (wasOpen : Bool) : Retold f (.closed wasOpen) (.closed wasOpen)
  | trapped : Retold f .trapped .trapped
  | looked (resolved : Bool) : Retold f (.looked resolved) (.looked resolved)
  | taken (r : Outcome Bytes) : Retold f (.taken r) (.taken (r.retold f))

/-- Two runs with the same state of the driver, the same results, the same routing and the same
statistics, but for the texts of the driver in errors, which have gone through `f`. -/
structure Retold (f : String → String) (b b' : DriverRun σ) : Prop where
  driver : b'.world.driver = b.world.driver
  results : List.Forall₂ (Option.Rel (Result.Retold f)) (b.errands.map Errand.result?)
    (b'.errands.map Errand.result?)
  ledger : b'.ledger = b.ledger.retold f
  history : b'.history = b.history.map fun e => (e.1, e.2.retold f)
  stats : b'.dispatchers.map (·.pool.stats) = b.dispatchers.map (·.pool.stats)
  tornDown : b'.dispatchers.map (·.tornDown) = b.dispatchers.map (·.tornDown)
  isOpen : b'.devices.map (·.isOpen) = b.devices.map (·.isOpen)

/-- The turn of a caller or of a teardown, which may have to log a line first. -/
def Turn.mayLag : Turn σ → Bool
  | .goOn _ | .move _ .wind => true
  | _ => false

/-- The same turns, of which those that may have to log a line first are repeated. -/
inductive Stretches : List (Turn σ) → List (Turn σ) → Prop
  | nil : Stretches [] []
  | cons (t : Turn σ) {ts ts' : List (Turn σ)} (h : Stretches ts ts') :
      Stretches (t :: ts) (t :: ts')
  | extra (t : Turn σ) (ht : t.mayLag = true) {ts ts' : List (Turn σ)} (h : Stretches ts ts') :
      Stretches ts (t :: ts')

theorem Stretches.append {ts ts' us us' : List (Turn σ)} (h : Stretches ts ts')
    (h' : Stretches us us') : Stretches (ts ++ us) (ts' ++ us') := by
  induction h with
  | nil => exact h'
  | cons t _ ih => exact .cons t ih
  | extra t ht _ ih => exact .extra t ht ih

/-! ### Runs at the same place -/

/-- What operations come to, with related devices and dispatchers. -/
inductive Yield.Mirrors (f : String → String) (path : String) : Yield → Yield → Prop
  | device {r r' : Outcome Device}
      (h : Outcome.Mirrors (Error.Retold f) (Device.Mirrors (some path)) r r') :
      Mirrors f path (.device r) (.device r')
  | value (r : Outcome Script.Value) : Mirrors f path (.value r) (.value (r.retold f))
  | closed (device : Nat) (wasOpen : Bool) {d d' : Device} (h : d.Mirrors (some path) d') :
      Mirrors f path (.closed device (wasOpen, d)) (.closed device (wasOpen, d'))
  | dispatcher {r r' : Outcome Dispatcher}
      (h : Outcome.Mirrors (Error.Retold f) (Dispatcher.Mirrors f (some path)) r r') :
      Mirrors f path (.dispatcher r) (.dispatcher r')

/-- Operations of callers that have come equally far. -/
inductive Errand.Mirrors (f : String → String) (path : String) : Errand → Errand → Prop
  | underway (operation : Operation) {rest rest' : Program Yield}
      (h : rest.Mirrors f true (Yield.Mirrors f path) rest') :
      Mirrors f path (.underway operation rest) (.underway operation rest')
  | waiting (operation : Operation) (o : Op) {next next' : o.Answer → Program Yield}
      (h : ∀ x, (next x).Mirrors f true (Yield.Mirrors f path) (next' (o.mirror f x))) :
      Mirrors f path (.waiting operation o next) (.waiting operation o next')
  | ended {r r' : Result} (h : r.Retold f r') : Mirrors f path (.ended r) (.ended r')

/-- A run with the driver at hand, and one whose driver comes from the library at a path, at the
same place. -/
structure Mirrors (f : String → String) (path : String) (b b' : DriverRun σ) : Prop where
  driver : b'.world.driver = b.world.driver
  ledger : b'.ledger = b.ledger.retold f
  devices : List.Forall₂ (Device.Mirrors (some path)) b.devices b'.devices
  dispatchers : List.Forall₂ (Dispatcher.Mirrors f (some path)) b.dispatchers b'.dispatchers
  errands : List.Forall₂ (Errand.Mirrors f path) b.errands b'.errands
  history : b'.history = b.history.map fun e => (e.1, e.2.retold f)

variable {path : String} {b b' : DriverRun σ}

/-- Such runs differ in the texts of errors only. -/
theorem Mirrors.retold (h : b.Mirrors f path b') : b.Retold f b' where
  driver := h.driver
  results := by
    rw [List.forall₂_map_left_iff, List.forall₂_map_right_iff]
    refine h.errands.imp fun errand errand' herrand => ?_
    cases herrand with
    | underway | waiting => exact .none
    | ended h => exact .some h
  ledger := h.ledger
  history := h.history
  stats := map_eq_of_forall₂ h.dispatchers fun _ _ hd => hd.pool.stats
  tornDown := map_eq_of_forall₂ h.dispatchers fun _ _ hd => hd.tornDown
  isOpen := map_eq_of_forall₂ h.devices fun _ _ hd => by
    rw [Device.isOpen, Device.isOpen, hd.session]

theorem Mirrors.inHand (h : b.Mirrors f path b') : b'.inHand = b.inHand := by
  have hoperations : b'.errands.map Errand.operation? = b.errands.map Errand.operation? :=
    map_eq_of_forall₂ h.errands fun _ _ herrand => by cases herrand <;> rfl
  have hfilter := congrArg (List.filterMap id) hoperations
  rwa [List.filterMap_map, List.filterMap_map] at hfilter

theorem Mirrors.isHindered (h : b.Mirrors f path b') {d d' : Dispatcher}
    (hd : d.Mirrors f (some path) d') (n : Nat) : b'.isHindered n d' = b.isHindered n d := by
  have hteardown := hd.teardown
  rw [DriverRun.isHindered, DriverRun.isHindered, h.inHand, hd.pool.closing]
  generalize d.teardown = teardown at hteardown
  generalize d'.teardown = teardown' at hteardown
  cases hteardown <;> cases d.pool.closing <;> rfl

/-! ### Operations -/

theorem mirrors_map {α β γ δ : Type} {lag : Bool} {R : α → β → Prop} {R' : γ → δ → Prop}
    {p : Program α} {p' : Program β} (hp : p.Mirrors f lag R p') {g : α → γ} {g' : β → δ}
    (hg : ∀ a b, R a b → R' (g a) (g' b)) : (g <$> p).Mirrors f lag R' (g' <$> p') := by
  rw [map_eq_pure_bind, map_eq_pure_bind]
  exact mirrors_bind hp fun a b h => .done (hg a b h)

theorem mirrors_value {p p' : Program (Outcome Script.Value)} {lag : Bool}
    (hp : p.Mirrors f lag (Outcome.Mirrors (Error.Echoes f) Eq) p') :
    (Yield.value <$> p).Mirrors f lag (Yield.Mirrors f path) (Yield.value <$> p') := by
  refine mirrors_map hp fun r r' hr => ?_
  rw [hr.eq_retold]
  exact .value r

variable {linker : Library.Linker}

theorem mirrors_bringUp {α : Type} {R : Outcome α → Outcome α → Prop}
    (hloads : Library.Loads linker path) {up : Option String → Action α}
    (hup : (up none).run.Mirrors f true R (up (some path)).run) :
    (Supply.direct.bringUp up).run.Mirrors f true R
      ((Supply.library linker path).bringUp up).run :=
  Library.mirrors_load hloads hup

/-- **An operation is the same program in both runs.** -/
theorem mirrors_program (hnull : f View.nullText = View.nullText)
    (hloads : Library.Loads linker path) (h : b.Mirrors f path b') (operation : Operation) :
    Option.Rel (Program.Mirrors f true (Yield.Mirrors f path)) (operation.program .direct b)
      (operation.program (.library linker path) b') := by
  cases operation with
  | openDevice endpoint params =>
      refine .some (mirrors_map (mirrors_bringUp hloads ?_) fun _ _ h => .device h)
      exact Device.mirrors_bringUp (some path) endpoint params
  | onDevice n op =>
      exact rel_map (forall₂_getElem? h.devices n) fun _ _ hd =>
        mirrors_value (Device.mirrors_withSession hd (Script.echoing_action hnull op))
  | closeDevice n =>
      refine rel_map (forall₂_getElem? h.devices n) fun _ _ hd => ?_
      refine mirrors_map (Device.mirrors_close hd) fun r r' hr => ?_
      obtain ⟨wasOpen, d⟩ := r
      obtain ⟨wasOpen', d'⟩ := r'
      obtain ⟨rfl, hd⟩ : wasOpen' = wasOpen ∧ _ := hr
      exact .closed n wasOpen' hd
  | withDriver config =>
      refine .some (mirrors_map (mirrors_bringUp hloads ?_) fun _ _ h => .dispatcher h)
      exact Dispatcher.mirrors_bringUp (some path) config
  | openDispatcher config =>
      exact .some (mirrors_map (Dispatcher.mirrors_load hloads config) fun _ _ h => .dispatcher h)
  | onDispatcher n op =>
      refine rel_bind (forall₂_getElem? h.dispatchers n) fun d d' hd => ?_
      have hteardown := hd.teardown
      generalize d.teardown = teardown at hteardown
      generalize d'.teardown = teardown' at hteardown
      cases hteardown with
      | closing => exact .none
      | _ =>
          exact .some
            (mirrors_value (Device.mirrors_withSession hd.device (Script.echoing_register op)))

/-! ### Steps -/

theorem Mirrors.withWorld (h : b.Mirrors f path b') {world world' : World σ}
    (hworld : world'.driver = world.driver) :
    Mirrors f path { b with world } { b' with world := world' } :=
  { h with driver := hworld }

theorem Mirrors.withDevices (h : b.Mirrors f path b') {devices devices' : List Device}
    (hdevices : List.Forall₂ (Device.Mirrors (some path)) devices devices') :
    Mirrors f path { b with devices } { b' with devices := devices' } :=
  { h with devices := hdevices }

theorem Mirrors.withDispatchers (h : b.Mirrors f path b')
    {dispatchers dispatchers' : List Dispatcher}
    (hdispatchers : List.Forall₂ (Dispatcher.Mirrors f (some path)) dispatchers dispatchers') :
    Mirrors f path { b with dispatchers } { b' with dispatchers := dispatchers' } :=
  { h with dispatchers := hdispatchers }

theorem Mirrors.withLedger (h : b.Mirrors f path b') (ledger : Ledger) :
    Mirrors f path { b with ledger } { b' with ledger := ledger.retold f } :=
  { h with ledger := rfl }

theorem Mirrors.setErrand (h : b.Mirrors f path b') (n : Nat) {errand errand' : Errand}
    (herrand : errand.Mirrors f path errand') :
    (b.setErrand n errand).Mirrors f path (b'.setErrand n errand') :=
  { h with errands := forall₂_set h.errands n herrand }

theorem Mirrors.hand (h : b.Mirrors f path b') {r r' : Result} (hr : r.Retold f r') :
    (b.hand r).Mirrors f path (b'.hand r') :=
  { h with errands := forall₂_concat h.errands (.ended hr) }

/-- **An operation ends in the same way in both runs.** -/
theorem Mirrors.deliver (h : b.Mirrors f path b') (n : Nat) {yield yield' : Yield}
    (hyield : yield.Mirrors f path yield') :
    (b.deliver n yield).Mirrors f path (b'.deliver n yield') := by
  cases hyield with
  | device hr =>
      cases hr with
      | ok hd =>
          have hopened := hd.capabilities
          refine (h.withDevices (forall₂_concat h.devices hd)).setErrand n ?_
          exact .ended (.opened (.ok hopened.symm))
      | error he => exact h.setErrand n (.ended (.opened (.error he)))
  | value r => exact h.setErrand n (.ended (.value r))
  | closed device wasOpen hd =>
      exact (h.withDevices (forall₂_set h.devices device hd)).setErrand n (.ended (.closed wasOpen))
  | dispatcher hr =>
      cases hr with
      | ok hd =>
          have hopened := hd.device.capabilities
          refine (h.withDispatchers (forall₂_concat h.dispatchers hd)).setErrand n ?_
          exact .ended (.opened (.ok hopened.symm))
      | error he => exact h.setErrand n (.ended (.opened (.error he)))

theorem Mirrors.withStation (h : b.Mirrors f path b') (n : Nat)
    {r r' : Station σ × Option Pool.Event} (hr : Station.MirroredStep f (some path) r r') :
    (b.withStation n r).Mirrors f path (b'.withStation n r') where
  driver := hr.state.driver
  ledger := hr.state.ledger
  devices := h.devices
  dispatchers := forall₂_set h.dispatchers n hr.state.dispatcher
  errands := h.errands
  history := by
    show b'.history ++ r'.2.toList.map _ = (b.history ++ r.2.toList.map _).map _
    rw [List.map_append, h.history, hr.event]
    cases r.2 <;> rfl

variable {D E : Driver σ} (patience : σ → Nat)

theorem Mirrors.goOn (h : b.Mirrors f path b') (n : Nat) (operation : Operation) {o o' : Op}
    {next : o.Answer → Program Yield} {next' : o'.Answer → Program Yield}
    {r : o.Answer × World σ} {r' : o'.Answer × World σ} (hworld : r'.2.driver = r.2.driver)
    (hnext : (next r.1).Mirrors f true (Yield.Mirrors f path) (next' r'.1)) :
    (b.goOn n operation next r).Mirrors f path (b'.goOn n operation next' r') :=
  (h.withWorld hworld).setErrand n (.underway operation hnext)

/-- The number of lines that an operation logs before it does anything else. -/
def Errand.lead : Errand → Nat
  | .underway _ rest => rest.lead
  | _ => 0

/-- **The next step of a caller**: in the run whose driver comes from a library, it may be to log
a line. -/
theorem mirrors_advance (htwins : Twins f D E) (h : b.Mirrors f path b') (n : Nat)
    {errand errand' : Errand} (herrand : errand.Mirrors f path errand')
    (hn : b.errands[n]? = some errand) (hn' : b'.errands[n]? = some errand') :
    Option.Rel (Mirrors f path) (b.advance D n errand) (b'.advance E n errand') ∨
      ∃ b₁', b'.advance E n errand' = some b₁' ∧ b.Mirrors f path b₁' ∧
        ∃ errand₁', b₁'.errands[n]? = some errand₁' ∧ errand₁'.lead < errand'.lead := by
  cases herrand with
  | ended hr => exact .inl .none
  | waiting operation o hnext =>
      refine .inl ?_
      obtain ⟨hanswer, hworld⟩ := htwins.resumed h.driver o
      simp only [advance, htwins.isStillBlocked h.driver]
      split
      · exact .none
      · exact .some (h.goOn n operation hworld (by rw [hanswer]; exact hnext _))
  | underway operation hrest =>
      cases hrest with
      | done hyield => exact .inl (.some (h.deliver n hyield))
      | step o hnext =>
          refine .inl ?_
          have htrapped := htwins.trapped h.driver o
          simp only [advance, htwins.isBlocked h.driver]
          revert htrapped
          generalize D.trapped? o b.world = trapped
          generalize E.trapped? o b'.world = trapped'
          rintro (hleft | _)
          · exact .some ((h.withWorld hleft).setErrand n (.ended .trapped))
          · dsimp only
            split
            · exact .some (h.setErrand n (.waiting operation o hnext))
            · obtain ⟨hanswer, hworld⟩ := htwins.answer h.driver o
              exact .some (h.goOn n operation hworld (by rw [hanswer]; exact hnext _))
      | log request request' hnext => exact .inl (.some (h.goOn n operation h.driver hnext))
      | @extra _ request _ next' hnext =>
          -- the other caller stays where it is
          have herrands := forall₂_set_right h.errands hn (.underway operation hnext)
          refine .inr ⟨_, rfl, { h with errands := herrands }, .underway operation (next' ()), ?_,
            Nat.lt_succ_self _⟩
          obtain ⟨hlt, -⟩ := List.getElem?_eq_some_iff.1 hn'
          exact List.getElem?_set_self hlt

/-- **A step of a dispatcher**: a teardown may have to log a line first. -/
theorem mirrors_moveOf (hnull : f View.nullText = View.nullText) (htwins : Twins f D E)
    (h : b.Mirrors f path b') (n : Nat) (move : Station.Move) :
    Option.Rel (Mirrors f path) (b.moveOf D patience n move) (b'.moveOf E patience n move) ∨
      move = .wind ∧ ∃ b₁', b'.moveOf E patience n move = some b₁' ∧ b.Mirrors f path b₁' ∧
        ∃ d' d₁', b'.dispatchers[n]? = some d' ∧ b₁'.dispatchers[n]? = some d₁' ∧
          d₁'.teardown.lead < d'.teardown.lead := by
  have hdispatcher := forall₂_getElem? h.dispatchers n
  rw [moveOf, moveOf]
  generalize hd : b.dispatchers[n]? = d at hdispatcher
  generalize hd' : b'.dispatchers[n]? = d' at hdispatcher
  cases hdispatcher with
  | none => exact .inl .none
  | @some d d' hrel =>
      rw [Option.bind_some, Option.bind_some, h.isHindered hrel]
      split
      · exact .inl .none
      · have hstation : (b.station d).Mirrors f (some path) (b'.station d') :=
          ⟨h.driver, h.ledger, hrel⟩
        rcases Station.mirrors_step patience hnull htwins hstation move with
          hstep | ⟨hwind, s₁', hs', hs₁', hlead⟩
        · exact .inl (rel_map hstep fun _ _ hr => h.withStation n hr)
        · -- the other dispatcher stays where it is
          have hdispatchers := forall₂_set_right h.dispatchers hd hs₁'.dispatcher
          have hhistory : b'.history ++ [] = b.history.map fun e => (e.1, e.2.retold f) := by
            rw [List.append_nil, h.history]
          refine .inr ⟨hwind, b'.withStation n (s₁', none), by rw [hs']; rfl,
            ⟨hs₁'.driver, hs₁'.ledger, h.devices, hdispatchers, h.errands, hhistory⟩,
            d', s₁'.dispatcher, rfl, ?_, hlead⟩
          obtain ⟨hlt, -⟩ := List.getElem?_eq_some_iff.1 hd'
          exact List.getElem?_set_self hlt

/-! ### Runs -/

/-- The number of lines that a turn is to log before it does anything else. -/
def lead (b : DriverRun σ) : Turn σ → Nat
  | .goOn n => (b.errands[n]?.map Errand.lead).getD 0
  | .move n _ => (b.dispatchers[n]?.map fun d => d.teardown.lead).getD 0
  | _ => 0

/-- **A step of the one is a step of the other, unless the other logs a line alone.** -/
theorem mirrors_step (hnull : f View.nullText = View.nullText) (htwins : Twins f D E)
    (hloads : Library.Loads linker path) (h : b.Mirrors f path b') (t : Turn σ) :
    Option.Rel (Mirrors f path) (b.step D .direct patience t)
        (b'.step E (.library linker path) patience t) ∨
      t.mayLag = true ∧ ∃ b₁', b'.step E (.library linker path) patience t = some b₁' ∧
        b.Mirrors f path b₁' ∧ b₁'.lead t < b'.lead t := by
  cases t with
  | meddle change => exact .inl (.some (h.withWorld (congrArg change h.driver)))
  | begin operation =>
      refine .inl ?_
      simp only [step, h.inHand]
      split
      · exact .none
      · exact rel_map (mirrors_program hnull hloads h operation) fun _ _ hrest =>
          { h with errands := forall₂_concat h.errands (.underway operation hrest) }
  | goOn n =>
      have herrand := forall₂_getElem? h.errands n
      simp only [step, lead]
      generalize hn : b.errands[n]? = errand at herrand
      generalize hn' : b'.errands[n]? = errand' at herrand
      cases herrand with
      | none => exact .inl .none
      | some herrand =>
          -- the other program may have a line to log first: then the errand of this one stays put
          rcases mirrors_advance htwins h n herrand hn hn' with
            hadvance | ⟨b₁', hb₁', hmirrors, errand₁', herrand₁', hlead⟩
          · exact .inl hadvance
          · refine .inr ⟨rfl, b₁', hb₁', hmirrors, ?_⟩
            rw [herrand₁']
            exact hlead
  | execute n input =>
      refine .inl ?_
      have hissue := b.ledger.issue_retold (f := f)
      simp only [step, h.ledger, hissue]
      rcases mirrors_moveOf patience hnull htwins (h.withLedger b.ledger.issue.2) n
        (.execute ⟨b.ledger.issue.1, input⟩) with hmove | ⟨hwind, -⟩
      · exact hmove
      · cases hwind
  | move n move =>
      simp only [step]
      split
      · exact .inl .none
      · rcases mirrors_moveOf patience hnull htwins h n move with
          hmove | ⟨rfl, b₁', hb₁', hmirrors, d', d₁', hd', hd₁', hlead⟩
        · exact .inl hmove
        · refine .inr ⟨rfl, b₁', hb₁', hmirrors, ?_⟩
          simp only [lead, hd', hd₁']
          exact hlead
  | look ticket waker =>
      refine .inl ?_
      have hlook := b.ledger.look_retold (f := f) ticket waker
      simp only [step, h.ledger, hlook]
      exact .some ((h.withLedger _).hand (.looked _))
  | take ticket =>
      refine .inl ?_
      have htake := b.ledger.take_retold (f := f) ticket
      simp only [step, h.ledger, htake, Ledger.isResolved_retold]
      split
      · exact .some ((h.withLedger _).hand (.taken _))
      · exact .none

section

variable (hnull : f View.nullText = View.nullText) (htwins : Twins f D E)
  (hloads : Library.Loads linker path)

include hnull htwins hloads

/-- Whatever the one does in a step, the other does after the lines that it has to log first. -/
theorem exists_run_of_step (h : b.Mirrors f path b') {t : Turn σ} {b₁ : DriverRun σ}
    (hs : b.step D .direct patience t = some b₁) :
    ∃ ts' b₁', Stretches [t] ts' ∧
      run E (.library linker path) patience ts' b' = some b₁' ∧ b₁.Mirrors f path b₁' := by
  -- by induction on the number of these lines
  induction hn : b'.lead t using Nat.strongRecOn generalizing b' with
  | ind n ih =>
    rcases mirrors_step patience hnull htwins hloads h t with
      hrel | ⟨hlag, b₂', hs', h', hlead⟩
    · rw [hs] at hrel
      generalize hs' : b'.step E (.library linker path) patience t = r at hrel
      obtain ⟨h₁⟩ := hrel
      exact ⟨[t], _, .cons t .nil, foldlM_cons_of_eq_some hs', h₁⟩
    · obtain ⟨ts', b₁', hts, hrun, h₁⟩ := ih _ (hn ▸ hlead) h' rfl
      exact ⟨t :: ts', b₁', .extra t hlag hts, (foldlM_cons_of_eq_some hs').trans hrun, h₁⟩

/-- **Every run of the one is a run of the other.** -/
theorem exists_run_of_run {ts : List (Turn σ)} {b₁ : DriverRun σ} (h : b.Mirrors f path b')
    (hrun : run D .direct patience ts b = some b₁) :
    ∃ ts' b₁', Stretches ts ts' ∧
      run E (.library linker path) patience ts' b' = some b₁' ∧ b₁.Mirrors f path b₁' := by
  induction ts generalizing b b' with
  | nil =>
      cases hrun
      exact ⟨[], b', .nil, rfl, h⟩
  | cons t ts ih =>
      obtain ⟨b₂, hs, hrest⟩ := Option.bind_eq_some_iff.1 hrun
      obtain ⟨us, b₂', hus, hrun₂, h₂⟩ := exists_run_of_step patience hnull htwins hloads h hs
      obtain ⟨ts', b₁', hts, hrun₁, h₁⟩ := ih h₂ hrest
      exact ⟨us ++ ts', b₁', hus.append hts, foldlM_append_eq_some.2 ⟨_, hrun₂, hrun₁⟩, h₁⟩

/-- **And every run of the other is a run of the one**, without the lines that it logs alone. -/
theorem exists_run_of_run_library {ts' : List (Turn σ)} {b₁' : DriverRun σ} (h : b.Mirrors f path b')
    (hrun : run E (.library linker path) patience ts' b' = some b₁') :
    ∃ ts b₁, Stretches ts ts' ∧
      run D .direct patience ts b = some b₁ ∧ b₁.Mirrors f path b₁' := by
  induction ts' generalizing b b' with
  | nil =>
      cases hrun
      exact ⟨[], b, .nil, rfl, h⟩
  | cons t ts' ih =>
      obtain ⟨b₂', hs', hrest⟩ := Option.bind_eq_some_iff.1 hrun
      rcases mirrors_step patience hnull htwins hloads h t with
        hrel | ⟨hlag, b₃', hs₃', h₃, -⟩
      · rw [hs'] at hrel
        generalize hs : b.step D .direct patience t = r at hrel
        obtain ⟨h₂⟩ := hrel
        obtain ⟨ts, b₁, hts, hrun₁, h₁⟩ := ih h₂ hrest
        exact ⟨t :: ts, b₁, .cons t hts, (foldlM_cons_of_eq_some hs).trans hrun₁, h₁⟩
      · obtain rfl : b₃' = b₂' := Option.some.inj (hs₃'.symm.trans hs')
        obtain ⟨ts, b₁, hts, hrun₁, h₁⟩ := ih h₃ hrest
        exact ⟨ts, b₁, .extra t hlag hts, hrun₁, h₁⟩

end

/-! ### Forwarding libraries -/

/-- What the library itself says about a null pointer comes through the buffer as it is. -/
theorem throughBuffer_nullText : Library.throughBuffer View.nullText = View.nullText :=
  Library.throughBuffer_of_fits (by decide +kernel) (by decide +kernel)

theorem mirrors_fresh (s : σ) (router router' : Log.Router) :
    (fresh s router).Mirrors f path (fresh s router') :=
  ⟨rfl, rfl, .nil, .nil, .nil, rfl⟩

/-- **A driver library refines the driver that it forwards to, and the other way round.**  Every run
with the driver at hand is a run with a library whose entry points forward to it, and every run with
such a library is a run with the driver at hand: with the same operations, jobs and interference
from outside, the same results, routing and statistics, and the same state of the driver at the end.
Only the driver's texts in errors are what a buffer of fixed size leaves of them. -/
theorem forwarding_refines (D : Driver σ) (patience : σ → Nat) {full : Int32} (hfull : full ≠ 0)
    (hloads : Library.Loads linker path) (s : σ) (router router' : Log.Router) :
    (∀ ts b, run D .direct patience ts (fresh s router) = some b →
      ∃ ts' b', Stretches ts ts' ∧
        run (Library.driver (Library.forwarding D full .success)) (.library linker path) patience
          ts' (fresh s router') = some b' ∧
        b.Retold Library.throughBuffer b') ∧
    (∀ ts' b',
      run (Library.driver (Library.forwarding D full .success)) (.library linker path) patience ts'
        (fresh s router') = some b' →
      ∃ ts b, Stretches ts ts' ∧ run D .direct patience ts (fresh s router) = some b ∧
        b.Retold Library.throughBuffer b') := by
  have htwins := Library.twins_forwarding D hfull
  have hfresh : (fresh s router).Mirrors Library.throughBuffer path (fresh s router') :=
    mirrors_fresh s router router'
  constructor
  · intro ts b hrun
    obtain ⟨ts', b', hts, hrun', h⟩ :=
      exists_run_of_run patience throughBuffer_nullText htwins hloads hfresh hrun
    exact ⟨ts', b', hts, hrun', h.retold⟩
  · intro ts' b' hrun'
    obtain ⟨ts, b, hts, hrun, h⟩ :=
      exists_run_of_run_library patience throughBuffer_nullText htwins hloads hfresh hrun'
    exact ⟨ts, b, hts, hrun, h.retold⟩

/-- A file that exports every entry point. -/
def oneLibrary : Library.Linker := Library.linkerOf [("driver.so", Library.symbols)]

/-- A caller opens a device; then somebody leaves a text with a NUL behind, and a judgement fails
that asks for it. -/
def failedCheck : List (Turn Simulator) :=
  [.begin (.openDevice 0 ⟨none, none, false⟩)] ++ List.replicate 7 (.goOn 0) ++
    [.meddle (Simulator.setLastError 7 "out\x00of range"),
      .begin (.onDevice 0 (.check .registerOutOfRange))] ++ List.replicate 4 (.goOn 1)

theorem results_failedCheck :
    (run (Simulator.driver Station.Run.backwards) .direct Simulator.patience failedCheck
      (fresh (Simulator.fresh Station.Run.oneSlot) .default)).map
        (fun b => b.errands.map Errand.result?) =
    some [some (.opened (.ok ⟨16, 1, 64⟩)),
      some (.value (.error (.deviceOperation .registerOutOfRange 7 "out\x00of range")))] := by
  decide +kernel

/-- With a library, the text ends where the NUL stood. -/
theorem forwarding_refines_failedCheck :
    (1 : Int32) ≠ 0 ∧ Library.Loads oneLibrary "driver.so" ∧
      ∃ ts' b', Stretches failedCheck ts' ∧
        run (Library.driver
            (Library.forwarding (Simulator.driver Station.Run.backwards) 1 .success))
          (.library oneLibrary "driver.so") Simulator.patience ts'
          (fresh (Simulator.fresh Station.Run.oneSlot) .default) = some b' ∧
        b'.errands.map Errand.result? = [some (.opened (.ok ⟨16, 1, 64⟩)),
          some (.value (.error (.deviceOperation .registerOutOfRange 7 "out")))] := by
  have hloads : Library.Loads oneLibrary "driver.so" := ⟨by decide, _, rfl, by decide⟩
  obtain ⟨b, hrun, hresults⟩ := Option.map_eq_some_iff.1 results_failedCheck
  obtain ⟨ts', b', hts, hrun', hretold⟩ :=
    (forwarding_refines (Simulator.driver Station.Run.backwards) Simulator.patience
      (show (1 : Int32) ≠ 0 by decide) hloads (Simulator.fresh Station.Run.oneSlot) .default
      .default).1 failedCheck b hrun
  refine ⟨by decide, hloads, ts', b', hts, hrun', ?_⟩
  have htext : Library.throughBuffer "out\x00of range" = "out" := by decide +kernel
  have hboth := hretold.results
  rw [hresults] at hboth
  generalize b'.errands.map Errand.result? = results at hboth
  cases hboth with
  | cons hopened hrest =>
      cases hrest with
      | cons hvalue hnil =>
          obtain ⟨⟨⟨⟨⟩⟩⟩⟩ := hopened
          obtain ⟨⟨⟩⟩ := hvalue
          cases hnil
          rw [Outcome.retold, Error.retold, htext]

end DriverRun

end Offload

/-
**The states of a dispatcher, on any driver.**

Whatever a driver answers while a dispatcher is brought up and afterwards, and whatever others do
with the driver and with completions in between, a dispatcher has at least one slot, its pool is open
until somebody tears the dispatcher down, and those who wait for its lock hold completions that have
been issued.

Main definitions:

* `Native.Program.Ends` — what a program comes to, whatever it is answered;
* `Dispatcher.IsNew` — a dispatcher that nobody has done anything with;
* `Station.Reached` — **the states that a dispatcher can get into**;
* `Station.Receptive` — what holds in all of them.

Main results:

* `Dispatcher.ends_bringUp` — a dispatcher that has just been brought up is new;
* `Station.Receptive.transition` — every step keeps a dispatcher receptive;
* `Station.Reached.receptive` — **every state is receptive**.
-/

import Offload.Proofs.Dispatcher.Transition
import Offload.Proofs.Native.Meets
import Offload.Proofs.Pool.Ticket

set_option autoImplicit false
set_option relaxedAutoImplicit false

namespace Offload

open Native

/-! ### Bringing up, on any driver -/

namespace Native

/-- A program that may be answered in any way. -/
def freeSpec : OpSpec Unit := everySpec fun _ => True

/-- A program ends as it should, whatever it is answered. -/
abbrev Program.Ends {α : Type} (p : Program α) (P : α → Prop) : Prop :=
  p.Meets freeSpec (fun a _ => P a) ()

variable {α β : Type}

theorem Program.ends_true (p : Program α) : p.Ends fun _ => True := by
  induction p with
  | done a => trivial
  | step o next ih => exact ⟨trivial, ih⟩

theorem ends_after (a : Action β) {f : β → Action α} {P : Outcome α → Prop}
    (hf : ∀ x, (f x).run.Ends P) (herror : ∀ e, P (.error e)) : (a >>= f).run.Ends P := by
  refine (meets_action_bind a f).2 (a.run.ends_true.mono everySpec_isMono fun r _ _ => ?_)
  cases r with
  | ok x => exact hf x
  | error e => exact herror e

theorem ends_outcome {a : Action β} {f : Outcome β → Action α} {R : β → Prop}
    {P : Outcome α → Prop} (ha : a.run.Ends fun r => ∀ x, r = .ok x → R x)
    (hf : ∀ x, R x → (f (.ok x)).run.Ends P) (herror : ∀ e, (f (.error e)).run.Ends P) :
    (outcome a >>= f).run.Ends P := by
  rw [Program.Ends, meets_action_bind, meets_outcome]
  refine Program.Meets.mono everySpec_isMono ha fun r _ h => ?_
  cases r with
  | ok x => exact hf x (h x rfl)
  | error e => exact herror e

end Native

namespace Dispatcher

variable {d : Dispatcher}

/-- A dispatcher that nobody has done anything with. -/
structure IsNew (d : Dispatcher) : Prop where
  pool : ∃ n, 1 ≤ n ∧ d.pool = Pool.fresh n
  tornDown : d.tornDown = false
  teardown : d.teardown = .notBegun
  arrivals : d.arrivals = []

theorem ends_setUp (device : Device) :
    (setUp device).run.Ends fun r => ∀ p, r = .ok p → ∃ n, 1 ≤ n ∧ p = Pool.fresh n := by
  refine ends_after _ (fun _ => ends_after _ (fun _ => ?_) (by simp)) (by simp)
  by_cases hslots : device.capabilities.bufferCount.toNat = 0
  · simp only [hslots, if_true]
    exact (meets_action_bind _ _).2 (by rintro p ⟨⟩)
  · simp only [hslots, if_false, Pool.build]
    refine (meets_action_bind _ _).2 (ends_after _ (fun _ => ?_) (by simp))
    rintro p ⟨⟩
    exact ⟨_, Nat.one_le_iff_ne_zero.2 hslots, rfl⟩

theorem ends_bringUpDevice (library : Option String) (config : Config) :
    (bringUpDevice library config).run.Ends fun r =>
      ∀ x, r = .ok x → ∃ n, 1 ≤ n ∧ x.2 = Pool.fresh n := by
  rw [bringUpDevice]
  cases openParams config with
  | error e => exact ends_after _ (fun _ => by rintro p ⟨⟩) (by simp)
  | ok params =>
      refine ends_after _ (fun device => ?_) (by simp)
      refine ends_outcome (ends_setUp device) (fun pool hpool => ?_) fun e => ?_
      · rintro x ⟨⟩
        exact hpool
      · exact ends_after _ (fun _ => by rintro p ⟨⟩) (by simp)

/-- **A dispatcher that has just been brought up is new**, whatever the driver has answered. -/
theorem ends_bringUp (library : Option String) (config : Config) :
    (bringUp library config).run.Ends fun r => ∀ d, r = .ok d → d.IsNew := by
  refine ends_after _ (fun _ => ?_) (by simp)
  refine ends_outcome (ends_bringUpDevice library config) (fun x hpool => ?_) fun e => ?_
  · rintro d ⟨⟩
    exact ⟨hpool, rfl, rfl, rfl⟩
  · exact ends_after _ (fun _ => by rintro d ⟨⟩) (by simp)

variable {σ : Type} {D : Driver σ} {library : Option String} {config : Config}

theorem isNew_of_bringUp {meddle : World σ → World σ → Prop} {w w' : World σ}
    (h : (bringUp library config).run.Meddled D meddle w (.ok d) w') : d.IsNew := by
  have hends := ends_bringUp library config
  exact hends.meddled (fun _ => ()) (fun _ _ _ => rfl) (fun o k w hk => hk.2 _) h d rfl

end Dispatcher

/-! ### The pool -/

namespace Pool

variable {ρ S : Type} {exec : Executor ρ S} {s s' : Scheduler ρ S} {move : Move} {e : Option Event}

/-- A step issues no completion and takes none back. -/
theorem length_cells_of_transition (ht : Scheduler.Transition exec s move e s') :
    s'.ledger.cells.length = s.ledger.cells.length := by
  rcases ledger_of_transition ht with ⟨job, slot, outcome, -, h⟩ | ⟨-, h⟩
  · rw [h, Ledger.length_resolve]
  · rw [h]

end Pool

/-! ### The states of a dispatcher -/

namespace Station

variable {σ : Type} {D : Driver σ} {patience : σ → Nat} {s s' : Station σ} {move : Move}
  {e : Option Pool.Event}

section

variable (D : Driver σ) (patience : σ → Nat)

/-- The states that a dispatcher on a driver can get into.  Others may use the driver and the
completions at any time, and nobody takes completions back. -/
inductive Reached : Station σ → Prop
  | start {library : Option String} {config : Config} {meddle : World σ → World σ → Prop}
      {w w' : World σ} {d : Dispatcher} (ledger : Ledger)
      (hup : (Dispatcher.bringUp library config).run.Meddled D meddle w (.ok d) w') :
      Reached ⟨w', ledger, d⟩
  | execute {s s' : Station σ} {e : Option Pool.Event} (hs : Reached s) (input : Bytes)
      (ht : ({ s with ledger := s.ledger.issue.2 } : Station σ).step D patience
        (.execute ⟨s.ledger.issue.1, input⟩) = some (s', e)) : Reached s'
  | move {s s' : Station σ} {e : Option Pool.Event} (hs : Reached s) (move : Move)
      (hmove : ∀ job, move ≠ .execute job) (ht : s.step D patience move = some (s', e)) : Reached s'
  | aside {s : Station σ} (hs : Reached s) (w : World σ) (ledger : Ledger)
      (hledger : s.ledger.cells.length ≤ ledger.cells.length) :
      Reached ⟨w, ledger, s.dispatcher⟩

end

/-- A dispatcher that has a slot, whose pool is open until it is torn down, and whose callers hold
completions that have been issued. -/
structure Receptive (s : Station σ) : Prop where
  size : 1 ≤ s.dispatcher.pool.size
  untorn : s.dispatcher.tornDown = false →
    s.dispatcher.teardown = .notBegun ∧ s.dispatcher.pool.closed = false
  issued : ∀ job ∈ s.dispatcher.arrivals, job.ticket < s.ledger.cells.length

theorem Receptive.start {d : Dispatcher} (hd : d.IsNew) (w : World σ) (ledger : Ledger) :
    Receptive ⟨w, ledger, d⟩ := by
  obtain ⟨n, hn, hpool⟩ := hd.pool
  refine ⟨?_, fun _ => ⟨hd.teardown, ?_⟩, ?_⟩
  · simpa [hpool, Pool.fresh, Pool.size] using hn
  · simp [hpool, Pool.fresh]
  · simp [hd.arrivals]

theorem Receptive.aside (hs : s.Receptive) (w : World σ) {ledger : Ledger}
    (hledger : s.ledger.cells.length ≤ ledger.cells.length) :
    Receptive ⟨w, ledger, s.dispatcher⟩ :=
  ⟨hs.size, hs.untorn, fun job hjob => Nat.lt_of_lt_of_le (hs.issued job hjob) hledger⟩

theorem Receptive.winding (hs : s.Receptive) {teardown : Dispatcher.Teardown}
    (h : s.dispatcher.teardown ≠ .notBegun) {w : World σ} {device : Device} :
    Receptive (winding teardown
      { s with world := w, dispatcher := { s.dispatcher with device } }) where
  size := hs.size
  untorn huntorn := absurd (hs.untorn huntorn).1 h
  issued := hs.issued

theorem length_cells_answering (e : Option Pool.Event) (l : Ledger) :
    (answering e l).cells.length = l.cells.length := by
  cases e with
  | none => rfl
  | some e => cases e <;> simp [answering]

theorem Receptive.driven (hs : s.Receptive) {poolMove : Pool.Move} {arrivals : List Pool.Job}
    {teardown : Dispatcher.Teardown} {r : Pool.Scheduler Exchange.Run (Exchange.Site σ)}
    (hd : Driving s move poolMove arrivals teardown)
    (ht : Pool.Scheduler.Transition (executor D patience) s.scheduler poolMove e r) :
    (s.driven r e arrivals teardown).Receptive where
  size := by
    show 1 ≤ r.pool.size
    rw [Pool.size_of_transition ht]
    exact hs.size
  untorn huntorn := by
    obtain ⟨hteardown, hopen⟩ := hs.untorn huntorn
    -- the pool is closed only by a teardown, and none has begun
    have hclosed : poolMove ≠ .close → r.pool.closed = false := fun hmove =>
      (Pool.closed_eq_of_transition ht hmove).trans hopen
    cases hd with
    | stop h | wait h => cases hteardown.symm.trans h
    | _ => exact ⟨hteardown, hclosed nofun⟩
  issued job hjob := by
    have hlength : (answering e r.ledger).cells.length = s.ledger.cells.length :=
      (length_cells_answering e r.ledger).trans (Pool.length_cells_of_transition ht)
    have hsubset : arrivals ⊆ s.dispatcher.arrivals := by
      cases hd with
      | enter => exact List.erase_subset
      | _ => exact List.Subset.refl _
    exact Nat.lt_of_lt_of_eq (hs.issued job (hsubset hjob)) hlength.symm

/-- **Every step keeps a dispatcher receptive**, if those who ask for jobs hold completions. -/
theorem Receptive.transition (hs : s.Receptive)
    (hissued : ∀ job, move = .execute job → job.ticket < s.ledger.cells.length)
    (ht : Transition D patience s move e s') : s'.Receptive := by
  cases ht with
  | turnAway job err => exact hs.aside _ (Nat.le_of_eq Ledger.length_resolve.symm)
  | takeIn job =>
      refine ⟨hs.size, hs.untorn, fun job' hjob => ?_⟩
      rcases List.mem_append.1 hjob with hjob | hjob
      · exact hs.issued job' hjob
      · rw [List.mem_singleton.1 hjob]
        exact hissued job rfl
  | pool _ _ _ _ _ _ hd hr => exact hs.driven hd hr
  | tearDownAgain => exact hs
  | tearDown => exact ⟨hs.size, nofun, hs.issued⟩
  | announce _ h | endSession h | closing _ _ h | closed _ _ h | release _ h =>
      exact hs.winding (by simp [h])

/-- **Every state that a dispatcher can get into is receptive.** -/
theorem Reached.receptive (hs : Reached D patience s) : s.Receptive := by
  induction hs with
  | start ledger hup => exact .start (Dispatcher.isNew_of_bringUp hup) _ ledger
  | execute hs input ht ih =>
      refine (ih.aside _ ?_).transition ?_ (transition_of_step ht)
      · simp [Ledger.issue]
      · rintro job ⟨⟩
        simp [Ledger.issue]
  | move hs move hmove ht ih =>
      exact ih.transition (fun job h => absurd h (hmove job)) (transition_of_step ht)
  | aside hs w ledger hledger ih => exact ih.aside w hledger

end Station

end Offload

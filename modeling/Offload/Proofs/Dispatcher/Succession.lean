/-
**One dispatcher after another on the same device.**

A device outlives its dispatchers.  Each one is brought up, serves, is torn down and leaves, or does
not come up at all; then the next one may come, and finds the device as the last one has left it.
What a job of an earlier dispatcher has left in flight may so meet a message of a later one.

Main definitions:

* `Station.Occupant` — who uses the device: nobody, a dispatcher that is being brought up, or one
  that is up;
* `Station.Succession` — a device with its present user, and the native calls of the earlier ones;
* `Station.Succession.turn`, `Station.Succession.turns` — one thing that happens, and many;
* `Station.Occupied` — **the invariant**.

Main results:

* `Station.Occupied.turn` — every turn keeps the invariant;
* `Station.Succession.overlaps_le_lost` — **the device sees two messages at once only where a call
  to give an output back has failed**.
-/

import Offload.Proofs.Dispatcher.Flights
import Offload.Proofs.Dispatcher.RoundTrip
import Offload.Proofs.Dispatcher.DeviceInvariant

set_option autoImplicit false
set_option relaxedAutoImplicit false

namespace Offload.Station

open Native Simulator

/-- Who uses the device. -/
inductive Occupant where
  | nobody (world : World Simulator)
  /-- A dispatcher that is being brought up, with what is left of that. -/
  | arriving (rest : Program (Outcome Dispatcher)) (world : World Simulator)
  | serving (r : Run)

/-- A device with its present user, and the native calls that were made for the jobs of the earlier
ones, oldest first. -/
structure Succession where
  occupant : Occupant
  past : List Exchange.Act

namespace Occupant

def world : Occupant → World Simulator
  | nobody w | arriving _ w => w
  | serving r => r.station.world

/-- The same user in another world. -/
def withWorld (world : World Simulator) : Occupant → Occupant
  | nobody _ => nobody world
  | arriving rest _ => arriving rest world
  | serving r => serving (r.withWorld world)

/-- The native calls made for the jobs of this user, oldest first. -/
def acts : Occupant → List Exchange.Act
  | nobody _ | arriving _ _ => []
  | serving r => r.allActs

/-- The job that runs on slot number `i` has sent its message and owes the slot an end. -/
def IsOwing (o : Occupant) (i : Nat) : Prop := ∃ r, o = serving r ∧ r.IsOwing i

variable (compute : UInt32 → Bytes → Bytes)

/-- The next step of bringing a dispatcher up.  One that is up begins to serve, and one that does
not come up is gone. -/
def bringUp : Occupant → Option Occupant
  | arriving (.step o next) w =>
      let (x, w) := (driver compute).answer o w
      some (arriving (next x) w)
  | arriving (.done (.ok d)) w => some (serving (Run.start d w))
  | arriving (.done (.error _)) w => some (nobody w)
  | nobody _ | serving _ => none

end Occupant

namespace Succession

/-- What can happen next. -/
inductive Turn where
  /-- Somebody creates a dispatcher, if there is none. -/
  | arrive (library : Option String) (config : Config)
  /-- The dispatcher that is being created makes a step. -/
  | bringUp
  /-- A test does something to the device. -/
  | hook (hook : Hook)
  /-- A caller performs an operation on registers or logging. -/
  | operate (o : Op)
  /-- The dispatcher that is up makes a turn. -/
  | serve (turn : Station.Turn)
  /-- The dispatcher has been torn down, and is dropped. -/
  | leave

/-- The beginning: a fresh device that nobody uses. -/
def start (setup : Setup) (router : Log.Router) : Succession :=
  ⟨.nobody ⟨Simulator.fresh setup, router⟩, []⟩

def device (z : Succession) : Simulator := z.occupant.world.driver

/-- The native calls that have been made for jobs of any dispatcher, oldest first. -/
def acts (z : Succession) : List Exchange.Act := z.past ++ z.occupant.acts

variable (compute : UInt32 → Bytes → Bytes)

/-- One turn, which is missing when it is not possible. -/
def turn (z : Succession) : Turn → Option Succession
  | .arrive library config =>
      match z.occupant with
      | .nobody w => some { z with occupant := .arriving (Dispatcher.bringUp library config).run w }
      | _ => none
  | .bringUp => (z.occupant.bringUp compute).map fun occupant => { z with occupant }
  | .hook hook =>
      (hook.apply z.device).map fun s =>
        { z with occupant := z.occupant.withWorld { z.occupant.world with driver := s } }
  | .operate o =>
      if isRegister o then
        some { z with
          occupant := z.occupant.withWorld ((driver compute).answer o z.occupant.world).2 }
      else none
  | .serve turn =>
      match z.occupant with
      | .serving r => (r.turn compute turn).map fun r => { z with occupant := .serving r }
      | _ => none
  | .leave =>
      match z.occupant with
      | .serving r =>
          match r.station.dispatcher.teardown with
          | .finished => some ⟨.nobody r.station.world, z.past ++ r.allActs⟩
          | _ => none
      | _ => none

/-- Many turns. -/
def turns (ts : List Turn) (z : Succession) : Option Succession := ts.foldlM (turn compute) z

end Succession

/-! ### The invariant -/

/-- A device has the setup that it began with, and as many slots as it says. -/
structure IsSetUp (setup : Setup) (s : Simulator) : Prop where
  slots : s.slots.length = setup.bufferCount.toNat
  setup : s.setup = setup

/-- What holds of a device that no dispatcher uses. -/
structure IsVacant (setup : Setup) (past : List Exchange.Act) (s : Simulator) : Prop
    extends IsSetUp setup s where
  charged : Exchange.Charged past s fun _ => False

/-- What bringing a dispatcher up comes to, if it comes up: then the device is open. -/
def ComesToBeUp (setup : Setup) : Outcome Dispatcher → Outline → Prop :=
  either (fun d v => d.IsUp setup ∧ v.isOpen = true) fun _ _ => True

/-- What holds of a device whoever uses it. -/
inductive Occupied (compute : UInt32 → Bytes → Bytes) (setup : Setup) (past : List Exchange.Act) :
    Occupant → Prop
  | nobody (w : World Simulator) (h : IsVacant setup past w.driver) :
      Occupied compute setup past (.nobody w)
  | arriving (rest : Program (Outcome Dispatcher)) (w : World Simulator)
      (h : IsVacant setup past w.driver) (hslotless : rest.Every IsSlotless)
      (hup : rest.Meets (outlineSpec compute) (ComesToBeUp setup) w.driver.outline) :
      Occupied compute setup past (.arriving rest w)
  | serving (n : Nat) (r : Run) (h : Reckoned compute setup n past r) :
      Occupied compute setup past (.serving r)

section

variable {compute : UInt32 → Bytes → Bytes} {setup : Setup} {past : List Exchange.Act}
  {s s' : Simulator} {o o' : Occupant}

theorem IsVacant.still (hv : IsVacant setup past s) (hsetup : s'.outline.setup = s.outline.setup)
    (hcontents : s'.outline.contents = s.outline.contents) (hflights : SameFlights s s') :
    IsVacant setup past s' where
  setup := hsetup.trans hv.setup
  slots := by
    rw [SlotInv.length_slots, hcontents, ← SlotInv.length_slots]
    exact hv.slots
  charged := hv.charged.still hflights fun _ _ h => h

theorem Occupied.arrive {w : World Simulator} (hv : IsVacant setup past w.driver)
    (library : Option String) (config : Config) :
    Occupied compute setup past (.arriving (Dispatcher.bringUp library config).run w) := by
  refine .arriving _ w hv (Dispatcher.slotless_bringUp library config) ?_
  have hsucceeds : Succeeds compute w.driver.outline (Dispatcher.bringUp library config) _ :=
    Dispatcher.succeeds_bringUp library config
  refine (hsucceeds.weaken ?_).meets
  rintro d _ ⟨hd, rfl⟩
  exact ⟨(show w.driver.outline.setup = setup from hv.setup) ▸ hd, rfl⟩

theorem accounted_start {d : Dispatcher} {w : World Simulator} (hv : IsVacant setup past w.driver)
    (hd : d.IsUp setup) (hopen : w.driver.isOpen = true) :
    Reckoned compute setup d.bufferSize past (Run.start d w) where
  runInv := RunInv.startOn hd hv.setup hopen hv.slots
  running i job run hrun := absurd hrun (Run.not_running_start hd w i job run)
  charged := by
    rw [show (Run.start d w).allActs = [] from rfl, List.append_nil]
    exact hv.charged.still (.refl _) fun _ _ h => h.elim

theorem Occupied.bringUp (ho : Occupied compute setup past o)
    (h : o.bringUp compute = some o') : Occupied compute setup past o' := by
  cases ho with
  | nobody | serving => cases h
  | arriving rest w hv hslotless hup =>
      cases rest with
      | step op next =>
          cases h
          obtain ⟨hop, hnext⟩ := hslotless
          obtain ⟨hsetup, hcontents⟩ := contents_answer compute hop w
          exact .arriving _ _ (hv.still hsetup hcontents (sameFlights_answer compute hop w))
            (hnext _) (hup w rfl)
      | done r =>
          cases r with
          | error e =>
              cases h
              exact .nobody w hv
          | ok d =>
              cases h
              obtain ⟨hd, hopen⟩ := hup
              exact .serving _ _ (accounted_start hv hd hopen)

/-- What neither shows in the outline of the device nor in its messages in flight keeps the
invariant while no dispatcher is up. -/
theorem Occupied.still {w' : World Simulator} (ho : Occupied compute setup past o)
    (hvacant : ∀ r, o ≠ .serving r) (houtline : w'.driver.outline = o.world.driver.outline)
    (hflights : SameFlights o.world.driver w'.driver) :
    Occupied compute setup past (o.withWorld w') := by
  have hsetup := congrArg Outline.setup houtline
  have hcontents := congrArg Outline.contents houtline
  cases ho with
  | nobody w hv => exact .nobody w' (hv.still hsetup hcontents hflights)
  | arriving rest w hv hslotless hup =>
      refine .arriving rest w' (hv.still hsetup hcontents hflights) hslotless ?_
      rw [houtline]
      exact hup
  | serving n r => exact absurd rfl (hvacant r)

theorem Occupied.serve {r r' : Run} {t : Turn} (ho : Occupied compute setup past (.serving r))
    (ht : r.turn compute t = some r') : Occupied compute setup past (.serving r') := by
  cases ho with
  | serving n _ ha => exact .serving n r' (ha.turn ht)

/-- A dispatcher that leaves leaves nothing in flight that a job owes. -/
theorem Occupied.leave {r : Run} (ho : Occupied compute setup past (.serving r))
    (hend : r.station.dispatcher.teardown = .finished) :
    Occupied compute setup (past ++ r.allActs) (.nobody r.station.world) := by
  cases ho with
  | serving n _ ha =>
      refine .nobody _ ⟨⟨ha.runInv.slots, ha.runInv.deviceInv.setup⟩, ?_⟩
      refine ha.charged.still (.refl _) fun i _ how => ?_
      exact ha.not_isOwing_of_finished (by rw [hend]; rfl) i how

/-- **Every turn keeps the invariant.** -/
theorem Occupied.turn {z z' : Succession} {t : Succession.Turn}
    (ho : Occupied compute setup z.past z.occupant) (ht : z.turn compute t = some z') :
    Occupied compute setup z'.past z'.occupant := by
  obtain ⟨o, past⟩ := z
  cases t with
  | arrive library config =>
      cases ho with
      | nobody w hv => cases ht; exact .arrive hv library config
      | arriving | serving => cases ht
  | bringUp =>
      obtain ⟨o', h, rfl⟩ := Option.map_eq_some_iff.1 ht
      exact ho.bringUp h
  | hook hook =>
      obtain ⟨s, hs, rfl⟩ := Option.map_eq_some_iff.1 ht
      cases o with
      | nobody | arriving => exact ho.still (by simp) (hook.outline_eq hs) (hook.sameFlights hs)
      | serving r => exact ho.serve (t := .hook hook) (Option.map_eq_some_iff.2 ⟨s, hs, rfl⟩)
  | operate op =>
      rw [Succession.turn] at ht
      split at ht
      · next hop =>
          cases ht
          have hflights := sameFlights_answer compute (isSlotless_of_isRegister hop) o.world
          cases o with
          | nobody | arriving => exact ho.still (by simp) (outline_answer hop _) hflights
          | serving r => exact ho.serve (t := .operate op) (if_pos hop)
      · cases ht
  | serve t =>
      cases o with
      | nobody | arriving => cases ht
      | serving r =>
          obtain ⟨r', h, rfl⟩ := Option.map_eq_some_iff.1 ht
          exact ho.serve h
  | leave =>
      cases o with
      | nobody | arriving => cases ht
      | serving r =>
          rw [Succession.turn] at ht
          dsimp only at ht
          split at ht
          · next hend => cases ht; exact ho.leave hend
          · cases ht

/-- What every user of the device leaves accounted for. -/
theorem Occupied.charged (ho : Occupied compute setup past o) :
    Exchange.Charged (past ++ o.acts) o.world.driver o.IsOwing := by
  have hvacant (w : World Simulator) (hv : IsVacant setup past w.driver) :
      Exchange.Charged (past ++ []) w.driver o.IsOwing := by
    rw [List.append_nil]
    exact hv.charged.still (.refl _) fun _ _ h => h.elim
  cases ho with
  | nobody w hv => exact hvacant w hv
  | arriving rest w hv => exact hvacant w hv
  | serving n r ha => exact ha.charged.still (.refl _) fun i _ how => ⟨r, rfl, how⟩

end

namespace Succession

variable {compute : UInt32 → Bytes → Bytes} {setup : Setup} {router : Log.Router} {ts : List Turn}
  {z z' : Succession}

theorem occupied_turns (ho : Occupied compute setup z.past z.occupant)
    (hz : turns compute ts z = some z') : Occupied compute setup z'.past z'.occupant :=
  foldlM_induction (motive := fun z => Occupied compute setup z.past z.occupant) hz ho
    fun _ _ _ ho ht => ho.turn ht

theorem occupied_start (compute : UInt32 → Bytes → Bytes) (setup : Setup) (router : Log.Router) :
    Occupied compute setup (start setup router).past (start setup router).occupant :=
  .nobody _ ⟨⟨by simp [Simulator.fresh], rfl⟩, Exchange.charged_fresh setup _⟩

/-! ### Overlaps -/

/-- **The device sees two messages at once only where a call to give an output back has failed.**
However many dispatchers use a fresh device one after another, and whatever is done to it meanwhile,
there are at no time more overlaps than calls to give an output back that a fault with a code other
than success has struck, and none as long as there is no such call.  A slot has a message in flight
only while its worker runs a job that has sent it and has not yet given its output back, or after
such a failed call about the slot with no other one since then that decides about it. -/
theorem overlaps_le_lost (hz : turns compute ts (start setup router) = some z) :
    z.device.overlaps ≤ z.acts.countP Exchange.Act.isLost ∧
    ((∀ a ∈ z.acts, a.isLost = false) → z.device.overlaps = 0) ∧
    ∀ i, z.device.inFlight i = true →
      (∃ r job run, z.occupant = .serving r ∧ r.pool.worker? i = some (.running job run) ∧
        Exchange.hasSent (r.acts job) = true ∧ Exchange.owes (r.acts job) = true) ∨
      Exchange.AbandonedSince i z.acts := by
  have hcharged : Exchange.Charged z.acts z.device z.occupant.IsOwing :=
    (occupied_turns (occupied_start compute setup router) hz).charged
  have hle : z.device.overlaps ≤ z.acts.countP Exchange.Act.isLost :=
    Nat.le_trans (Nat.le_add_right _ _) hcharged.overlaps
  refine ⟨hle, fun hnone => ?_, fun i hi => ?_⟩
  · have hzero : z.acts.countP Exchange.Act.isLost = 0 :=
      List.countP_eq_zero.2 fun a ha => by simp [hnone a ha]
    omega
  · rcases hcharged.inFlight i hi with hstray | ⟨r, hr, job, run, hw, how⟩
    · exact Or.inr (Exchange.abandonedSince_of_mem_stray hstray)
    · exact Or.inl ⟨r, job, run, hr, hw, Exchange.hasSent_of_owes how, how⟩

/-- The same thing again and again. -/
def often (count : Nat) (move : Move) : List Turn := List.replicate count (.serve (.move move))

/-- A dispatcher comes up and takes in a job. -/
def arrivalWith (input : Bytes) : List Turn :=
  .arrive none .standard :: List.replicate 11 .bringUp ++
    .serve (.execute input) :: .serve (.move (.enter 0)) :: often 6 .proceed

/-- The job of a first dispatcher is struck when it gives its output back, the dispatcher is torn
down, and a job of a second one sends its message. -/
def strayMessage : List Turn :=
  arrivalWith [1] ++
    .hook (.failNext ⟨.discard, some 0, .driverError⟩) :: often 22 (.work 0) ++
    often 1 .tearDown ++ often 2 .wind ++ often 3 (.work 0) ++ often 11 .wind ++
    .leave :: arrivalWith [2, 3] ++ often 9 (.work 0)

theorem sight_strayMessage :
    (turns Run.backwards strayMessage (start Run.oneSlot default)).map (fun z =>
      (z.device.overlaps, z.acts.countP Exchange.Act.isLost, z.past.length,
        z.device.inFlight 0)) = some (1, 1, 6, true) := by
  decide +kernel

/-- The message of the second dispatcher meets the one that the first one has left in flight. -/
theorem overlaps_le_lost_strayMessage :
    ∃ z, turns Run.backwards strayMessage (start Run.oneSlot default) = some z ∧
      z.device.overlaps = 1 ∧ z.device.overlaps ≤ z.acts.countP Exchange.Act.isLost ∧
      z.acts.countP Exchange.Act.isLost = 1 ∧ z.past.length = 6 := by
  obtain ⟨z, hz, hsight⟩ := Option.map_eq_some_iff.1 sight_strayMessage
  simp only [Prod.mk.injEq] at hsight
  exact ⟨z, hz, hsight.1, (overlaps_le_lost hz).1, hsight.2.1, hsight.2.2.1⟩

end Succession

end Offload.Station

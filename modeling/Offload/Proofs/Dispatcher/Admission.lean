/-
**Which jobs are admitted.**

On every driver, in every state that a dispatcher can get into, a job is admitted if and only if its
input is not empty, fits the regions when padded, and nobody has begun to tear the dispatcher down.
A job that is not admitted is finished at once and nothing else happens.

Main definitions:

* `Dispatcher.Admits`, `Dispatcher.refusal` — the inputs that are admitted, and the error for the
  others;
* `Station.issuing`, `Station.awaiting` — the station when a call has its completion, and when its
  job waits for the lock;
* `Station.choice` — the slot that a call chooses at once;
* `Station.Settled` — one completion has been resolved with an error.

Main results:

* `Station.Receptive.executeNow_of_admits`, `Station.Receptive.executeNow_of_not_admits` — the two
  ways in which a call goes when nobody comes in between;
* `Station.Receptive.refused_cases` — the two ways in which a job is refused when others do;
* `Station.Reached.admitted_or_refused` — **all of it, in every state**.
-/

import Offload.Proofs.Dispatcher.Reached
import Offload.Proofs.Dispatcher.RoundTrip
import Offload.Proofs.Padding.WireForm
import Offload.Proofs.Pool.Submission

set_option autoImplicit false
set_option relaxedAutoImplicit false

namespace Offload

open Native

/-! ### Which inputs are admitted -/

namespace Dispatcher

variable {d : Dispatcher} {input : Bytes}

/-- The inputs that a dispatcher admits. -/
structure Admits (d : Dispatcher) (input : Bytes) : Prop where
  nonempty : 0 < input.length
  fits : Padding.paddedLength input.length ≤ d.bufferSize
  untorn : d.tornDown = false

/-- The error for an input that is not admitted: what is wrong with the input comes first. -/
def refusal (d : Dispatcher) (input : Bytes) : Error :=
  if input.length = 0 then .emptyInput
  else if d.bufferSize < Padding.paddedLength input.length then
    .oversizedInput input.length d.bufferSize
  else .closed

theorem admission_of_admits (h : d.Admits input) : d.admission input = .ok () := by
  have hne : input ≠ [] := List.ne_nil_of_length_pos h.nonempty
  have hfits : ¬d.bufferSize < Padding.paddedLength input.length := Nat.not_lt_of_le h.fits
  rw [admission, if_neg hne, if_neg hfits, if_neg (by simp [h.untorn])]

theorem admission_of_not_admits (h : ¬d.Admits input) :
    d.admission input = .error (d.refusal input) := by
  rw [admission, refusal]
  by_cases hnil : input = []
  · simp [hnil]
  · have hpos : 0 < input.length := List.length_pos_iff.2 hnil
    rw [if_neg hnil, if_neg (Nat.ne_of_gt hpos)]
    by_cases hfits : d.bufferSize < Padding.paddedLength input.length
    · rw [if_pos hfits, if_pos hfits]
    · have htorn : d.tornDown = true := by
        by_contra huntorn
        exact h ⟨hpos, Nat.le_of_not_lt hfits, by simpa using huntorn⟩
      rw [if_neg hfits, if_neg hfits, if_pos htorn]

end Dispatcher

namespace Station

variable {σ : Type} {D : Driver σ} {patience : σ → Nat} {s s' : Station σ} {input : Bytes}

/-! ### The steps of a call -/

/-- The job that a call asks for. -/
def asked (s : Station σ) (input : Bytes) : Pool.Job := ⟨s.ledger.issue.1, input⟩

/-- The station when the completion of a call has been issued. -/
def issuing (s : Station σ) : Station σ := { s with ledger := s.ledger.issue.2 }

/-- The station with one job more that waits for the lock. -/
def awaiting (s : Station σ) (job : Pool.Job) : Station σ :=
  { s with dispatcher := { s.dispatcher with arrivals := s.dispatcher.arrivals ++ [job] } }

theorem step_execute_of_admits {job : Pool.Job} (h : s.dispatcher.Admits job.input) :
    s.step D patience (.execute job) = some (s.awaiting job, none) := by
  rw [step, Dispatcher.admission_of_admits h]
  rfl

theorem step_execute_of_not_admits {job : Pool.Job} (h : ¬s.dispatcher.Admits job.input) :
    s.step D patience (.execute job) =
      some (s.refuse job.ticket (s.dispatcher.refusal job.input), some (.refused job)) := by
  rw [step, Dispatcher.admission_of_not_admits h]

theorem step_enter_awaiting {job : Pool.Job}
    (hfresh : ∀ other ∈ s.dispatcher.arrivals, other.ticket ≠ job.ticket)
    (hlock : s.dispatcher.pool.submission = none) :
    (s.awaiting job).step D patience (.enter job.ticket) =
      some (s.withScheduler (s.scheduler.holding job .entering s.dispatcher.pool.cursor), none) := by
  have hnone : s.dispatcher.arrivals.find? (fun other => other.ticket = job.ticket) = none :=
    List.find?_eq_none.2 fun other h => by simpa using hfresh other h
  have hfind : (s.awaiting job).dispatcher.arrivals.find? (fun other => other.ticket = job.ticket) =
      some job := by
    simp [awaiting, hnone]
  have herase : (s.awaiting job).dispatcher.arrivals.erase job = s.dispatcher.arrivals := by
    have hnot : job ∉ s.dispatcher.arrivals := fun h => hfresh job h rfl
    rw [awaiting, List.erase_append_right _ hnot, List.erase_cons_head, List.append_nil]
  have hlock' : s.scheduler.pool.submission = none := hlock
  have hlocked : s.scheduler.step (executor D patience) (.submit job) =
      some (s.scheduler.holding job .entering s.dispatcher.pool.cursor, none) := by
    rw [Pool.Scheduler.step, hlock']
    rfl
  rw [step, hfind, Option.bind_some, herase]
  exact congrArg (Option.map _) hlocked

/-- A submission of the pool that is accepted ends the call. -/
theorem proceedFor_of_accepted {bound slot : Nat} {job : Pool.Job}
    {r : Pool.Scheduler Exchange.Run (Exchange.Site σ)}
    (h : Pool.Scheduler.proceedFor (executor D patience) bound s.scheduler =
      (some (.accepted job slot), r)) :
    proceedFor D patience bound s = (some slot, s.withScheduler r) := by
  induction bound generalizing s with
  | zero => cases h
  | succ bound ih =>
      rw [Pool.Scheduler.proceedFor] at h
      rw [proceedFor, step, poolStep]
      cases hstep : s.scheduler.step (executor D patience) .proceed with
      | none => simp [hstep] at h
      | some result =>
          obtain ⟨r₁, _ | e⟩ := result
          · -- the lock is still held
            simp only [hstep] at h
            exact ih h
          · simp only [hstep, Prod.mk.injEq, Option.some.injEq] at h
            obtain ⟨rfl, rfl⟩ := h
            rfl

/-! ### A call that nobody comes in between of -/

section

variable {s₁ s₂ : Station σ} {e₁ e₂ : Option Pool.Event}

theorem executeNow_of_enter
    (hexecute : s.issuing.step D patience (.execute (s.asked input)) = some (s₁, e₁))
    (henter : s₁.step D patience (.enter s.ledger.issue.1) = some (s₂, e₂)) :
    s.executeNow D patience input =
      (⟨s.ledger.issue.1, (proceedFor D patience (s₂.dispatcher.pool.size + 7) s₂).1⟩,
        (proceedFor D patience (s₂.dispatcher.pool.size + 7) s₂).2) := by
  have hexecute' : ({ s with ledger := s.ledger.issue.2 } : Station σ).step D patience
      (.execute ⟨s.ledger.issue.1, input⟩) = some (s₁, e₁) := hexecute
  simp only [executeNow, hexecute', henter]

theorem executeNow_of_not_enter
    (hexecute : s.issuing.step D patience (.execute (s.asked input)) = some (s₁, e₁))
    (henter : s₁.step D patience (.enter s.ledger.issue.1) = none) :
    s.executeNow D patience input = (⟨s.ledger.issue.1, none⟩, s₁) := by
  have hexecute' : ({ s with ledger := s.ledger.issue.2 } : Station σ).step D patience
      (.execute ⟨s.ledger.issue.1, input⟩) = some (s₁, e₁) := hexecute
  simp only [executeNow, hexecute', henter]

end

/-- Nobody else waits with the completion of a new call. -/
theorem Receptive.ne_issue (hs : s.Receptive) :
    ∀ other ∈ s.dispatcher.arrivals, other.ticket ≠ s.ledger.issue.1 :=
  fun other h => Nat.ne_of_lt (hs.issued other h)

/-- The slot that a call chooses when nobody comes in between. -/
def choice (s : Station σ) : Nat :=
  Pool.pick s.dispatcher.pool.size s.issuing.scheduler.isFree s.dispatcher.pool.cursor

/-- **A call whose input is admitted is accepted at once**, if the lock is free. -/
theorem Receptive.executeNow_of_admits (hs : s.Receptive) (h : s.dispatcher.Admits input)
    (hlock : s.dispatcher.pool.submission = none) :
    s.executeNow D patience input =
      (⟨s.ledger.issue.1, some s.choice⟩,
        s.issuing.withScheduler (s.issuing.scheduler.joined (s.asked input) s.choice)) := by
  have hexecute : s.issuing.step D patience (.execute (s.asked input)) =
      some (s.issuing.awaiting (s.asked input), none) := step_execute_of_admits h
  have henter : (s.issuing.awaiting (s.asked input)).step D patience (.enter s.ledger.issue.1) =
      some (s.issuing.withScheduler (s.issuing.scheduler.holding (s.asked input) .entering
        s.dispatcher.pool.cursor), none) := step_enter_awaiting hs.ne_issue hlock
  have hrun : Pool.Scheduler.proceedFor (executor D patience) (s.dispatcher.pool.size + 7)
      (s.issuing.scheduler.holding (s.asked input) .entering s.dispatcher.pool.cursor) =
      (some (.accepted (s.asked input) s.choice),
        s.issuing.scheduler.joined (s.asked input) s.choice) :=
    Pool.Scheduler.proceedFor_entering (hs.untorn h.untorn).2 hs.size
  have hproceed : proceedFor D patience (s.dispatcher.pool.size + 7)
      (s.issuing.withScheduler (s.issuing.scheduler.holding (s.asked input) .entering
        s.dispatcher.pool.cursor)) =
      (some s.choice,
        s.issuing.withScheduler (s.issuing.scheduler.joined (s.asked input) s.choice)) :=
    proceedFor_of_accepted hrun
  rw [executeNow_of_enter hexecute henter]
  exact congrArg (fun r => (JobHandle.mk s.ledger.issue.1 r.1, r.2)) hproceed

/-- **A call whose input is not admitted is refused at once**, and nothing else happens. -/
theorem Receptive.executeNow_of_not_admits (hs : s.Receptive) (h : ¬s.dispatcher.Admits input) :
    s.executeNow D patience input =
      (⟨s.ledger.issue.1, none⟩,
        s.issuing.refuse s.ledger.issue.1 (s.dispatcher.refusal input)) := by
  have hexecute : s.issuing.step D patience (.execute (s.asked input)) =
      some (s.issuing.refuse s.ledger.issue.1 (s.dispatcher.refusal input),
        some (.refused (s.asked input))) := step_execute_of_not_admits h
  refine executeNow_of_not_enter hexecute ?_
  have hnone : s.dispatcher.arrivals.find? (fun job => job.ticket = s.ledger.issue.1) = none :=
    List.find?_eq_none.2 fun other h => by simpa using hs.ne_issue other h
  show (s.dispatcher.arrivals.find? _).bind _ = none
  rw [hnone, Option.bind_none]

/-! ### Calls that others come in between of -/

theorem isSome_enter {job : Pool.Job} (hjob : job ∈ s.dispatcher.arrivals)
    (hlock : s.dispatcher.pool.submission = none) :
    (s.step D patience (.enter job.ticket)).isSome = true := by
  have hfind : (s.dispatcher.arrivals.find? fun other => other.ticket = job.ticket).isSome = true :=
    List.find?_isSome.2 ⟨job, hjob, by simp⟩
  obtain ⟨first, hfirst⟩ := Option.isSome_iff_exists.1 hfind
  have hlocked : s.scheduler.step (executor D patience) (.submit first) =
      some (s.scheduler.holding first .entering s.dispatcher.pool.cursor, none) := by
    have hlock' : s.scheduler.pool.submission = none := hlock
    rw [Pool.Scheduler.step, hlock']
    rfl
  rw [step, hfirst, Option.bind_some]
  exact congrArg (fun r => (Option.map _ r).isSome) hlocked

theorem isSome_proceed (hlock : s.dispatcher.pool.submission.isSome = true) :
    (s.step D patience .proceed).isSome = true := by
  have hstep : (s.scheduler.step (executor D patience) .proceed).isSome = true := by
    rw [Pool.Scheduler.step, Option.isSome_map]
    exact hlock
  rw [step, poolStep, Option.isSome_map]
  exact hstep

/-- The station when the lock has been given back. -/
def unlocked (s : Station σ) : Station σ :=
  { s with dispatcher := { s.dispatcher with
    pool := { s.dispatcher.pool with submission := none } } }

/-- **A job is refused when it is not admitted, or when somebody has begun to tear the dispatcher
down since it was.** -/
theorem Receptive.refused_cases (hs : s.Receptive) {move : Move} {job : Pool.Job}
    (h : s.step D patience move = some (s', some (.refused job))) :
    (move = .execute job ∧ ¬s.dispatcher.Admits job.input ∧
        s' = s.refuse job.ticket (s.dispatcher.refusal job.input)) ∨
      (move = .proceed ∧ s.dispatcher.tornDown = true ∧
        s.dispatcher.pool.submission = some ⟨job, .entering⟩ ∧
        s' = s.unlocked.refuse job.ticket .closed) := by
  cases transition_of_step h with
  | turnAway job err hadmission =>
      have hnot : ¬s.dispatcher.Admits job.input := by
        intro hadmits
        rw [Dispatcher.admission_of_admits hadmits] at hadmission
        cases hadmission
      rw [Dispatcher.admission_of_not_admits hnot] at hadmission
      cases hadmission
      exact Or.inl ⟨rfl, hnot, rfl⟩
  | pool _ poolMove arrivals teardown _ r hd ht =>
      cases ht with
      | refuse _ hsub hclosed =>
          cases hd
          refine Or.inr ⟨rfl, ?_, hsub, rfl⟩
          -- the pool is closed, so that the teardown has begun
          by_contra huntorn
          exact Bool.false_ne_true
            ((hs.untorn (by simpa using huntorn)).2.symm.trans hclosed)
      | finish _ _ _ _ _ _ _ _ hf | drainFinish _ _ _ _ _ _ hf => cases hf

/-! ### Admission -/

/-- One completion has been resolved with an error, before anybody could wait for it. -/
structure Settled (l : Ledger) (ticket : Ticket) (e : Error) (l' : Ledger) : Prop where
  here : l'.cell? ticket = some ⟨true, some (.error e), none⟩
  others : ∀ t, t ≠ ticket → l'.cell? t = l.cell? t
  wakeUps : l'.wakeUps = l.wakeUps

theorem settled_issue (l : Ledger) (e : Error) :
    Settled l l.issue.1 e (l.issue.2.resolve l.issue.1 (.error e)).2 where
  here := by
    have hcell : l.issue.2.cell? l.issue.1 = some .unresolved := by simp [Ledger.issue, Ledger.cell?]
    simp [Ledger.resolve, Ledger.cell?_modify, hcell, Completion.resolve, Completion.unresolved]
  others t ht := by
    rw [Ledger.cell?_resolve_of_ne ht.symm]
    rcases Nat.lt_or_gt_of_ne ht with hlt | hgt
    · exact Ledger.cell?_issue_of_lt hlt
    · have hout : l.cells.length < t := hgt
      have hout' : l.issue.2.cells.length ≤ t := by
        rw [Ledger.issue, List.length_append]
        exact hout
      rw [Ledger.cell?, Ledger.cell?, List.getElem?_eq_none hout',
        List.getElem?_eq_none (Nat.le_of_lt hout)]
  wakeUps := rfl

/-- **Admission**, in every state that a dispatcher on any driver can get into.  A length fits when
padded if and only if the regions have at least 64 bytes and the length is within the last multiple
of 16 of their size.  A job that is admitted waits for the lock of the pool, and is accepted on a slot
at once if nobody comes in between.  A job that is not admitted is finished at once without a slot,
with the error that comes first, and nothing else is changed.  Whoever waits for the lock can take it
when it is free, whoever holds it can go on, and a job that was admitted is refused only when somebody
has begun to tear the dispatcher down meanwhile. -/
theorem Reached.admitted_or_refused (hs : Reached D patience s) (input : Bytes) :
    (Padding.paddedLength input.length ≤ s.dispatcher.bufferSize ↔
      64 ≤ s.dispatcher.bufferSize ∧ input.length ≤ s.dispatcher.bufferSize / 16 * 16) ∧
    (s.dispatcher.Admits input →
      s.issuing.step D patience (.execute (s.asked input)) =
        some (s.issuing.awaiting (s.asked input), none) ∧
      (s.dispatcher.pool.submission = none →
        s.choice < s.dispatcher.pool.size ∧
        s.executeNow D patience input =
          (⟨s.ledger.issue.1, some s.choice⟩,
            s.issuing.withScheduler (s.issuing.scheduler.joined (s.asked input) s.choice)))) ∧
    (¬s.dispatcher.Admits input →
      ∃ ledger, Settled s.ledger s.ledger.issue.1 (s.dispatcher.refusal input) ledger ∧
        s.issuing.step D patience (.execute (s.asked input)) =
          some ({ s with ledger }, some (.refused (s.asked input))) ∧
        s.executeNow D patience input = (⟨s.ledger.issue.1, none⟩, { s with ledger })) ∧
    (s.dispatcher.pool.submission = none → ∀ job ∈ s.dispatcher.arrivals,
      (s.step D patience (.enter job.ticket)).isSome = true) ∧
    (s.dispatcher.pool.submission.isSome = true → (s.step D patience .proceed).isSome = true) ∧
    (∀ move s' job, s.step D patience move = some (s', some (.refused job)) →
      (move = .execute job ∧ ¬s.dispatcher.Admits job.input ∧
          s' = s.refuse job.ticket (s.dispatcher.refusal job.input)) ∨
        (move = .proceed ∧ s.dispatcher.tornDown = true ∧
          s.dispatcher.pool.submission = some ⟨job, .entering⟩ ∧
          s' = s.unlocked.refuse job.ticket .closed)) := by
  have hreceptive := hs.receptive
  refine ⟨Padding.paddedLength_le_iff, ?_, ?_, ?_, isSome_proceed, ?_⟩
  · intro hadmits
    refine ⟨step_execute_of_admits hadmits, fun hlock => ⟨?_, ?_⟩⟩
    · exact Pool.pick_lt hreceptive.size _ _
    · exact hreceptive.executeNow_of_admits hadmits hlock
  · intro hnot
    refine ⟨_, settled_issue s.ledger (s.dispatcher.refusal input), ?_, ?_⟩
    · exact step_execute_of_not_admits hnot
    · exact hreceptive.executeNow_of_not_admits hnot
  · intro hlock job hjob
    exact isSome_enter hjob hlock
  · intro move s' job h
    exact hreceptive.refused_cases h

/-- What comes up on a device with one slot of 64 bytes. -/
theorem regions_broughtUp :
    Run.broughtUp.1.toOption.map (fun d => (d.bufferSize, d.pool.size, d.pool.submission)) =
      some (64, 1, none) := by
  decide +kernel

/-- On such a device a message of one byte is admitted until the dispatcher is torn down.  After that
an empty message, one of 65 bytes and one of one byte are refused each with its own error. -/
theorem Reached.admitted_or_refused_oneSlot :
    ∃ s s' : Station Simulator,
      Reached (Simulator.driver Run.backwards) Simulator.patience s ∧
      s.step (Simulator.driver Run.backwards) Simulator.patience .tearDown = some (s', none) ∧
      (s.executeNow (Simulator.driver Run.backwards) Simulator.patience [1]).1 = ⟨0, some 0⟩ ∧
      ∀ x ∈ [([], Error.emptyInput), (List.replicate 65 0, Error.oversizedInput 65 64),
          ([1], Error.closed)],
        ∃ ledger, Settled s'.ledger 0 x.2 ledger ∧
          s'.executeNow (Simulator.driver Run.backwards) Simulator.patience x.1 =
            (⟨0, none⟩, { s' with ledger }) := by
  obtain ⟨d, hd, hregions⟩ := Option.map_eq_some_iff.1 regions_broughtUp
  simp only [Prod.mk.injEq] at hregions
  obtain ⟨hbuffer, hsize, hlock⟩ := hregions
  obtain ⟨config, router, hup⟩ := Run.comesUp_of_broughtUp hd
  have huntorn := (Dispatcher.isNew_of_bringUp hup).tornDown
  have hs : Reached (Simulator.driver Run.backwards) Simulator.patience ⟨_, .empty, d⟩ :=
    .start .empty hup
  have hstep : Station.step (Simulator.driver Run.backwards) Simulator.patience
      ⟨Run.broughtUp.2, .empty, d⟩ .tearDown = some (⟨Run.broughtUp.2, .empty,
        { d with tornDown := true, teardown := .announcing }⟩, none) := by
    simp [step, huntorn]
  refine ⟨_, _, hs, hstep, ?_, ?_⟩
  · have hadmits : d.Admits [1] := ⟨by decide, by rw [hbuffer]; decide, huntorn⟩
    obtain ⟨hchoice, hnow⟩ := ((hs.admitted_or_refused [1]).2.1 hadmits).2 hlock
    rw [hnow]
    have hzero : (⟨Run.broughtUp.2, .empty, d⟩ : Station Simulator).choice = 0 :=
      Nat.lt_one_iff.1 (Nat.lt_of_lt_of_eq hchoice hsize)
    rw [hzero]
    rfl
  · have hs' := hs.move .tearDown (by simp) hstep
    intro x hx
    have hnot : ¬Dispatcher.Admits { d with tornDown := true, teardown := .announcing } x.1 :=
      fun h => Bool.false_ne_true h.untorn.symm
    obtain ⟨ledger, hsettled, -, hnow⟩ := (hs'.admitted_or_refused x.1).2.2.1 hnot
    have herror : Dispatcher.refusal { d with tornDown := true, teardown := .announcing } x.1 =
        x.2 := by
      have hbuffer' : Dispatcher.bufferSize { d with tornDown := true, teardown := .announcing } =
          64 := hbuffer
      simp only [List.mem_cons, List.not_mem_nil, or_false] at hx
      rw [Dispatcher.refusal, hbuffer']
      rcases hx with rfl | rfl | rfl <;> decide
    rw [← herror]
    exact ⟨ledger, hsettled, hnow⟩

end Station

end Offload

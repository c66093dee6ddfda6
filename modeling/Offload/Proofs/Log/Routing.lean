/-
**Where log messages go.**

The state of logging is hidden behind a start that many operations perform, and a message passes
two filters: one for the level that it is logged at, one for the level of its mask.  What comes of a
message can be told from the operations before it alone: the level in force is the last one that was
set, else the one of the environment, and the receiver is the last sink that was installed and has
not been taken away since, else the error stream.

Main definitions:

* `Script.LogOp.message?` — the message that an operation logs;
* `Log.Flags.IsSeverest` — the most severe level that a mask names;
* `Script.inForce` — the level in force after some operations;
* `Script.Stands` — the sink that has been installed last and not been taken away since;
* `Script.Tracks` — the state of logging agrees with the operations so far.

Main results:

* `Script.inForce_perform`, `Script.sink_perform` — what an operation does to the level in force and
  to the installed sink;
* `Script.tracks_after` — the state of logging agrees with the operations of every script;
* `Script.message_routed` — **a message is delivered exactly if its level passes the level in force,
  once, unchanged, and to the sink that stands**.
-/

import Offload.Script.LogScript
import Offload.Proofs.Text.Numeral
import Mathlib.Data.List.Induction

set_option autoImplicit false
set_option relaxedAutoImplicit false

namespace Offload

/-! ### The level of a mask -/

namespace Log

/-- The most severe level that a mask names; a mask that names none is informational. -/
def Flags.IsSeverest (flags : Flags) (level : Level) : Prop :=
  (level ≠ .off ∧ flags.contains level.flags = true ∧
      ∀ l : Level, l ≠ .off → flags.contains l.flags = true → level.rank ≤ l.rank) ∨
    (level = .info ∧ ∀ l : Level, l ≠ .off → flags.contains l.flags = false)

/-- The level of a mask is the first that it names, from the most severe one on. -/
theorem Flags.level_eq_find (flags : Flags) :
    flags.level = (Level.all.tail.find? fun l => flags.contains l.flags).getD .info := by
  unfold Flags.level
  simp only [Level.all, List.tail_cons, List.find?_cons, Level.flags, List.find?_nil]
  cases flags.contains .fatal <;> cases flags.contains .error <;> cases flags.contains .warn <;>
    cases flags.contains .info <;> cases flags.contains .verbose <;>
    cases flags.contains .debug <;> rfl

theorem Level.mem_tail_all {l : Level} (h : l ≠ .off) : l ∈ Level.all.tail := by
  cases l with
  | off => exact absurd rfl h
  | _ => decide

theorem Flags.isSeverest_level (flags : Flags) : flags.IsSeverest flags.level := by
  rw [flags.level_eq_find]
  cases hfind : Level.all.tail.find? fun l => flags.contains l.flags with
  | none =>
      refine Or.inr ⟨rfl, fun l hl => ?_⟩
      simpa using List.find?_eq_none.1 hfind l (Level.mem_tail_all hl)
  | some level =>
      have hmem := List.mem_of_find?_eq_some hfind
      obtain ⟨hcontains, milder, milderRest, hsplit, hmilder⟩ :=
        List.find?_eq_some_iff_append.1 hfind
      have hsorted : (milder ++ level :: milderRest).Pairwise fun a b => a.rank ≤ b.rank :=
        hsplit ▸ by decide
      refine Or.inl ⟨?_, hcontains, fun l hl hl' => ?_⟩
      · rintro rfl
        exact absurd hmem (by decide)
      · have hl := Level.mem_tail_all hl
        rw [hsplit] at hl
        rcases List.mem_append.1 hl with hl | hl
        · -- a level tried before is not named
          exact absurd hl' (by simpa using hmilder l hl)
        · rcases List.mem_cons.1 hl with rfl | hl
          · exact Nat.le_refl _
          · exact List.rel_of_pairwise_cons (List.pairwise_append.1 hsorted).2.1 hl

theorem Flags.level_ne_off (flags : Flags) : flags.level ≠ .off := by
  rcases flags.isSeverest_level with ⟨h, -⟩ | ⟨h, -⟩
  · exact h
  · rw [h]
    decide

namespace Router

/-! ### The state of logging after one operation -/

/-- The level that messages have to pass, once the environment has been read. -/
def inForce (r : Router) : Level := r.start.threshold

@[simp] theorem inForce_start (r : Router) : r.start.inForce = r.inForce := by
  rw [inForce, start_start, inForce]

@[simp] theorem sink_start (r : Router) : r.start.sink = r.sink := by
  unfold start
  split <;> rfl

@[simp] theorem delivered_start (r : Router) : r.start.delivered = r.delivered := by
  unfold start
  split <;> rfl

/-- A router that has started is left alone by starting. -/
theorem start_of_started {r : Router} (h : r.started = true) : r.start = r := if_pos h

theorem inForce_of_started {r : Router} (h : r.started = true) : r.inForce = r.threshold := by
  rw [inForce, start_of_started h]

theorem inForce_congr {r r' : Router} (henvironment : r'.environment = r.environment)
    (hstarted : r'.started = r.started) (hthreshold : r'.threshold = r.threshold) :
    r'.inForce = r.inForce := by
  unfold inForce start
  rw [hstarted, henvironment, hthreshold]
  split
  · exact hthreshold
  · rfl

theorem admits_eq (l : Level) (r : Router) :
    r.admits l =
      (decide (l ≠ .off ∧ l.rank ≤ r.inForce.rank), if l = .off then r else r.start) := by
  unfold admits inForce
  by_cases hl : l = .off <;> simp [hl]

/-- A message with a mask passes one filter. -/
theorem emit_eq (flags : Flags) (text : String) (r : Router) :
    r.emit flags text =
      if flags.level.rank ≤ r.inForce.rank then r.start.deliver flags text else r.start := by
  have hoff := flags.level_ne_off
  unfold emit
  rw [admits_eq]
  by_cases hrank : flags.level.rank ≤ r.inForce.rank
  · simp [hoff, hrank]
  · simp [hoff, hrank]

/-- A line of a level passes two filters, which come to the same; nothing is logged at `off`. -/
theorem line_eq (l : Level) (text : String) (r : Router) :
    r.line l text = if l = .off then r else r.emit l.flags text := by
  unfold line
  rw [admits_eq]
  by_cases hl : l = .off
  · simp [hl]
  · by_cases hrank : l.rank ≤ r.inForce.rank
    · simp [hl, hrank, emit_eq]
    · simp [hl, hrank, emit_eq, Flags.level_flags hl]

/-- Who receives a message. -/
def receive (r : Router) (flags : Flags) (text : String) : Delivery :=
  match r.sink with
  | some sink => .toSink sink flags text
  | none => .toErrorStream (written flags text)

/-- A delivered message goes to its receiver, and nothing else changes. -/
theorem deliver_eq (flags : Flags) (text : String) (r : Router) :
    r.deliver flags text = { r with delivered := r.delivered ++ [r.receive flags text] } := rfl

theorem inForce_emit (flags : Flags) (text : String) (r : Router) :
    (r.emit flags text).inForce = r.inForce := by
  rw [emit_eq]
  split
  · rw [← r.inForce_start]
    exact inForce_congr rfl rfl rfl
  · exact r.inForce_start

theorem sink_emit (flags : Flags) (text : String) (r : Router) :
    (r.emit flags text).sink = r.sink := by
  rw [emit_eq]
  split <;> exact r.sink_start

theorem sink_line (l : Level) (text : String) (r : Router) : (r.line l text).sink = r.sink := by
  rw [line_eq]
  split
  · rfl
  · exact r.sink_emit _ text

theorem delivered_emit (flags : Flags) (text : String) (r : Router) :
    (r.emit flags text).delivered =
      r.delivered ++
        if flags.level.rank ≤ r.inForce.rank then [r.receive flags text] else [] := by
  rw [emit_eq]
  split
  · rw [deliver_eq, receive, receive, r.sink_start, r.delivered_start]
  · rw [List.append_nil, r.delivered_start]

end Router

end Log

/-! ### What is logged -/

namespace Script

open Log

/-- The message that an operation logs: its mask and its text. -/
def LogOp.message? : LogOp → Option (Flags × String)
  | .line l text => some (l.flags, text)
  | .emit flags text => some (flags, text)
  | .native flags message => some (flags, Text.trimEnd (Text.ofCString message))
  | _ => none

/-- A message logged at the level that lets nothing through. -/
def LogOp.isSilent : LogOp → Bool
  | .line .off _ => true
  | _ => false

/-- The level that an operation sets. -/
def LogOp.threshold? : LogOp → Option Level
  | .setThreshold l => some l
  | _ => none

/-- The level that the environment asks for. -/
def threshold (environment : Environment) : Level :=
  match environment.level with
  | some text => (Level.parse? text).getD .info
  | none => .info

/-- The level in force after some operations: the last one that was set, else the one that the
environment asks for. -/
def inForce (environment : Environment) (before : List LogOp) : Level :=
  (before.filterMap LogOp.threshold?).getLast?.getD (threshold environment)

/-- The installed sink after an operation. -/
def LogOp.sinkAfter : LogOp → Option Sink → Option Sink
  | .install sink, _ => some sink
  | .uninstall, _ => none
  | .remove sink, installed => if installed = some sink then none else installed
  | _, installed => installed

/-- The operation leaves a sink in place if it is the installed one. -/
def LogOp.keeps (sink : Sink) : LogOp → Bool
  | .install _ | .uninstall => false
  | .remove s => s ≠ sink
  | _ => true

/-- The sink has been installed last, and no removal has taken it away since. -/
def Stands (before : List LogOp) (sink : Sink) : Prop :=
  ∃ earlier since, before = earlier ++ .install sink :: since ∧
    ∀ op ∈ since, op.keeps sink = true

section

variable {environment : Environment} {before : List LogOp} {op : LogOp} {sink : Sink} {r : Router}

theorem inForce_append (environment : Environment) (before : List LogOp) (op : LogOp) :
    inForce environment (before ++ [op]) = op.threshold?.getD (inForce environment before) := by
  cases h : op.threshold? <;> simp [inForce, List.filterMap_append, h]

theorem sinkAfter_eq_some_iff {installed : Option Sink} :
    op.sinkAfter installed = some sink ↔
      op = .install sink ∨ op.keeps sink = true ∧ installed = some sink := by
  cases op with
  | install s => simp [LogOp.sinkAfter, LogOp.keeps]
  | remove s =>
      by_cases hs : installed = some s
      · simp [LogOp.sinkAfter, LogOp.keeps, hs]
      · have hne : installed = some sink → s ≠ sink := by
          rintro hsink rfl
          exact hs hsink
        simpa [LogOp.sinkAfter, LogOp.keeps, hs] using hne
  | _ => simp [LogOp.sinkAfter, LogOp.keeps]

/-- A sink stands after one more operation if this installs it, or leaves it in place. -/
theorem stands_append :
    Stands (before ++ [op]) sink ↔
      op = .install sink ∨ op.keeps sink = true ∧ Stands before sink := by
  constructor
  · rintro ⟨earlier, since, heq, hsince⟩
    rcases List.eq_nil_or_concat since with rfl | ⟨since, last, rfl⟩
    · obtain ⟨-, hop⟩ := List.append_inj' heq rfl
      exact Or.inl (List.singleton_inj.1 hop)
    · rw [List.concat_eq_append, ← List.cons_append, ← List.append_assoc] at heq
      obtain ⟨hbefore, hop⟩ := List.append_inj' heq rfl
      obtain rfl := List.singleton_inj.1 hop
      refine Or.inr ⟨hsince op (by simp), earlier, since, hbefore, fun o ho => ?_⟩
      exact hsince o (by simp [ho])
  · rintro (rfl | ⟨hop, earlier, since, rfl, hsince⟩)
    · exact ⟨before, [], rfl, fun _ h => absurd h List.not_mem_nil⟩
    · refine ⟨earlier, since ++ [op], by simp, fun o ho => ?_⟩
      rcases List.mem_append.1 ho with ho | ho
      · exact hsince o ho
      · exact List.mem_singleton.1 ho ▸ hop

/-! ### Scripts -/

/-- Logging after one operation of a script, whose deliveries have been fetched. -/
def after (op : LogOp) (r : Router) : Router := (drain (op.perform r).2).2

theorem runLog_append (before rest : List LogOp) (r : Router) :
    runLog (before ++ rest) r =
      runLog before r ++ runLog rest (before.foldl (fun r op => after op r) r) := by
  induction before generalizing r with
  | nil => rfl
  | cons op before ih => simp only [List.cons_append, runLog, List.foldl_cons, ih]; rfl

theorem length_runLog (ops : List LogOp) (r : Router) : (runLog ops r).length = ops.length := by
  induction ops generalizing r with
  | nil => rfl
  | cons op ops ih => simp [runLog, ih]

/-- An operation sets the level in force, or leaves it alone. -/
theorem inForce_perform (op : LogOp) (r : Router) :
    (op.perform r).2.inForce = op.threshold?.getD r.inForce := by
  cases op with
  | setThreshold l => exact Router.inForce_of_started r.started_start
  | setFlush on => exact Router.inForce_of_started r.started_start
  | install | uninstall => exact Router.inForce_congr rfl rfl rfl
  | remove s =>
      show (r.remove s).inForce = r.inForce
      unfold Router.remove
      split
      · exact Router.inForce_congr rfl rfl rfl
      · rfl
  | start | settings | flush => exact r.inForce_start
  | line l text =>
      show (r.line l text).inForce = r.inForce
      rw [Router.line_eq]
      split
      · rfl
      · exact r.inForce_emit _ text
  | emit flags text => exact r.inForce_emit flags text
  | native flags message => exact r.inForce_emit flags _
  | admits l =>
      show (r.admits l).2.inForce = r.inForce
      rw [Router.admits_eq]
      split <;> simp

/-- An operation installs a sink, takes one away, or leaves the installed one alone. -/
theorem sink_perform (op : LogOp) (r : Router) : (op.perform r).2.sink = op.sinkAfter r.sink := by
  cases op with
  | install | uninstall => rfl
  | remove s =>
      show (r.remove s).sink = if r.sink = some s then none else r.sink
      unfold Router.remove Router.isInstalled
      by_cases hs : r.sink = some s <;> simp [hs]
  | line l text => exact r.sink_line l text
  | emit flags text => exact r.sink_emit flags text
  | native flags message => exact r.sink_emit flags _
  | setThreshold | setFlush | start | settings | flush => exact r.sink_start
  | admits l =>
      show (r.admits l).2.sink = r.sink
      rw [Router.admits_eq]
      split <;> simp

/-- The state of logging agrees with the operations so far. -/
structure Tracks (environment : Environment) (before : List LogOp) (r : Router) : Prop where
  inForce : r.inForce = inForce environment before
  sink : ∀ sink, r.sink = some sink ↔ Stands before sink
  delivered : r.delivered = []

theorem tracks_fresh (environment : Environment) : Tracks environment [] (.fresh environment) where
  inForce := by
    obtain ⟨level, flush⟩ := environment
    cases level <;> rfl
  sink sink := by
    simp [Router.fresh, Stands]
  delivered := rfl

/-- **Every operation keeps the agreement.** -/
theorem Tracks.step (h : Tracks environment before r) (op : LogOp) :
    Tracks environment (before ++ [op]) (after op r) where
  inForce := by
    have hsame : (after op r).inForce = (op.perform r).2.inForce :=
      Router.inForce_congr rfl rfl rfl
    rw [hsame, inForce_perform, inForce_append, h.inForce]
  sink sink := by
    have hsame : (after op r).sink = (op.perform r).2.sink := rfl
    rw [hsame, sink_perform, sinkAfter_eq_some_iff, stands_append, h.sink]
  delivered := rfl

/-- **Every script reaches a state that agrees with its operations.** -/
theorem tracks_after (environment : Environment) (before : List LogOp) :
    Tracks environment before
      (before.foldl (fun r op => after op r) (.fresh environment)) := by
  induction before using List.reverseRecOn with
  | nil => exact tracks_fresh environment
  | append_singleton before op ih =>
      rw [List.foldl_append]
      exact ih.step op

/-- What an operation delivers: its message, unless this is logged at `off` or its level does not
pass. -/
theorem delivered_perform (op : LogOp) (h : r.delivered = []) :
    (op.perform r).2.delivered =
      match op.message? with
      | some (flags, text) =>
          if op.isSilent = false ∧ flags.level.rank ≤ r.inForce.rank then [r.receive flags text]
          else []
      | none => [] := by
  have hemit (flags : Flags) (text : String) : (r.emit flags text).delivered =
      if flags.level.rank ≤ r.inForce.rank then [r.receive flags text] else [] := by
    rw [Router.delivered_emit, h, List.nil_append]
  cases op with
  | setThreshold | start | settings | flush | setFlush => exact r.delivered_start.trans h
  | install | uninstall => exact h
  | remove s =>
      show (r.remove s).delivered = []
      unfold Router.remove
      split <;> exact h
  | admits l =>
      show (r.admits l).2.delivered = []
      rw [Router.admits_eq]
      split
      · exact h
      · exact r.delivered_start.trans h
  | emit flags text => simpa [LogOp.perform, LogOp.message?, LogOp.isSilent] using hemit flags text
  | native flags message =>
      simpa [LogOp.perform, Router.native, LogOp.message?, LogOp.isSilent] using hemit flags _
  | line l text =>
      show (r.line l text).delivered = _
      rw [Router.line_eq]
      cases l with
      | off => simpa [LogOp.message?, LogOp.isSilent] using h
      | _ => simpa [LogOp.message?, LogOp.isSilent] using hemit _ text

/-- The answer to an operation of a script, and what is delivered meanwhile. -/
theorem getElem?_runLog (before rest : List LogOp) (op : LogOp) (r : Router) :
    (runLog (before ++ op :: rest) r)[before.length]? =
      some ((op.perform (before.foldl (fun r op => after op r) r)).1,
        (op.perform (before.foldl (fun r op => after op r) r)).2.delivered) := by
  rw [runLog_append, List.getElem?_append_right (Nat.le_of_eq (length_runLog before r)),
    length_runLog, Nat.sub_self]
  rfl

/-- **Log routing.**  Whatever the environment, and whatever operations came before since logging
had not been started:

* an operation that logs no message delivers nothing;
* nothing is delivered while the level in force is `off`, nor when a message is logged at `off`;
* every other message is delivered exactly if the most severe level that its mask names is at most
  the level in force, once, and with its mask and text unchanged to the sink that stands, or with
  the tag of its level to the error stream if none does;
* the text of a message of the native driver is its C string without the blanks at the end. -/
theorem message_routed (environment : Environment) (before rest : List LogOp) (op : LogOp) :
    ∃ answer deliveries,
      (runLog (before ++ op :: rest) (.fresh environment))[before.length]? =
          some (answer, deliveries) ∧
        (op.message? = none → deliveries = []) ∧
        (inForce environment before = .off ∨ op.isSilent = true → deliveries = []) ∧
        (∀ flags text, op.message? = some (flags, text) → op.isSilent = false →
          ∃ level, flags.IsSeverest level ∧
            if level.rank ≤ (inForce environment before).rank then
              (∀ sink, Stands before sink → deliveries = [.toSink sink flags text]) ∧
                ((∀ sink, ¬Stands before sink) →
                  deliveries = [.toErrorStream s!"{level.tag} {text}\n"])
            else deliveries = []) ∧
        ∀ flags message, op = .native flags message →
          ∃ text blanks, op.message? = some (flags, text) ∧
            (Text.ofCString message).toList = text.toList ++ blanks ∧
            (∀ c ∈ blanks, Text.isBlank c = true) ∧
            ∀ c, text.toList.getLast? = some c → Text.isBlank c = false := by
  have htracks := tracks_after environment before
  have hdelivered := delivered_perform op htracks.delivered
  refine ⟨_, _, getElem?_runLog before rest op _, fun hnone => ?_, fun hsilent => ?_,
    fun flags text hmessage hsilent => ?_, ?_⟩
  · rw [hdelivered, hnone]
  · rw [hdelivered]
    cases hmessage : op.message? with
    | none => rfl
    | some message =>
        obtain ⟨flags, text⟩ := message
        refine if_neg ?_
        rintro ⟨hnot, hrank⟩
        rcases hsilent with hoff | hsilent
        · -- no mask names a level as severe as `off`
          rw [htracks.inForce, hoff] at hrank
          exact flags.level_ne_off (Level.rank_inj (Nat.le_zero.1 hrank))
        · rw [hsilent] at hnot
          cases hnot
  · refine ⟨flags.level, flags.isSeverest_level, ?_⟩
    rw [hmessage] at hdelivered
    simp only [hsilent, true_and, htracks.inForce] at hdelivered
    split
    · next hrank =>
        rw [if_pos hrank] at hdelivered
        refine ⟨fun sink hstands => ?_, fun hnone => ?_⟩
        · rw [hdelivered, Router.receive, (htracks.sink sink).2 hstands]
        · rw [hdelivered, Router.receive]
          cases hsink : (before.foldl (fun r op => after op r) (.fresh environment)).sink with
          | none => rfl
          | some sink => exact absurd ((htracks.sink sink).1 hsink) (hnone sink)
    · next hrank => rw [hdelivered, if_neg hrank]
  · rintro flags message rfl
    obtain ⟨blanks, hsplit, hblanks, hlast⟩ := Text.trimEnd_spec (Text.ofCString message)
    exact ⟨_, blanks, rfl, hsplit, hblanks, hlast⟩

end

end Script

end Offload

/-
**How far a program has come.**

A program that is run comes, after some of its operations, to the program that is left of it.  What
it comes to in the end, and what is heard on the way, can be told from there: the transcript is what
has been heard so far, followed by the transcript of what is left.

Main definitions:

* `Native.Driver.Reaches` — **a program that is run comes to what is left of it**, with what has been
  heard so far.

Main results:

* `Native.Driver.Reaches.attempt_eq`, `Native.Driver.Reaches.attemptTranscript_eq` — the rest of a run
  is the run of the rest;
* `Native.Driver.reaches_of_benign`, `Native.Driver.reaches_of_fatal` — **a judged call** that passes,
  and one that fails;
* `Native.Driver.attemptRounds_of_again`, `Native.Driver.attemptRounds_of_ends` — a round that begins
  anew, and one that ends with a result;
* `Native.Program.Every.heard_attempt` — what is heard is of the kind of the program's operations.
-/

import Offload.Proofs.Native.Transcript

set_option autoImplicit false
set_option relaxedAutoImplicit false

namespace Offload.Native

variable {α β σ : Type} {D : Driver σ}

/-! ### What is left of a program -/

/-- A program that is run on a driver comes to what is left of it, and none of the operations on the
way traps; the transcript is what has been heard so far. -/
inductive Driver.Reaches (D : Driver σ) :
    Program α → World σ → Transcript → Program α → World σ → Prop
  | refl (p : Program α) (w : World σ) : Reaches D p w [] p w
  | step {o : Op} {next : o.Answer → Program α} {p' : Program α} {w w' : World σ} {T : Transcript}
      (htrap : D.trapped? o w = none)
      (h : Reaches D (next (D.answer o w).1) (D.answer o w).2 T p' w') :
      Reaches D (.step o next) w (hear o (D.answer o w).1 ++ T) p' w'

namespace Driver

variable {p p' : Program α} {w w' : World σ} {T : Transcript}

/-- The end of a run is the end of what is left. -/
theorem Reaches.attempt_eq (h : D.Reaches p w T p' w') : D.attempt p w = D.attempt p' w' := by
  induction h with
  | refl => rfl
  | step htrap _ ih =>
      rw [attempt, htrap]
      exact ih

/-- What is heard on the way comes first. -/
theorem Reaches.attemptTranscript_eq (h : D.Reaches p w T p' w') :
    D.attemptTranscript p w = T ++ D.attemptTranscript p' w' := by
  induction h with
  | refl => rfl
  | step htrap _ ih =>
      rw [attemptTranscript, htrap, List.append_assoc]
      exact congrArg _ ih

end Driver

/-! ### Judged calls -/

section

variable {c : Call} {prepared : c.Stored} {f : Outcome c.Stored → Program β} {w : World σ}

theorem request_bind (c : Call) (prepared : c.Stored) (f : Outcome c.Stored → Program β) :
    ((request c prepared).run >>= f) =
      .step (.call c) fun reply => (check reply.status).run >>= fun r =>
        f (r.map fun _ => reply.stored.getD prepared) := by
  refine congrArg (Program.step (.call c)) (funext fun reply => ?_)
  show ((check reply.status >>= fun _ => pure (reply.stored.getD prepared) :
    Action c.Stored).run >>= f) = _
  rw [ExceptT.run_bind, bind_assoc]
  refine congrArg _ (funext fun r => ?_)
  cases r <;> rfl

/-- **A judged call that passes** goes on with the stored value. -/
theorem Driver.reaches_of_benign (htrap : D.trapped? (.call c) w = none)
    (hbenign : (D.answer (.call c) w).1.status.isBenign = true) :
    D.Reaches ((request c prepared).run >>= f) w [.reply (D.answer (.call c) w).1]
      (f (.ok ((D.answer (.call c) w).1.stored.getD prepared))) (D.answer (.call c) w).2 := by
  rw [request_bind]
  refine .step htrap ?_
  rw [check_of_isBenign hbenign]
  exact .refl _ _

/-- **A judged call that fails** ends with its code and with the driver's account of it. -/
theorem Driver.reaches_of_fatal (htrap : D.trapped? (.call c) w = none)
    (hfatal : (D.answer (.call c) w).1.status.isBenign = false) :
    let r := D.answer (.call c) w
    let code := D.lastError r.2.driver
    let text := D.lastErrorText code.2
    ∃ router, D.Reaches ((request c prepared).run >>= f) w [.reply r.1, .code code.1, .text text.1]
      (f (.error (.deviceOperation r.1.status code.1 text.1))) ⟨text.2, router⟩ := by
  intro r code text
  let failure := "accel: native call failed: " ++ Error.deviceDetail r.1.status code.1 text.1
  refine ⟨r.2.router.line .debug failure, ?_⟩
  rw [request_bind]
  refine .step htrap ?_
  rw [check, if_neg (by simp [hfatal])]
  exact .step rfl (.step rfl (.step rfl (.refl _ _)))

end

namespace Driver

/-! ### Rounds -/

theorem attempt_map (D : Driver σ) (p : Program α) (g : α → β) (w : World σ) :
    D.attempt (p >>= fun a => .done (g a)) w =
      ((D.attempt p w).1.map g, (D.attempt p w).2) := by
  induction p generalizing w with
  | done a => rfl
  | step o next ih =>
      rw [Program.step_bind, attempt, attempt]
      cases D.trapped? o w with
      | none => exact ih _ _
      | some left => rfl

theorem attemptTranscript_map (D : Driver σ) (p : Program α) (g : α → β) (w : World σ) :
    D.attemptTranscript (p >>= fun a => .done (g a)) w = D.attemptTranscript p w := by
  induction p generalizing w with
  | done a => rfl
  | step o next ih =>
      rw [Program.step_bind, attemptTranscript, attemptTranscript]
      cases D.trapped? o w with
      | none => exact congrArg _ (ih _ _)
      | some left => rfl

variable {round : Program (Option α)} {rest : Program α} {w w' : World σ} {T : Transcript}

/-- **A round that ends without a result is followed by the next one.** -/
theorem attemptRounds_of_again (h : D.Reaches round w T (.done none) w') (bound : Nat) :
    D.attemptRounds round (bound + 1) w = D.attemptRounds round bound w' ∧
      D.roundsTranscript round (bound + 1) w = T ++ D.roundsTranscript round bound w' := by
  have hround : D.attempt round w = (some none, w') := h.attempt_eq
  have hheard : D.attemptTranscript round w = T := by
    simpa [attemptTranscript] using h.attemptTranscript_eq
  exact ⟨by rw [attemptRounds, hround], by rw [roundsTranscript, hround, hheard]⟩

/-- **A round that ends with a result is the last one.** -/
theorem attemptRounds_of_ends (h : D.Reaches round w T (rest >>= fun a => .done (some a)) w')
    (bound : Nat) :
    D.attemptRounds round (bound + 1) w = (some (D.attempt rest w').1, (D.attempt rest w').2) ∧
      D.roundsTranscript round (bound + 1) w = T ++ D.attemptTranscript rest w' := by
  have hround : D.attempt round w =
      ((D.attempt rest w').1.map some, (D.attempt rest w').2) := by
    rw [h.attempt_eq, attempt_map]
  have hheard : D.attemptTranscript round w = T ++ D.attemptTranscript rest w' := by
    rw [h.attemptTranscript_eq, attemptTranscript_map]
  rw [attemptRounds, roundsTranscript, hround, hheard]
  cases (D.attempt rest w').1 with
  | none => exact ⟨rfl, List.append_nil _⟩
  | some a => exact ⟨rfl, List.append_nil _⟩

end Driver

/-! ### Kinds of operations -/

/-- What is heard is of the kind of the program's operations. -/
theorem Program.Every.heard_attempt {P : Op → Prop} {p : Program α} (hp : p.Every P)
    (D : Driver σ) {w : World σ} {x : Heard} (hx : x ∈ D.attemptTranscript p w) : P x.op := by
  induction p generalizing w with
  | done a => cases hx
  | step o next ih =>
      obtain ⟨ho, hnext⟩ := hp
      rw [Driver.attemptTranscript] at hx
      cases htrap : D.trapped? o w with
      | some left =>
          rw [htrap] at hx
          cases hx
      | none =>
          rw [htrap] at hx
          rcases List.mem_append.1 hx with hx | hx
          · rw [eq_of_mem_hear hx]
            exact ho
          · exact ih _ (hnext _) hx

end Offload.Native

/-
**Runs of systems that make one step at a time.**

A system is given by what each step does to a state, where it is possible.  A run is a list of steps
that are possible one after the other, and it leads to the state that `List.foldlM` comes to; the
runs of pools, of dispatchers, of their callers and of completions are all of this kind.

Main results:

* `foldlM_cons_of_eq_some` — a run, after its first step;
* `foldlM_append_eq_some` — a run in two parts;
* `foldlM_induction` — **what every step preserves holds after every run**.
-/

set_option autoImplicit false
set_option relaxedAutoImplicit false

namespace Offload

variable {S T : Type} {step : S → T → Option S} {t : T} {ts ts' : List T} {s s' s₁ : S}

theorem foldlM_cons_of_eq_some (ht : step s t = some s₁) :
    (t :: ts).foldlM step s = ts.foldlM step s₁ := by
  rw [List.foldlM_cons, ht]
  rfl

theorem foldlM_append_eq_some :
    (ts ++ ts').foldlM step s = some s' ↔
      ∃ s₁, ts.foldlM step s = some s₁ ∧ ts'.foldlM step s₁ = some s' := by
  rw [List.foldlM_append]
  exact Option.bind_eq_some_iff

/-- **What every step preserves holds after every run.** -/
theorem foldlM_induction {motive : S → Prop} (h : ts.foldlM step s = some s') (hstart : motive s)
    (hstep : ∀ s₁ s₂ t, motive s₁ → step s₁ t = some s₂ → motive s₂) : motive s' := by
  induction ts generalizing s with
  | nil =>
      obtain rfl : s = s' := Option.some_inj.1 h
      exact hstart
  | cons t ts ih =>
      obtain ⟨s₁, ht, h⟩ := Option.bind_eq_some_iff.1 h
      exact ih h (hstep s s₁ t hstart ht)

end Offload

/-
**What is on record of a driver's calls.**

A driver of any kind keeps a record of the calls that are made of it, with its replies.  What a
handle may be used for is read off the record: a call may take the handle that was created, and only
that one, as long as it has not been given back; and a handle may be created as long as there was
none.

Main definitions:

* `Native.Made`, `Native.Trace` — a call that has been made, and all of them;
* `Native.Driver.traced` — the driver that keeps the record;
* `Native.created`, `Native.closings` — the handles that were created, and the calls that gave
  handles back;
* `Native.May` — what may be called;
* `Native.IsDisciplined` — **every call on record was one that might be made**;
* `Native.lifeSpec` — operations that may be performed.

Main results:

* `Native.lifeSpec_answer` — how the record grows;
* `Native.Program.Meets.isDisciplined` — programs of such operations keep the record disciplined.
-/

import Offload.Proofs.Native.Meets

set_option autoImplicit false
set_option relaxedAutoImplicit false

namespace Offload.Native

/-! ### Records -/

/-- A call that has been made, with its reply, unless it never returned. -/
structure Made where
  call : Call
  reply : Option (Reply call)

/-- The calls that have been made, oldest first. -/
abbrev Trace : Type := List Made

/-- The state of a driver with the calls that have been made. -/
structure Traced (σ : Type) where
  inner : σ
  trace : Trace

/-- The driver that keeps a record of its calls and replies. -/
def Driver.traced {σ : Type} (D : Driver σ) : Driver (Traced σ) where
  call c s := let (reply, inner) := D.call c s.inner; (reply, ⟨inner, s.trace ++ [⟨c, some reply⟩]⟩)
  lastError s := let (code, inner) := D.lastError s.inner; (code, { s with inner })
  lastErrorText s := let (text, inner) := D.lastErrorText s.inner; (text, { s with inner })
  store region data s := { s with inner := D.store region data s.inner }
  fetch region length s := D.fetch region length s.inner
  blocks c s := D.blocks c s.inner
  staysBlocked c s := D.staysBlocked c s.inner
  resume c s :=
    let (reply, inner) := D.resume c s.inner
    (reply, ⟨inner, s.trace ++ [⟨c, some reply⟩]⟩)
  traps c s := (D.traps c s.inner).map fun inner => ⟨inner, s.trace ++ [⟨c, none⟩]⟩

/-! ### The life of a handle -/

/-- The handle that a call has created: only plain success with a handle counts. -/
def Made.creates? : Made → Option Handle
  | ⟨.create _ _, some reply⟩ => if reply.status = .success then reply.stored.getD none else none
  | _ => none

/-- The handle that a call was to give back. -/
def Made.closes? : Made → Option (Option Handle)
  | ⟨.close handle, _⟩ => some handle
  | _ => none

/-- The handles that were created. -/
def created (T : Trace) : List Handle := T.filterMap Made.creates?

/-- The handles of the calls to give a handle back, whatever these calls have come to. -/
def closings (T : Trace) : List (Option Handle) := T.filterMap Made.closes?

/-- A call may be made: one that takes a handle takes the only handle that was created, and no call
has been made to give it back; and a call without a handle is made only before there is one. -/
def May (T : Trace) (c : Call) : Prop :=
  match c.handle? with
  | some handle => ∃ h, handle = some h ∧ created T = [h] ∧ closings T = []
  | none => created T = [] ∧ closings T = []

/-- **Every call on record was one that might be made** when it was made. -/
def IsDisciplined (T : Trace) : Prop :=
  ∀ before m after, T = before ++ m :: after → May before m.call

/-- There has been no handle. -/
structure IsBlank (T : Trace) : Prop where
  created : created T = []
  closings : closings T = []

/-- A handle was created, and no call has been made to give it back. -/
structure IsLive (h : Handle) (T : Trace) : Prop where
  created : created T = [h]
  closings : closings T = []

/-- A handle was created, and one call has been made to give it back. -/
structure IsSpent (h : Handle) (T : Trace) : Prop where
  created : created T = [h]
  closings : closings T = [some h]

/-- Whatever handle there was, one call has been made to give it back. -/
def IsSettled (T : Trace) : Prop := IsBlank T ∨ ∃ h, IsSpent h T

section

variable {T : Trace} {m : Made} {c : Call} {reply : Option (Reply c)} {h : Handle}

theorem created_concat : created (T ++ [m]) = created T ++ m.creates?.toList := by
  rw [created, List.filterMap_append, created]
  cases hm : m.creates? <;> simp [List.filterMap, hm]

theorem closings_concat : closings (T ++ [m]) = closings T ++ m.closes?.toList := by
  rw [closings, List.filterMap_append, closings]
  cases hm : m.closes? <;> simp [List.filterMap, hm]

theorem creates?_of_handle? {handle : Option Handle} (hc : c.handle? = some handle) :
    (⟨c, reply⟩ : Made).creates? = none := by
  cases c with
  | present | create => cases hc
  | _ => rfl

theorem IsLive.may (hT : IsLive h T) (hc : c.handle? = some (some h)) : May T c := by
  rw [May, hc]
  exact ⟨h, rfl, hT.created, hT.closings⟩

theorem IsBlank.may (hT : IsBlank T) (hc : c.handle? = none) : May T c := by
  rw [May, hc]
  exact ⟨hT.created, hT.closings⟩

theorem IsLive.concat (hT : IsLive h T) (hc : c.handle? = some (some h))
    (hclose : (⟨c, reply⟩ : Made).closes? = none) : IsLive h (T ++ [⟨c, reply⟩]) where
  created := by simp [created_concat, creates?_of_handle? hc, hT.created]
  closings := by simp [closings_concat, hclose, hT.closings]

/-- A handle that is given back is spent, whatever the call comes to. -/
theorem IsLive.close {reply : Option (Reply (.close (some h)))} (hT : IsLive h T) :
    IsSpent h (T ++ [⟨.close (some h), reply⟩]) where
  created := by simp [created_concat, Made.creates?, hT.created]
  closings := by simp [closings_concat, Made.closes?, hT.closings]

theorem IsBlank.concat (hT : IsBlank T) (hcreate : m.creates? = none) (hclose : m.closes? = none) :
    IsBlank (T ++ [m]) where
  created := by simp [created_concat, hcreate, hT.created]
  closings := by simp [closings_concat, hclose, hT.closings]

theorem IsBlank.create (hT : IsBlank T) (hcreate : m.creates? = some h) (hclose : m.closes? = none) :
    IsLive h (T ++ [m]) where
  created := by simp [created_concat, hcreate, hT.created]
  closings := by simp [closings_concat, hclose, hT.closings]

/-- While a handle is live no other call may be made than one that takes it. -/
theorem IsLive.next (hT : IsLive h T) (hm : May T c) :
    IsLive h (T ++ [⟨c, reply⟩]) ∨ IsSpent h (T ++ [⟨c, reply⟩]) := by
  have hhandle : c.handle? = some (some h) := by
    unfold May at hm
    cases hc : c.handle? with
    | none => simp [hc, hT.created] at hm
    | some handle =>
        rw [hc] at hm
        obtain ⟨h', rfl, hcreated, -⟩ := hm
        obtain rfl : h = h' := by simpa [hT.created] using hcreated
        rfl
  cases c with
  | close handle =>
      obtain rfl : handle = some h := Option.some_inj.1 hhandle
      exact Or.inr hT.close
  | _ => exact Or.inl (hT.concat hhandle rfl)

/-- Once a handle is spent no call may be made any more. -/
theorem IsSpent.not_may (hT : IsSpent h T) : ¬May T c := by
  unfold May
  cases c.handle? with
  | none => simp [hT.created]
  | some handle => simp [hT.closings]

theorem isDisciplined_nil : IsDisciplined [] := by
  intro before m after h
  simp at h

/-- A call that may be made keeps the record disciplined. -/
theorem IsDisciplined.concat (hT : IsDisciplined T) (hm : May T m.call) :
    IsDisciplined (T ++ [m]) := by
  intro before m' after heq
  rcases List.eq_nil_or_concat after with rfl | ⟨after, m'', rfl⟩
  · obtain ⟨rfl, rfl⟩ : T = before ∧ m = m' := by simpa using heq
    exact hm
  · rw [List.concat_eq_append, ← List.cons_append, ← List.append_assoc] at heq
    obtain ⟨hT', -⟩ := List.append_inj' heq rfl
    exact hT before m' after hT'

end

/-! ### Operations that may be performed -/

/-- Every call is one that may be made, and may be answered in any way; the record says how. -/
def lifeSpec : OpSpec Trace
  | .call c, Q, T => May T c ∧ ∀ reply, Q reply (T ++ [⟨c, some reply⟩])
  | .lastError, Q, T => ∀ x, Q x T
  | .lastErrorText, Q, T => ∀ x, Q x T
  | .store _ _, Q, T => Q () T
  | .fetch _ _, Q, T => ∀ x, Q x T
  | .log _, Q, T => Q () T

theorem lifeSpec_isMono : lifeSpec.IsMono := by
  intro o Q Q' T hQ h
  cases o with
  | call c => exact ⟨h.1, fun reply => hQ _ _ (h.2 reply)⟩
  | store | log => exact hQ _ _ h
  | _ => exact fun x => hQ x T (h x)

section

variable {σ : Type} {D : Driver σ}

/-- **The record of a traced driver grows with every call.** -/
theorem lifeSpec_answer {o : Op} {Q : o.Answer → Trace → Prop} {w : World (Traced σ)}
    (h : lifeSpec o Q w.driver.trace) :
    Q (D.traced.answer o w).1 (D.traced.answer o w).2.driver.trace := by
  cases o with
  | call c => exact h.2 _
  | lastError | lastErrorText | fetch => exact h _
  | store | log => exact h

theorem lifeSpec_resumed {o : Op} {Q : o.Answer → Trace → Prop} {w : World (Traced σ)}
    (h : lifeSpec o Q w.driver.trace) :
    Q (D.traced.resumed o w).1 (D.traced.resumed o w).2.driver.trace := by
  cases o with
  | call c => exact h.2 _
  | lastError | lastErrorText | fetch => exact h _
  | store | log => exact h

theorem trapped?_traced {o : Op} {w w' : World (Traced σ)} (h : D.traced.trapped? o w = some w') :
    ∃ c, o = .call c ∧ w'.driver.trace = w.driver.trace ++ [⟨c, none⟩] := by
  cases o with
  | call c =>
      obtain ⟨s, hs, rfl⟩ := Option.map_eq_some_iff.1 h
      obtain ⟨inner, -, rfl⟩ := Option.map_eq_some_iff.1 hs
      exact ⟨c, rfl, rfl⟩
  | _ => cases h

/-- Programs of operations that may be performed keep the record disciplined. -/
theorem Program.Meets.isDisciplined {α : Type} {p : Program α} {Q : α → Trace → Prop} {T : Trace}
    (hp : p.Meets lifeSpec Q T) (hT : IsDisciplined T) :
    p.Meets lifeSpec (fun a T' => IsDisciplined T' ∧ Q a T') T := by
  induction p generalizing T with
  | done a => exact ⟨hT, hp⟩
  | step o next ih =>
      cases o with
      | call c => exact ⟨hp.1, fun reply => ih reply (hp.2 reply) (hT.concat hp.1)⟩
      | store | log => exact ih _ hp hT
      | _ => exact fun x => ih x (hp x) hT

end

/-! ### Judged calls -/

section

variable {α : Type} {T : Trace} {h : Handle}

theorem life_check {status : Status} {Q : Outcome Unit → Trace → Prop} (hQ : ∀ r, Q r T) :
    (check status).run.Meets lifeSpec Q T := by
  by_cases hs : status.isBenign = true
  · rw [check_of_isBenign hs]
    exact hQ _
  · rw [check, if_neg hs]
    exact fun _ _ => hQ _

theorem life_call {c : Call} {f : Reply c → Action α} {Q : Outcome α → Trace → Prop} (hc : May T c)
    (hf : ∀ reply, (f reply).run.Meets lifeSpec Q (T ++ [⟨c, some reply⟩])) :
    (liftM (call c) >>= f).run.Meets lifeSpec Q T :=
  (meets_action_bind _ f).2 ⟨hc, hf⟩

theorem life_request {c : Call} {prepared : c.Stored} {Q : Outcome c.Stored → Trace → Prop}
    (hT : IsLive h T) (hc : c.handle? = some (some h))
    (hclose : ∀ reply, (⟨c, reply⟩ : Made).closes? = none) (hQ : ∀ r T', IsLive h T' → Q r T') :
    (request c prepared).run.Meets lifeSpec Q T := by
  refine meets_request_iff.2 ⟨hT.may hc, fun reply => life_check fun r => ?_⟩
  have hT' := hT.concat hc (hclose (some reply))
  cases r with
  | ok => exact hQ _ _ hT'
  | error e => exact hQ _ _ hT'

end

end Offload.Native

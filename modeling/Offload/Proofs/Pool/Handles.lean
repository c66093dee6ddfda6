/-
**Operations on the handles of jobs.**

Polling a handle, waiting for a finished job, printing a handle and dropping it change nothing but
the outcome and the waker in the completion of that very job, and whether its handle has been given
away; and what such an operation answers depends on nothing that other handles can change.

Main definitions:

* `Script.Jobs.muted` — jobs of which nothing but their handles is left, but for some.

Main results:

* `Ledger.take_congr`, `Ledger.poll_congr` — looking at a completion that nothing is left out of;
* `Script.Jobs.muted_perform` — **what an operation answers does not depend on what is left out**;
* `Script.Jobs.muted_perform_of_not_kept` — **an operation on another handle changes nothing
  else**.
-/

import Offload.Proofs.Pool.Muted
import Offload.Script.Jobs

set_option autoImplicit false
set_option relaxedAutoImplicit false

namespace Offload

/-! ### Completions that somebody looks at -/

namespace Ledger

variable {K : Ticket → Bool} {l l' : Ledger} {t : Ticket}

/-- What is left of a completion that is kept is all of it. -/
theorem cell?_eq_of_muted (h : l'.muted K = l.muted K) (ht : K t = true) :
    l'.cell? t = l.cell? t := by
  rw [← cell?_muted_of_kept (l := l') ht, h, cell?_muted_of_kept ht]

theorem isResolved_eq_of_muted (h : l'.muted K = l.muted K) (t : Ticket) :
    l'.isResolved t = l.isResolved t := by
  rw [← isResolved_muted (K := K) (l := l'), h, isResolved_muted]

theorem wakeCounts_eq_of_muted (h : l'.muted K = l.muted K) (ht : K t = true) :
    l'.wakeCounts t = l.wakeCounts t := by
  have hfilter (l : Ledger) : (l.muted K).wakeUps.filter (fun w => w.1 = t) =
      l.wakeUps.filter fun w => w.1 = t := by
    rw [muted, List.filter_filter]
    refine List.filter_congr fun w _ => ?_
    by_cases hw : w.1 = t
    · simp [hw, ht]
    · simp [hw]
  rw [wakeCounts, wakeCounts, ← hfilter l', h, hfilter]

theorem muted_modify_congr {change : Completion → Completion} (h : l'.muted K = l.muted K)
    (hchange : ∀ c, (change (c.muted (K t))).muted (K t) = (change c).muted (K t)) :
    (l'.modify t change).muted K = (l.modify t change).muted K := by
  rw [← muted_modify (l := l') hchange, h, muted_modify hchange]

theorem muted_modify_of_not_kept {change : Completion → Completion} (ht : K t = false)
    (hchange : ∀ c, (change c).resolved = c.resolved) :
    (l.modify t change).muted K = l.muted K := by
  have hcells : ((l.modify t change).muted K).cells = (l.muted K).cells := by
    refine List.ext_getElem? fun i => ?_
    simp only [muted, modify, List.getElem?_mapIdx, List.getElem?_modify]
    by_cases hi : t = i
    · subst hi
      cases l.cells[t]? <;> simp [ht, Completion.muted, hchange]
    · cases l.cells[i]? <;> simp [hi]
  rw [muted, muted, mk.injEq]
  exact ⟨hcells, rfl⟩

/-- **Taking the outcome of a job that is kept.** -/
theorem take_congr (h : l'.muted K = l.muted K) (ht : K t = true) :
    (l'.take t).1 = (l.take t).1 ∧ (l'.take t).2.muted K = (l.take t).2.muted K := by
  refine ⟨?_, muted_modify_congr h fun c => ?_⟩
  · rw [take, take, cell?_eq_of_muted h ht]
  · cases K t <;> rfl

/-- **Polling a job that is kept.** -/
theorem poll_congr (h : l'.muted K = l.muted K) (ht : K t = true) (waker : Waker) :
    (l'.poll t waker).1 = (l.poll t waker).1 ∧
      (l'.poll t waker).2.muted K = (l.poll t waker).2.muted K := by
  have hlook : (l'.look t waker).1 = (l.look t waker).1 := by
    rw [look, look, cell?_eq_of_muted h ht]
  have hleft : (l'.look t waker).2.muted K = (l.look t waker).2.muted K := by
    refine muted_modify_congr h fun c => ?_
    rw [ht]
    rfl
  rw [poll, poll]
  revert hlook hleft
  generalize l'.look t waker = r'
  generalize l.look t waker = r
  obtain ⟨resolved', left'⟩ := r'
  obtain ⟨resolved, left⟩ := r
  rintro rfl hleft
  cases resolved' with
  | false => exact ⟨rfl, hleft⟩
  | true =>
      obtain ⟨houtcome, htaken⟩ := take_congr hleft ht
      exact ⟨congrArg some houtcome, htaken⟩

theorem muted_take_of_not_kept (ht : K t = false) : (l.take t).2.muted K = l.muted K :=
  muted_modify_of_not_kept ht fun _ => rfl

theorem muted_poll_of_not_kept (ht : K t = false) (waker : Waker) :
    (l.poll t waker).2.muted K = l.muted K := by
  have hleft : (l.look t waker).2.muted K = l.muted K := by
    refine muted_modify_of_not_kept ht fun c => ?_
    obtain ⟨_ | _, outcome, waker⟩ := c <;> rfl
  rw [poll]
  split
  · next hlook =>
      rw [hlook] at hleft
      exact (muted_take_of_not_kept ht).trans hleft
  · next hlook =>
      rw [hlook] at hleft
      exact hleft

end Ledger

/-! ### Operations on handles -/

namespace Script

variable {K : Ticket → Bool}

namespace JobEntry

variable {e e' : JobEntry}

/-- A job of which nothing but its handle is left unless it is to be kept. -/
def muted (K : Ticket → Bool) (e : JobEntry) : JobEntry :=
  if K e.handle.ticket then e else ⟨e.handle, false, false, false⟩

@[simp] theorem handle_muted : (e.muted K).handle = e.handle := by
  unfold muted
  split <;> rfl

theorem muted_of_kept (he : K e.handle.ticket = true) : e.muted K = e := if_pos he

theorem muted_of_not_kept (he : K e.handle.ticket = false) :
    e.muted K = ⟨e.handle, false, false, false⟩ := by
  rw [muted, he]
  rfl

theorem handle_eq_of_muted (h : e'.muted K = e.muted K) : e'.handle = e.handle := by
  rw [← handle_muted (K := K) (e := e'), h, handle_muted]

theorem muted_congr {change : JobEntry → JobEntry} (hchange : ∀ e, (change e).handle = e.handle)
    (h : e'.muted K = e.muted K) : (change e').muted K = (change e).muted K := by
  have hhandle := handle_eq_of_muted h
  cases hK : K e.handle.ticket with
  | true =>
      rw [muted_of_kept hK, muted_of_kept (by rw [hhandle, hK])] at h
      rw [h]
  | false =>
      have hgone := muted_of_not_kept (K := K) (e := change e) (by rw [hchange, hK])
      have hgone' := muted_of_not_kept (K := K) (e := change e') (by rw [hchange, hhandle, hK])
      rw [hgone, hgone', hchange, hchange, hhandle]

end JobEntry

namespace Jobs

variable {jobs jobs' : Jobs} {l l' : Ledger} {e : JobEntry} {n : Nat}
  {change : JobEntry → JobEntry}

/-- Jobs, without what is not kept of them. -/
def muted (K : Ticket → Bool) (jobs : Jobs) : Jobs := jobs.map (JobEntry.muted K)

theorem getElem?_muted : (jobs.muted K)[n]? = jobs[n]?.map (JobEntry.muted K) :=
  List.getElem?_map

theorem getElem?_eq_of_muted (h : jobs'.muted K = jobs.muted K)
    (hn : ∀ e ∈ jobs[n]?, K e.handle.ticket = true) : jobs'[n]? = jobs[n]? := by
  have he : jobs'[n]?.map (JobEntry.muted K) = jobs[n]?.map (JobEntry.muted K) := by
    rw [← getElem?_muted, h, getElem?_muted]
  cases hjob : jobs[n]? with
  | none => rwa [hjob, Option.map_none, Option.map_eq_none_iff] at he
  | some e =>
      rw [hjob, Option.map_some, Option.map_eq_some_iff] at he
      obtain ⟨e', hjob', he⟩ := he
      have hkept := hn e hjob
      have hkept' : K e'.handle.ticket = true := by rw [JobEntry.handle_eq_of_muted he, hkept]
      rw [hjob', ← JobEntry.muted_of_kept hkept', he, JobEntry.muted_of_kept hkept]

theorem handles_eq_of_muted (h : jobs'.muted K = jobs.muted K) :
    jobs'.map JobEntry.handle = jobs.map JobEntry.handle := by
  have hhandles (jobs : Jobs) :
      (jobs.muted K).map JobEntry.handle = jobs.map JobEntry.handle := by
    simp [muted]
  rw [← hhandles jobs', h, hhandles]

theorem muted_add_congr (h : jobs'.muted K = jobs.muted K) (handle : JobHandle) (isHeld : Bool) :
    (jobs'.add handle isHeld).muted K = (jobs.add handle isHeld).muted K := by
  unfold muted at h
  simp only [muted, add, List.map_append, h]

theorem muted_modify_congr (h : jobs'.muted K = jobs.muted K)
    (hchange : ∀ e, (change e).handle = e.handle) :
    muted K (jobs'.modify n change) = muted K (jobs.modify n change) := by
  refine List.ext_getElem? fun i => ?_
  have hi : jobs'[i]?.map (JobEntry.muted K) = jobs[i]?.map (JobEntry.muted K) := by
    rw [← getElem?_muted, h, getElem?_muted]
  simp only [getElem?_muted, List.getElem?_modify, Option.map_eq_map, Option.map_map]
  refine map_eq_of_map_eq hi fun e e' he => ?_
  by_cases hn : n = i
  · simpa [hn] using JobEntry.muted_congr hchange he
  · simpa [hn] using he

theorem muted_modify_of_not_kept (he : jobs[n]? = some e) (hK : K e.handle.ticket = false)
    (hchange : ∀ e, (change e).handle = e.handle) :
    muted K (jobs.modify n change) = jobs.muted K := by
  refine List.ext_getElem? fun i => ?_
  simp only [getElem?_muted, List.getElem?_modify, Option.map_eq_map, Option.map_map]
  by_cases hn : n = i
  · subst hn
    have hgone := JobEntry.muted_of_not_kept (K := K) (e := change e) (by rw [hchange, hK])
    simp [he, hgone, JobEntry.muted_of_not_kept hK, hchange]
  · simp [hn, Function.comp_def]

/-! #### The answers -/

/-- What an operation comes to, without what is not kept. -/
def mutedAnswer (K : Ticket → Bool) (r : Answer × Jobs × Ledger) : Answer × Jobs × Ledger :=
  (r.1, r.2.1.muted K, r.2.2.muted K)

theorem mutedAnswer_congr {answer : Answer} (hjobs : jobs'.muted K = jobs.muted K)
    (hl : l'.muted K = l.muted K) :
    mutedAnswer K (answer, jobs', l') = mutedAnswer K (answer, jobs, l) :=
  congrArg (Prod.mk answer) (Prod.ext hjobs hl)

/-- Giving a handle away, and everything else that is done to a job, leaves its handle alone. -/
theorem muted_giveAway_congr (h : jobs'.muted K = jobs.muted K) :
    (jobs'.giveAway n).muted K = (jobs.giveAway n).muted K :=
  muted_modify_congr h fun _ => rfl

theorem muted_giveAway_of_not_kept (he : jobs[n]? = some e) (hK : K e.handle.ticket = false) :
    (jobs.giveAway n).muted K = jobs.muted K :=
  muted_modify_of_not_kept he hK fun _ => rfl

theorem muted_performHeld (op : JobOp) (hjobs : jobs'.muted K = jobs.muted K)
    (hl : l'.muted K = l.muted K) (hK : K e.handle.ticket = true) :
    mutedAnswer K (performHeld op n e jobs' l') = mutedAnswer K (performHeld op n e jobs l) := by
  have hres := Ledger.isResolved_eq_of_muted hl e.handle.ticket
  cases op with
  | wait =>
      simp only [performHeld, hres]
      split
      · obtain ⟨houtcome, htaken⟩ := Ledger.take_congr hl hK
        simp only [takeOutcome, houtcome]
        exact mutedAnswer_congr (muted_giveAway_congr hjobs) htaken
      · exact mutedAnswer_congr hjobs hl
  | poll waker =>
      obtain ⟨houtcome, hleft⟩ := Ledger.poll_congr hl hK waker
      simp only [performHeld]
      revert houtcome hleft
      generalize l'.poll e.handle.ticket waker = r'
      generalize l.poll e.handle.ticket waker = r
      obtain ⟨outcome', left'⟩ := r'
      obtain ⟨outcome, left⟩ := r
      rintro rfl hleft
      cases outcome' <;> exact mutedAnswer_congr hjobs hleft
  | finished | text =>
      simp only [performHeld, hres]
      exact mutedAnswer_congr hjobs hl
  | drop => exact mutedAnswer_congr (muted_giveAway_congr hjobs) hl
  | waitInBackground =>
      exact mutedAnswer_congr (muted_modify_congr (muted_giveAway_congr hjobs) fun _ => rfl) hl
  | slot | wakes | joinBackground => exact mutedAnswer_congr hjobs hl

/-- **An operation on a handle that is kept** depends on nothing that is left out. -/
theorem muted_perform (op : JobOp) (hjobs : jobs'.muted K = jobs.muted K)
    (hl : l'.muted K = l.muted K) (hn : ∀ e ∈ jobs[n]?, K e.handle.ticket = true) :
    mutedAnswer K (perform op n jobs' l') = mutedAnswer K (perform op n jobs l) := by
  rw [perform, perform, getElem?_eq_of_muted hjobs hn]
  cases hjob : jobs[n]? with
  | none => exact mutedAnswer_congr hjobs hl
  | some e =>
      have hK := hn e hjob
      cases op with
      | wakes =>
          simp only [Ledger.wakeCounts_eq_of_muted hl hK]
          exact mutedAnswer_congr hjobs hl
      | joinBackground =>
          obtain ⟨houtcome, htaken⟩ := Ledger.take_congr hl hK
          simp only [Ledger.isResolved_eq_of_muted hl e.handle.ticket, takeOutcome, houtcome]
          split
          · exact mutedAnswer_congr hjobs hl
          · split
            · exact mutedAnswer_congr hjobs hl
            · exact mutedAnswer_congr (muted_modify_congr hjobs fun _ => rfl) htaken
      | _ =>
          simp only
          split
          · exact muted_performHeld _ hjobs hl hK
          · exact mutedAnswer_congr hjobs hl

theorem muted_performHeld_of_not_kept (op : JobOp) (he : jobs[n]? = some e)
    (hK : K e.handle.ticket = false) :
    (performHeld op n e jobs l).2.1.muted K = jobs.muted K ∧
      (performHeld op n e jobs l).2.2.muted K = l.muted K := by
  have haway := muted_giveAway_of_not_kept he hK
  cases op with
  | wait =>
      simp only [performHeld]
      split
      · exact ⟨haway, Ledger.muted_take_of_not_kept hK⟩
      · exact ⟨rfl, rfl⟩
  | poll waker =>
      have hleft := Ledger.muted_poll_of_not_kept (l := l) hK waker
      simp only [performHeld]
      revert hleft
      generalize l.poll e.handle.ticket waker = r
      obtain ⟨outcome, left⟩ := r
      intro hleft
      cases outcome <;> exact ⟨rfl, hleft⟩
  | drop => exact ⟨haway, rfl⟩
  | waitInBackground =>
      refine ⟨?_, rfl⟩
      simp only [performHeld, giveAway, List.modify_modify_eq]
      exact muted_modify_of_not_kept he hK fun _ => rfl
  | finished | text | slot | wakes | joinBackground => exact ⟨rfl, rfl⟩

/-- **An operation on a handle that is not kept** makes no difference but to what is left out. -/
theorem muted_perform_of_not_kept (op : JobOp) (hn : ∀ e ∈ jobs[n]?, K e.handle.ticket = false) :
    (perform op n jobs l).2.1.muted K = jobs.muted K ∧
      (perform op n jobs l).2.2.muted K = l.muted K := by
  rw [perform]
  cases hjob : jobs[n]? with
  | none => exact ⟨rfl, rfl⟩
  | some e =>
      have hK := hn e hjob
      cases op with
      | wakes => exact ⟨rfl, rfl⟩
      | joinBackground =>
          simp only
          split
          · exact ⟨rfl, rfl⟩
          · split
            · exact ⟨rfl, rfl⟩
            · exact ⟨muted_modify_of_not_kept hjob hK fun _ => rfl,
                Ledger.muted_take_of_not_kept hK⟩
      | _ =>
          simp only
          split
          · exact muted_performHeld_of_not_kept _ hjob hK
          · exact ⟨rfl, rfl⟩

end Jobs

end Script

end Offload

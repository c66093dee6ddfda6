/-
**What bringing a dispatcher up comes to.**

Whatever a driver answers, what bringing a dispatcher up comes to is decided by the first answer that
is not acceptable, and can be read off the transcript: before there is a handle only plain success
will do, afterwards a benign status.  The calls that clean up come later and do not matter.

Main definitions:

* `Dispatcher.Interview` — the replies of a device that is being set up, one for each call;
* `Dispatcher.Interview.StopsAt` — the first call that fails;
* `Dispatcher.GivesBack` — a transcript that gives the handle back;
* `Dispatcher.Constructed` — **what bringing up comes to**, with the transcript.

Main results:

* `Dispatcher.heard_settleHandle`, `Dispatcher.heard_setUp` — the two halves of the interview;
* `Dispatcher.construction_outcome` — **every construction on every driver is one of these**.
-/

import Offload.Dispatcher.Basic
import Offload.Proofs.Native.Transcript

set_option autoImplicit false
set_option relaxedAutoImplicit false

namespace Offload

open Native

namespace Dispatcher

/-! ### The interview of a device -/

/-- The replies to the calls that set a device up, in this order.  The last call writes back what
the one before it has read, with the enable bit set. -/
structure Interview (handle : Handle) where
  shellCount : Reply (.shellCount handle)
  bufferCount : Reply (.bufferCount handle)
  bufferSize : Reply (.bufferSize handle)
  cleared : Reply (.writeShell handle Session.configRegister 0)
  current : Reply (.readShell handle Session.configRegister)
  enabled : Reply (.writeShell handle Session.configRegister
    (Session.withPcieBit true (current.stored.getD 0)))

namespace Interview

variable {handle : Handle}

/-- The calls of an interview with their replies. -/
def heard (i : Interview handle) : Transcript :=
  [.reply i.shellCount, .reply i.bufferCount, .reply i.bufferSize, .reply i.cleared,
    .reply i.current, .reply i.enabled]

/-- The capabilities that a device has reported. -/
def capabilities (i : Interview handle) : Capabilities where
  shellRegisters := i.shellCount.stored.getD 0
  bufferCount := i.bufferCount.stored.getD 0
  bufferSize := i.bufferSize.stored.getD 0

/-- All calls have been answered well. -/
def Passes (i : Interview handle) : Prop :=
  ∀ x ∈ i.heard, ∀ status, x.status? = some status → status.isBenign = true

/-- The first call that was not answered well is the one at a place, with this status. -/
structure StopsAt (i : Interview handle) (place : Nat) (status : Status) : Prop where
  before : ∀ x ∈ i.heard.take place, ∀ status, x.status? = some status → status.isBenign = true
  here : (i.heard[place]?).bind Heard.status? = some status
  fatal : status.isBenign = false

end Interview

/-- A transcript that ends with giving the handle back, once, and does nothing else than clearing
the enable bit. -/
def GivesBack (handle : Handle) (T : Transcript) : Prop :=
  ∃ before, T.calls = before ++ [.close handle] ∧
    ∀ c ∈ before, c = .readShell handle Session.configRegister ∨
      ∃ value, c = .writeShell handle Session.configRegister value

/-! ### What bringing up comes to -/

/-- The configured files are free of NUL. -/
def HasCleanPaths (config : Config) : Prop :=
  ∀ path, config.definitions = some path ∨ config.manifest = some path →
    Text.hasNul path = false

/-- What a device is told when it is opened. -/
def paramsOf (config : Config) : OpenParams :=
  { definitions := config.definitions, manifest := config.manifest, logs := true }

/-- A dispatcher that has just been brought up on a device. -/
def assembled (config : Config) (device : Device) (pool : Pool Exchange.Run) : Dispatcher where
  device := device
  pool := pool
  sink := config.sink
  tornDown := false
  teardown := .notBegun
  arrivals := []

/-- The ways in which bringing a dispatcher up can go: the transcript, and what it comes to. -/
inductive Constructed (library : Option String) (config : Config) :
    Transcript → Outcome Dispatcher → Prop
  /-- The driver is not asked anything. -/
  | badPath (path : String) (hpath : config.definitions = some path ∨ config.manifest = some path)
      (hnul : Text.hasNul path = true) :
      Constructed library config [] (.error (.config s!"path contains NUL: {path}"))
  /-- Only plain success counts as presence. -/
  | absent (hpaths : HasCleanPaths config) (presence : Reply (.present (paramsOf config)))
      (hpresence : presence.status ≠ .success) (text : String) :
      Constructed library config [.reply presence, .text text]
        (.error (.connection s!"no device present: {presence.status.text} {text}"))
  /-- Only plain success with a handle counts as a creation. -/
  | uncreated (hpaths : HasCleanPaths config) (presence : Reply (.present (paramsOf config)))
      (hpresence : presence.status = .success)
      (creation : Reply (.create config.endpoint (paramsOf config)))
      (hcreation : creation.status ≠ .success ∨ creation.stored.getD none = none) (text : String) :
      Constructed library config [.reply presence, .reply creation, .text text]
        (.error (.connection
          s!"create handle on endpoint {config.endpoint.toNat}: {creation.status.text} {text}"))
  /-- A call of the interview fails, and what is heard right after it stands. -/
  | failed (hpaths : HasCleanPaths config) (presence : Reply (.present (paramsOf config)))
      (hpresence : presence.status = .success)
      (creation : Reply (.create config.endpoint (paramsOf config))) (handle : Handle)
      (hcreation : creation.status = .success) (hhandle : creation.stored.getD none = some handle)
      (i : Interview handle) (place : Nat) (status : Status) (hstops : i.StopsAt place status)
      (code : UInt32) (text : String) (cleanup : Transcript) (hcleanup : GivesBack handle cleanup) :
      Constructed library config
        ([.reply presence, .reply creation] ++ i.heard.take (place + 1) ++ [.code code, .text text] ++
          cleanup)
        (.error (.deviceOperation status code text))
  /-- The device has no slots. -/
  | noSlots (hpaths : HasCleanPaths config) (presence : Reply (.present (paramsOf config)))
      (hpresence : presence.status = .success)
      (creation : Reply (.create config.endpoint (paramsOf config))) (handle : Handle)
      (hcreation : creation.status = .success) (hhandle : creation.stored.getD none = some handle)
      (i : Interview handle) (hpasses : i.Passes) (hslots : i.capabilities.bufferCount = 0)
      (cleanup : Transcript) (hcleanup : GivesBack handle cleanup) :
      Constructed library config ([.reply presence, .reply creation] ++ i.heard ++ cleanup)
        (.error (.connection "device reports no buffers"))
  /-- The dispatcher is up, with one slot for each buffer. -/
  | up (hpaths : HasCleanPaths config) (presence : Reply (.present (paramsOf config)))
      (hpresence : presence.status = .success)
      (creation : Reply (.create config.endpoint (paramsOf config))) (handle : Handle)
      (hcreation : creation.status = .success) (hhandle : creation.stored.getD none = some handle)
      (i : Interview handle) (hpasses : i.Passes) (hslots : i.capabilities.bufferCount ≠ 0) :
      Constructed library config ([.reply presence, .reply creation] ++ i.heard)
        (.ok (assembled config
          { endpoint := config.endpoint
            capabilities := i.capabilities
            library
            session := some { handle, bufferSize := i.capabilities.bufferSize.toNat } }
          (Pool.fresh i.capabilities.bufferCount.toNat)))

/-! ### The two halves of the interview -/

section

variable {T : Transcript} {handle : Handle}

/-- The interview of a device that has only been asked for its capabilities. -/
def Interview.opening (a : Reply (.shellCount handle)) (b : Reply (.bufferCount handle))
    (c : Reply (.bufferSize handle)) : Interview handle :=
  ⟨a, b, c, .plain .success, .plain .success, .plain .success⟩

/-- Asking a device for its capabilities is the first half of an interview. -/
theorem heard_queryCapabilities {Q : Outcome Capabilities → Transcript → Prop}
    (hok : ∀ a b c, (a.status.isBenign = true ∧ b.status.isBenign = true ∧
        c.status.isBenign = true) → Q (.ok (Interview.opening a b c : Interview handle).capabilities)
      (T ++ [.reply a, .reply b, .reply c]))
    (herror : ∀ (i : Interview handle) place status code text, i.StopsAt place status →
      Q (.error (.deviceOperation status code text))
        (T ++ i.heard.take (place + 1) ++ [.code code, .text text])) :
    (Device.queryCapabilities handle).run.Meets heardSpec Q T := by
  simp only [Device.queryCapabilities, meets_action_bind]
  refine heard_request (fun a ha => ?_) fun a code text ha => ?_
  · refine heard_request (fun b hb => ?_) fun b code text hb => ?_
    · refine heard_request (fun c hc => ?_) fun c code text hc => ?_
      · simpa [Interview.opening, Interview.capabilities] using hok a b c ⟨ha, hb, hc⟩
      · have hstops : (Interview.opening a b c).StopsAt 2 c.status :=
          ⟨by simp [Interview.heard, Interview.opening, ha, hb], rfl, hc⟩
        simpa [Interview.heard, Interview.opening] using herror _ 2 _ code text hstops
    · have hstops : (Interview.opening a b (.plain .success)).StopsAt 1 b.status :=
        ⟨by simp [Interview.heard, Interview.opening, ha], rfl, hb⟩
      simpa [Interview.heard, Interview.opening] using herror _ 1 _ code text hstops
  · have hstops : (Interview.opening a (.plain .success) (.plain .success)).StopsAt 0 a.status :=
      ⟨by simp, rfl, ha⟩
    simpa [Interview.heard, Interview.opening] using herror _ 0 _ code text hstops

/-- Setting a device up is the second half. -/
theorem heard_setUp {Q : Outcome (Pool Exchange.Run) → Transcript → Prop} {device : Device}
    {n : Nat} {a : Reply (.shellCount handle)} {b : Reply (.bufferCount handle)}
    {c : Reply (.bufferSize handle)} (hsession : device.session = some ⟨handle, n⟩)
    (hcapabilities : device.capabilities = (Interview.opening a b c).capabilities)
    (hbenign : a.status.isBenign = true ∧ b.status.isBenign = true ∧ c.status.isBenign = true)
    (hpass : ∀ i : Interview handle, i.Passes → i.capabilities = device.capabilities →
      Q (if i.capabilities.bufferCount = 0 then .error (.connection "device reports no buffers")
        else .ok (Pool.fresh i.capabilities.bufferCount.toNat)) (T ++ i.heard))
    (herror : ∀ (i : Interview handle) place status code text, i.StopsAt place status →
      Q (.error (.deviceOperation status code text))
        (T ++ i.heard.take (place + 1) ++ [.code code, .text text])) :
    (setUp device).run.Meets heardSpec Q (T ++ [.reply a, .reply b, .reply c]) := by
  obtain ⟨ha, hb, hc⟩ := hbenign
  simp only [setUp, Device.withSession, hsession, meets_action_bind, Session.setPcieEnabled]
  refine heard_request (fun cleared h₁ => ?_) fun cleared code text h₁ => ?_
  · refine heard_request (fun current h₂ => ?_) fun current code text h₂ => ?_
    · refine heard_request (fun enabled h₃ => ?_) fun enabled code text h₃ => ?_
      · have hpasses : (⟨a, b, c, cleared, current, enabled⟩ : Interview handle).Passes := by
          simp [Interview.Passes, Interview.heard, ha, hb, hc, h₁, h₂, h₃]
        have hQ := hpass _ hpasses hcapabilities.symm
        simp only [either_ok, hcapabilities]
        by_cases hslots : b.stored.getD 0 = 0
        · have hzero : (Interview.opening a b c).capabilities.bufferCount.toNat = 0 := by
            simp [Interview.opening, Interview.capabilities, hslots]
          simp only [hzero, if_true]
          simpa [Interview.capabilities, hslots, Interview.heard] using hQ
        · have hpos : (Interview.opening a b c).capabilities.bufferCount.toNat ≠ 0 := by
            simpa [Interview.opening, Interview.capabilities, ← UInt32.toNat_inj] using hslots
          simp only [hpos, if_false, Pool.build]
          refine (meets_action_bind _ _).2 ((meets_action_bind _ _).2 ((meets_lift _).2 (heard_log ?_)))
          simpa [Interview.capabilities, hslots, Interview.heard, Interview.opening] using hQ
      · have hstops : (⟨a, b, c, cleared, current, enabled⟩ : Interview handle).StopsAt 5
            enabled.status :=
          ⟨by simp [Interview.heard, ha, hb, hc, h₁, h₂], rfl, h₃⟩
        simpa [Interview.heard] using herror _ 5 _ code text hstops
    · have hstops : (⟨a, b, c, cleared, current, .plain .success⟩ : Interview handle).StopsAt 4
          current.status :=
        ⟨by simp [Interview.heard, ha, hb, hc, h₁], rfl, h₂⟩
      simpa [Interview.heard] using herror _ 4 _ code text hstops
  · have hstops : (⟨a, b, c, cleared, .plain .success, .plain .success⟩ :
        Interview handle).StopsAt 3 cleared.status :=
      ⟨by simp [Interview.heard, ha, hb, hc], rfl, h₁⟩
    simpa [Interview.heard] using herror _ 3 _ code text hstops

/-! ### Giving the handle back -/

theorem heard_request_calls {c : Call} {prepared : c.Stored}
    {Q : Outcome c.Stored → Transcript → Prop}
    (hQ : ∀ r S, Transcript.calls S = [c] → Q r (T ++ S)) :
    (request c prepared).run.Meets heardSpec Q T :=
  heard_request (fun _ _ => hQ _ _ rfl) fun _ _ _ _ => hQ _ _ rfl

/-- A failure of a step that is only logged is not heard. -/
theorem heard_warnOnError {what : String} {step : Action Unit} {Q : Unit → Transcript → Prop}
    (hstep : step.run.Meets heardSpec (fun _ T' => Q () T') T) :
    (Device.warnOnError what step).Meets heardSpec Q T := by
  refine (Program.meets_bind _ _).2 (hstep.mono heardSpec_isMono fun r T' hQ => ?_)
  cases r with
  | ok => exact hQ
  | error e => exact heard_log hQ

theorem heard_noteUnloaded {library : Option String} {Q : Unit → Transcript → Prop} (hQ : Q () T) :
    (noteUnloaded library).Meets heardSpec Q T := by
  cases library with
  | none => exact hQ
  | some path => exact heard_log hQ

/-- Clearing the enable bit reads the configuration and may write it. -/
theorem heard_setPcieEnabled {n : Nat} {enabled : Bool} {Q : Outcome Unit → Transcript → Prop}
    (hQ : ∀ r S, (∀ c ∈ Transcript.calls S, c = .readShell handle Session.configRegister ∨
      ∃ value, c = .writeShell handle Session.configRegister value) → Q r (T ++ S)) :
    (Session.setPcieEnabled ⟨handle, n⟩ enabled).run.Meets heardSpec Q T := by
  rw [Session.setPcieEnabled, meets_action_bind]
  refine heard_request_calls fun r S hS => ?_
  cases r with
  | error e => exact hQ _ _ (by simp [hS])
  | ok current =>
      refine heard_request_calls fun r S' hS' => ?_
      rw [List.append_assoc]
      exact hQ _ _ (by simp [calls_append, hS, hS'])

theorem heard_close {device : Device} {n : Nat} {Q : Bool × Device → Transcript → Prop}
    (hsession : device.session = some ⟨handle, n⟩)
    (hQ : ∀ S, GivesBack handle S → Q (true, device.closed) (T ++ S)) :
    device.close.Meets heardSpec Q T := by
  rw [Device.close, hsession]
  refine (Program.meets_bind _ _).2 ((Program.meets_bind _ _).2 (heard_warnOnError ?_))
  refine heard_setPcieEnabled fun _ S hS => ?_
  refine (Program.meets_bind _ _).2 (heard_warnOnError (heard_request_calls fun _ S' hS' => ?_))
  refine (Program.meets_bind _ _).2 (heard_noteUnloaded (heard_log ?_))
  rw [List.append_assoc]
  exact hQ _ ⟨Transcript.calls S, by rw [calls_append, hS'], hS⟩

/-- A handle whose capabilities cannot be had is given back, and the first failure stands. -/
theorem heard_settleHandle {Q : Outcome Capabilities → Transcript → Prop}
    (hok : ∀ a b c, (a.status.isBenign = true ∧ b.status.isBenign = true ∧
        c.status.isBenign = true) → Q (.ok (Interview.opening a b c : Interview handle).capabilities)
      (T ++ [.reply a, .reply b, .reply c]))
    (herror : ∀ (i : Interview handle) place status code text S, i.StopsAt place status →
      GivesBack handle S → Q (.error (.deviceOperation status code text))
        (T ++ i.heard.take (place + 1) ++ [.code code, .text text] ++ S)) :
    (Device.settleHandle handle).run.Meets heardSpec Q T := by
  rw [Device.settleHandle, meets_action_bind, meets_outcome]
  refine heard_queryCapabilities hok fun i place status code text hstops => ?_
  simp only [either_ok, meets_action_bind, meets_outcome]
  refine heard_request_calls fun r S hS => ?_
  have hQ := herror i place status code text S hstops ⟨[], hS, by simp⟩
  cases r with
  | ok => exact hQ
  | error e => exact heard_log hQ

/-! ### Bringing up -/

theorem mapM_driverPath (file : Option String) :
    (∃ path, file = some path ∧ Text.hasNul path = true ∧
        file.mapM driverPath = .error (.config s!"path contains NUL: {path}")) ∨
      ((∀ path, file = some path → Text.hasNul path = false) ∧ file.mapM driverPath = .ok file) := by
  cases file with
  | none => exact Or.inr ⟨by simp, rfl⟩
  | some path =>
      have hmap : (some path).mapM driverPath = some <$> driverPath path := rfl
      rw [hmap, driverPath]
      cases hnul : Text.hasNul path with
      | true => exact Or.inl ⟨path, rfl, hnul, rfl⟩
      | false => exact Or.inr ⟨by simpa using hnul, rfl⟩

/-- A configuration names a file with NUL in its path, or its paths are handed to the driver. -/
theorem openParams_cases (config : Config) :
    (∃ path, (config.definitions = some path ∨ config.manifest = some path) ∧
        Text.hasNul path = true ∧
        openParams config = .error (.config s!"path contains NUL: {path}")) ∨
      (HasCleanPaths config ∧ openParams config = .ok (paramsOf config)) := by
  rw [openParams]
  rcases mapM_driverPath config.definitions with ⟨path, hd, hnul, heq⟩ | ⟨hd, heq⟩
  · exact Or.inl ⟨path, Or.inl hd, hnul, by rw [heq]; rfl⟩
  · rcases mapM_driverPath config.manifest with ⟨path, hm, hnul, heq'⟩ | ⟨hm, heq'⟩
    · exact Or.inl ⟨path, Or.inr hm, hnul, by rw [heq, heq']; rfl⟩
    · refine Or.inr ⟨fun path hpath => ?_, by rw [heq, heq']; rfl⟩
      exact hpath.elim (hd path) (hm path)

end

section

variable {library : Option String} {config : Config}

/-- Only plain success counts before there is a handle; then the device is interviewed. -/
theorem heard_acquire {Q : Outcome (Handle × Capabilities) → Transcript → Prop}
    (hpaths : HasCleanPaths config)
    (hok : ∀ (presence : Reply (.present (paramsOf config)))
      (creation : Reply (.create config.endpoint (paramsOf config))) (handle : Handle)
      (a : Reply (.shellCount handle)) (b : Reply (.bufferCount handle))
      (c : Reply (.bufferSize handle)), presence.status = .success → creation.status = .success →
      creation.stored.getD none = some handle → (a.status.isBenign = true ∧
        b.status.isBenign = true ∧ c.status.isBenign = true) →
      Q (.ok (handle, (Interview.opening a b c).capabilities))
        ([.reply presence, .reply creation] ++ [.reply a, .reply b, .reply c]))
    (herror : ∀ e S, Constructed library config S (.error e) → Q (.error e) S) :
    (Device.acquire config.endpoint (paramsOf config)).run.Meets heardSpec Q [] := by
  rw [Device.acquire, meets_action_bind]
  refine heard_call fun presence => ?_
  by_cases hpresence : presence.status = .success
  · rw [if_pos hpresence]
    refine (meets_action_bind _ _).2 (heard_call fun creation => ?_)
    have huncreated (hcreation : creation.status ≠ .success ∨ creation.stored.getD none = none) :=
      fun text => herror _ _ (.uncreated hpaths presence hpresence creation hcreation text)
    cases hstored : creation.stored.getD none with
    | none => exact heard_text fun text => huncreated (Or.inr hstored) text
    | some handle =>
        by_cases hcreation : creation.status = .success
        · simp only [hcreation]
          refine (meets_action_bind _ _).2 (heard_settleHandle ?_ ?_)
          · intro a b c hbenign
            exact hok presence creation handle a b c hpresence hcreation hstored hbenign
          · intro i place status code text S hstops hS
            exact herror _ _ (.failed hpaths presence hpresence creation handle hcreation hstored i
              place status hstops code text S hS)
        · simp only [hcreation]
          exact heard_text fun text => huncreated (Or.inl hcreation) text
  · rw [if_neg hpresence]
    exact heard_text fun text => herror _ _ (.absent hpaths presence hpresence text)

/-- A device that cannot be set up is closed, and the first failure stands. -/
theorem heard_bringUpDevice {Q : Outcome (Device × Pool Exchange.Run) → Transcript → Prop}
    (hok : ∀ device pool S, Constructed library config S (.ok (assembled config device pool)) →
      Q (.ok (device, pool)) S)
    (herror : ∀ e S, Constructed library config S (.error e) → Q (.error e) S) :
    (bringUpDevice library config).run.Meets heardSpec Q [] := by
  rw [bringUpDevice]
  rcases openParams_cases config with ⟨path, hpath, hnul, hparams⟩ | ⟨hpaths, hparams⟩
  · rw [hparams, meets_action_bind]
    exact (meets_lift _).2 (heard_noteUnloaded (herror _ _ (.badPath path hpath hnul)))
  · rw [hparams, meets_action_bind, Device.bringUp, meets_action_bind, meets_outcome]
    refine heard_acquire hpaths ?_ fun e S (hS : Constructed library config S (.error e)) => ?_
    · intro presence creation handle a b c hpresence hcreation hhandle hbenign
      refine (meets_action_bind _ _).2 ((meets_lift _).2 (heard_log ?_))
      simp only [either_ok, meets_pure, meets_action_bind, meets_outcome]
      refine heard_setUp rfl rfl hbenign (fun i hpasses hcapabilities => ?_) ?_
      · by_cases hslots : i.capabilities.bufferCount = 0
        · rw [if_pos hslots]
          refine (meets_action_bind _ _).2 ((meets_lift _).2 (heard_close rfl fun S hS => ?_))
          exact herror _ _ (.noSlots hpaths presence hpresence creation handle hcreation hhandle i
            hpasses hslots S hS)
        · rw [if_neg hslots]
          have hup : Constructed library config _ _ := .up hpaths presence hpresence creation handle
            hcreation hhandle i hpasses hslots
          have heq : i.capabilities = (Interview.opening a b c).capabilities := hcapabilities
          rw [heq] at hup ⊢
          exact hok _ _ _ hup
      · intro i place status code text hstops
        refine (meets_action_bind _ _).2 ((meets_lift _).2 (heard_close rfl fun S hS => ?_))
        exact herror _ _ (.failed hpaths presence hpresence creation handle hcreation hhandle i
          place status hstops code text S hS)
    · refine (meets_action_bind _ _).2 ((meets_lift _).2 (heard_noteUnloaded ?_))
      exact herror e S hS

theorem heard_installSink {sink : Option Log.Sink} {Q : Unit → Transcript → Prop}
    {T : Transcript} (hQ : Q () T) : (installSink sink).Meets heardSpec Q T := by
  cases sink with
  | none => exact hQ
  | some sink => exact heard_log hQ

theorem heard_removeSink {sink : Option Log.Sink} {Q : Unit → Transcript → Prop}
    {T : Transcript} (hQ : Q () T) : (removeSink sink).Meets heardSpec Q T := by
  cases sink with
  | none => exact hQ
  | some sink => exact heard_log hQ

/-- **What bringing a dispatcher up comes to**, on every driver and with every configuration. -/
theorem construction_outcome {σ : Type} (D : Driver σ) (library : Option String) (config : Config)
    (w : World σ) :
    Constructed library config (D.transcript (bringUp library config).run w)
      (D.run (bringUp library config).run w).1 := by
  have hmeets : (bringUp library config).run.Meets heardSpec
      (fun r S => Constructed library config S r) [] := by
    rw [bringUp, meets_action_bind]
    refine (meets_lift _).2 (heard_installSink ?_)
    rw [either_ok, meets_action_bind, meets_outcome]
    refine heard_bringUpDevice (fun device pool S hS => hS) fun e S hS => ?_
    exact (meets_action_bind _ _).2 ((meets_lift _).2 (heard_removeSink hS))
  simpa using hmeets.heard D w

end

end Dispatcher

end Offload

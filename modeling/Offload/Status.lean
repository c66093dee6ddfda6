/-
**Status codes of the native driver.**

Every native call reports a 32-bit code.  The library tells three classes apart: success, the
wait timeout, which is expected while polling, and everything else, which ends the current
operation.

Main definitions:

* `Status` — a code, with the documented ones as constants;
* `Status.kind`, `Status.isBenign` — the class of a code, and whether it lets the caller go on;
* `Status.name?`, `Status.text` — the documented name and the printed form.
-/

set_option autoImplicit false
set_option relaxedAutoImplicit false

namespace Offload

/-- A code returned by a native call. -/
structure Status where
  code : UInt32
  deriving DecidableEq, Inhabited

namespace Status

/-! ### The documented codes -/

/-- The call did what it was asked to do. -/
def success : Status := ⟨0⟩

/-- Nothing arrived in time; the caller may go on. -/
def waitTimeout : Status := ⟨1⟩

/-- There is no device. -/
def deviceNotFound : Status := ⟨2⟩

/-- The handle is not the one that was handed out. -/
def invalidHandle : Status := ⟨3⟩

/-- An argument is out of its range. -/
def invalidArgument : Status := ⟨4⟩

/-- There is no such slot. -/
def bufferIndexOutOfRange : Status := ⟨5⟩

/-- There is no such register. -/
def registerOutOfRange : Status := ⟨6⟩

/-- The driver itself failed. -/
def driverError : Status := ⟨9⟩

/-- The names of the documented codes, in the order of the codes. -/
def names : List String :=
  ["SUCCESS", "WAIT_TIMEOUT", "DEVICE_NOT_FOUND", "INVALID_HANDLE", "INVALID_ARGUMENT",
    "BUFFER_INDEX_OUT_OF_RANGE", "REGISTER_OUT_OF_RANGE", "INSUFFICIENT_MEMORY",
    "VERSION_MISMATCH", "DRIVER_ERROR", "HARDWARE_ERROR", "UNSUPPORTED"]

/-- The documented name of a code, if it has one. -/
def name? (s : Status) : Option String := names[s.code.toNat]?

/-- A code is printed as its name and number, or as its number alone when it has no name. -/
def text (s : Status) : String :=
  match s.name? with
  | some name => s!"{name} ({s.code.toNat})"
  | none => s!"status {s.code.toNat}"

/-! ### The three classes -/

/-- What a code means for the operation that received it. -/
inductive Kind where
  /-- The call succeeded. -/
  | success
  /-- Nothing arrived in time, which is expected while polling. -/
  | recoverableTimeout
  /-- The operation ends with an error. -/
  | fatal
  deriving DecidableEq, Inhabited

/-- The class of a code. -/
def kind (s : Status) : Kind :=
  if s = success then .success
  else if s = waitTimeout then .recoverableTimeout
  else .fatal

/-- A benign code lets the operation go on. -/
def isBenign (s : Status) : Bool := s.kind ≠ .fatal

@[simp] theorem isBenign_success : success.isBenign = true := by decide

@[simp] theorem isBenign_waitTimeout : waitTimeout.isBenign = true := by decide

/-- Only two codes are benign. -/
theorem isBenign_iff (s : Status) : s.isBenign = true ↔ s = success ∨ s = waitTimeout := by
  constructor
  · intro h
    by_cases h₀ : s = success
    · exact Or.inl h₀
    · by_cases h₁ : s = waitTimeout
      · exact Or.inr h₁
      · simp [isBenign, kind, h₀, h₁] at h
  · rintro (rfl | rfl) <;> simp

end Status

end Offload

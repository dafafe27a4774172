import PoweredUp.Device.Factory

/-!
# Sessions with a device

The hub calls a device in two ways: `set_mode` follows the mode of its port, and
`receive` decodes a port value.  In any sequence of calls nothing but the last mode
is kept, and whatever is received is decoded without failure.
-/

namespace PoweredUp

open Rust

/-- A call to a device. -/
inductive DeviceCall where
  | setMode (mode : UInt8)
  | receive (data : Bytes)
  deriving DecidableEq, Repr

/-- The mode a call sets. -/
def DeviceCall.mode? : DeviceCall → Option UInt8
  | .setMode mode => some mode
  | .receive _ => none

/-- The mode that was set last. -/
def lastMode (calls : List DeviceCall) : Option UInt8 :=
  (calls.filterMap DeviceCall.mode?).getLast?

namespace Device

variable {σ : Type} [Device σ]

/-- The calls in order, with what each `receive` returned. -/
def session (self : σ) : List DeviceCall → Checked (List (Result (Option Event)) × σ)
  | [] => return ([], self)
  | .setMode mode :: calls => session (setMode self mode) calls
  | .receive data :: calls => do
      let (outcome, self) ← receive self data
      let (outcomes, self) ← session self calls
      return (outcome :: outcomes, self)

/-- The device in a mode, or as it is when no mode was set. -/
def inMode (self : σ) (mode : Option UInt8) : σ :=
  mode.elim self (setMode self)

/-- A result of `receive` that is no error and speaks about a port only. -/
def Attributed (portId : UInt8) (outcome : Result (Option Event)) : Prop :=
  ∃ event : Option Event, outcome = .ok event ∧ ∀ emitted ∈ event, emitted.portId = portId

variable [LawfulDevice σ]

/-- A mode set later replaces one set before. -/
theorem inMode_setMode (self : σ) (mode : UInt8) (calls : List DeviceCall) :
    inMode (setMode self mode) (lastMode calls) =
      inMode self (lastMode (.setMode mode :: calls)) := by
  have picked : DeviceCall.mode? (.setMode mode) = some mode := rfl
  rw [lastMode, lastMode, List.filterMap_cons_some picked, List.getLast?_cons]
  cases (calls.filterMap DeviceCall.mode?).getLast? with
  | none => rfl
  | some later => exact LawfulDevice.setMode_setMode self mode later

theorem portId_inMode (self : σ) (mode : Option UInt8) :
    portId (inMode self mode) = portId self := by
  cases mode with
  | none => rfl
  | some mode => exact LawfulDevice.portId_setMode self mode

/-- Every session runs to its end, succeeds in every `receive` and leaves the device
in the last mode. -/
theorem session_eq (self : σ) (calls : List DeviceCall) :
    ∃ outcomes, session self calls = .ret (outcomes, inMode self (lastMode calls)) ∧
      ∀ outcome ∈ outcomes, Attributed (portId self) outcome := by
  induction calls generalizing self with
  | nil => exact ⟨[], rfl, by simp⟩
  | cons call calls ih =>
      cases call with
      | setMode mode =>
          obtain ⟨outcomes, ran, attributed⟩ := ih (setMode self mode)
          rw [inMode_setMode] at ran
          rw [LawfulDevice.portId_setMode] at attributed
          exact ⟨outcomes, ran, attributed⟩
      | receive data =>
          obtain ⟨event, received, emits⟩ := LawfulDevice.receive_eq self data
          obtain ⟨outcomes, ran, attributed⟩ := ih self
          refine ⟨.ok event :: outcomes, ?_, ?_⟩
          · simp only [session, received, Checked.ret_bind, ran]
            rfl
          · exact List.forall_mem_cons.mpr ⟨⟨event, rfl, emits⟩, attributed⟩

end Device

/-- Whatever a new device is told and sent, it decodes every value without failure,
keeps its state but for the mode, and speaks about its own port. -/
theorem DeviceFactory.session_create [FloatScale] (deviceTypeId : UInt16) (portId : UInt8)
    (calls : List DeviceCall) :
    ∃ outcomes device,
      Device.session (create deviceTypeId portId) calls = .ret (outcomes, device) ∧
      (∀ outcome ∈ outcomes, Device.Attributed portId outcome) ∧
      device = Device.inMode (create deviceTypeId portId) (lastMode calls) ∧
      ∀ data, ∃ outcome, Device.receive device data = .ret (outcome, device) ∧
        Device.Attributed portId outcome := by
  obtain ⟨outcomes, ran, attributed⟩ := Device.session_eq (create deviceTypeId portId) calls
  rw [portId_create] at attributed
  refine ⟨outcomes, _, ran, attributed, rfl, fun data => ?_⟩
  obtain ⟨event, received, emits⟩ := LawfulDevice.receive_eq
    (Device.inMode (create deviceTypeId portId) (lastMode calls)) data
  rw [Device.portId_inMode, portId_create] at emits
  exact ⟨.ok event, received, event, rfl, emits⟩

end PoweredUp

import PoweredUp.Device.Light
import PoweredUp.Device.Motor
import PoweredUp.Device.Sensor

/-!
# Device factory

`DeviceFactory::create` chooses one of fourteen device types for a device type id
from the wire.  `BoxDevice` is the boxed trait object: the calls are dispatched
to the device in the box.
-/

namespace PoweredUp

open Rust WireEnum

/-- Fallback for types that are unknown or not implemented. -/
structure GenericDevice where
  deviceTypeId : UInt16
  portId : UInt8
  mode : UInt8
  deriving DecidableEq, Repr

instance : Device GenericDevice where
  deviceTypeId self := self.deviceTypeId
  portId self := self.portId
  setMode self mode := { self with mode }
  receive self data := return (.ok (some (.raw self.portId self.mode data)), self)

instance : LawfulDevice GenericDevice where
  deviceTypeId_setMode _ _ := rfl
  portId_setMode _ _ := rfl
  setMode_setMode _ _ _ := rfl
  receive_eq self data := ⟨_, rfl, by simp [Event.portId, Device.portId]⟩

/-- `Box<dyn Device>`: a device of any of the types of the crate. -/
inductive BoxDevice where
  | basicMotorDevice (device : BasicMotorDevice)
  | tachoMotorDevice (device : TachoMotorDevice)
  | absoluteMotorDevice (device : AbsoluteMotorDevice)
  | colorDistanceSensor (device : ColorDistanceSensor)
  | motionSensor (device : MotionSensor)
  | tiltSensor (device : TiltSensor)
  | voltageSensor (device : VoltageSensor)
  | currentSensor (device : CurrentSensor)
  | remoteControlButton (device : RemoteControlButton)
  | hubLed (device : HubLed)
  | light (device : Light)
  | piezoBuzzer (device : PiezoBuzzer)
  | colorLightMatrix (device : ColorLightMatrix)
  | genericDevice (device : GenericDevice)
  deriving DecidableEq, Repr

/-- Dynamic dispatch: `call` gets the device in the box and the way to box it
again. -/
def BoxDevice.dispatch [FloatScale] {ρ : Type} (self : BoxDevice)
    (call : {σ : Type} → [Device σ] → (σ → BoxDevice) → σ → ρ) : ρ :=
  match self with
  | .basicMotorDevice device => call .basicMotorDevice device
  | .tachoMotorDevice device => call .tachoMotorDevice device
  | .absoluteMotorDevice device => call .absoluteMotorDevice device
  | .colorDistanceSensor device => call .colorDistanceSensor device
  | .motionSensor device => call .motionSensor device
  | .tiltSensor device => call .tiltSensor device
  | .voltageSensor device => call .voltageSensor device
  | .currentSensor device => call .currentSensor device
  | .remoteControlButton device => call .remoteControlButton device
  | .hubLed device => call .hubLed device
  | .light device => call .light device
  | .piezoBuzzer device => call .piezoBuzzer device
  | .colorLightMatrix device => call .colorLightMatrix device
  | .genericDevice device => call .genericDevice device

instance [FloatScale] : Device BoxDevice where
  deviceTypeId self := self.dispatch fun _ device => Device.deviceTypeId device
  portId self := self.dispatch fun _ device => Device.portId device
  setMode self mode := self.dispatch fun box device => box (Device.setMode device mode)
  receive self data := self.dispatch fun box device => do
    let (outcome, device) ← Device.receive device data
    return (outcome, box device)

/-- The device for a device type id.  An id beyond one byte names no known
type. -/
def DeviceFactory.create (deviceTypeId : UInt16) (portId : UInt8) : BoxDevice :=
  if deviceTypeId.toNat < 2 ^ 8 then
    match (tryFrom deviceTypeId.toUInt8 : Result DeviceType) with
    | .ok .simpleMediumLinearMotor | .ok .trainMotor | .ok .duploTrainBaseMotor =>
        .basicMotorDevice (.new portId deviceTypeId)
    | .ok .mediumLinearMotor | .ok .moveHubMediumLinearMotor | .ok .technicLargeLinearMotor
    | .ok .technicXLargeLinearMotor =>
        .tachoMotorDevice (.new portId deviceTypeId)
    | .ok .technicMediumAngularMotor | .ok .technicLargeAngularMotor
    | .ok .technicSmallAngularMotor | .ok .technicMediumAngularMotorGrey
    | .ok .technicLargeAngularMotorGrey =>
        .absoluteMotorDevice (.new portId deviceTypeId)
    | .ok .colorDistanceSensor => .colorDistanceSensor (.new portId)
    | .ok .motionSensor => .motionSensor (.new portId)
    | .ok .tiltSensor | .ok .moveHubTiltSensor => .tiltSensor (.new portId)
    | .ok .voltageSensor => .voltageSensor (.new portId)
    | .ok .currentSensor => .currentSensor (.new portId)
    | .ok .remoteControlButton => .remoteControlButton (.new portId)
    | .ok .hubLed => .hubLed (.new portId)
    | .ok .light => .light (.new portId)
    | .ok .piezoBuzzer => .piezoBuzzer (.new portId)
    | .ok .technic3x3ColorLightMatrix => .colorLightMatrix (.new portId)
    | _ => .genericDevice { deviceTypeId, portId, mode := 0 }
  else
    .genericDevice { deviceTypeId, portId, mode := 0 }

/-! ## Laws of the box -/

/-- Every box holds a lawful device, and calls on its type of box reach the device
inside. -/
theorem BoxDevice.exists_boxed [FloatScale] (self : BoxDevice) :
    ∃ (σ : Type) (_ : Device σ) (_ : LawfulDevice σ) (box : σ → BoxDevice) (device : σ),
      self = box device ∧
        ∀ (ρ : Type) (call : {σ : Type} → [Device σ] → (σ → BoxDevice) → σ → ρ) (other : σ),
          (box other).dispatch call = call box other := by
  cases self with
  | basicMotorDevice device => exact ⟨_, _, inferInstance, _, device, rfl, fun _ _ _ => rfl⟩
  | tachoMotorDevice device => exact ⟨_, _, inferInstance, _, device, rfl, fun _ _ _ => rfl⟩
  | absoluteMotorDevice device => exact ⟨_, _, inferInstance, _, device, rfl, fun _ _ _ => rfl⟩
  | colorDistanceSensor device => exact ⟨_, _, inferInstance, _, device, rfl, fun _ _ _ => rfl⟩
  | motionSensor device => exact ⟨_, _, inferInstance, _, device, rfl, fun _ _ _ => rfl⟩
  | tiltSensor device => exact ⟨_, _, inferInstance, _, device, rfl, fun _ _ _ => rfl⟩
  | voltageSensor device => exact ⟨_, _, inferInstance, _, device, rfl, fun _ _ _ => rfl⟩
  | currentSensor device => exact ⟨_, _, inferInstance, _, device, rfl, fun _ _ _ => rfl⟩
  | remoteControlButton device => exact ⟨_, _, inferInstance, _, device, rfl, fun _ _ _ => rfl⟩
  | hubLed device => exact ⟨_, _, inferInstance, _, device, rfl, fun _ _ _ => rfl⟩
  | light device => exact ⟨_, _, inferInstance, _, device, rfl, fun _ _ _ => rfl⟩
  | piezoBuzzer device => exact ⟨_, _, inferInstance, _, device, rfl, fun _ _ _ => rfl⟩
  | colorLightMatrix device => exact ⟨_, _, inferInstance, _, device, rfl, fun _ _ _ => rfl⟩
  | genericDevice device => exact ⟨_, _, inferInstance, _, device, rfl, fun _ _ _ => rfl⟩

instance [FloatScale] : LawfulDevice BoxDevice where
  deviceTypeId_setMode self mode := by
    obtain ⟨σ, _, _, box, device, rfl, dispatches⟩ := self.exists_boxed
    simp only [Device.deviceTypeId, Device.setMode, dispatches]
    exact LawfulDevice.deviceTypeId_setMode device mode
  portId_setMode self mode := by
    obtain ⟨σ, _, _, box, device, rfl, dispatches⟩ := self.exists_boxed
    simp only [Device.portId, Device.setMode, dispatches]
    exact LawfulDevice.portId_setMode device mode
  setMode_setMode self mode mode' := by
    obtain ⟨σ, _, _, box, device, rfl, dispatches⟩ := self.exists_boxed
    simp only [Device.setMode, dispatches]
    exact congrArg box (LawfulDevice.setMode_setMode device mode mode')
  receive_eq self data := by
    obtain ⟨σ, _, _, box, device, rfl, dispatches⟩ := self.exists_boxed
    obtain ⟨event, received, attributed⟩ := LawfulDevice.receive_eq device data
    simp only [Device.receive, Device.portId, dispatches]
    exact ⟨event, by rw [received]; rfl, attributed⟩

/-- A new device is attached to the port it was made for. -/
theorem DeviceFactory.portId_create [FloatScale] (deviceTypeId : UInt16) (portId : UInt8) :
    Device.portId (create deviceTypeId portId) = portId := by
  unfold create
  split
  · split <;> rfl
  · rfl

/-- The tilt sensor of the Move Hub is built as the other tilt sensor and reports the
type of that one; every other device reports the type it was built for. -/
theorem DeviceFactory.deviceTypeId_create_iff [FloatScale] (deviceTypeId : UInt16)
    (portId : UInt8) :
    Device.deviceTypeId (create deviceTypeId portId) = deviceTypeId ↔
      deviceTypeId ≠ DeviceType.moveHubTiltSensor.asU8.toUInt16 := by
  by_cases small : deviceTypeId.toNat < 2 ^ 8
  · cases known : (tryFrom deviceTypeId.toUInt8 : Result DeviceType) with
    | error error =>
        have generic : create deviceTypeId portId =
            .genericDevice { deviceTypeId, portId, mode := 0 } := by
          simp only [create, small, if_true, known]
        refine iff_of_true (by rw [generic]; rfl) ?_
        rintro rfl
        cases known
    | ok deviceType =>
        have discriminant : deviceType.asU8 = deviceTypeId.toUInt8 := tryFrom_eq_ok.mp known
        have value : deviceType.asU8.toUInt16 = deviceTypeId := by
          apply UInt16.toNat_inj.mp
          rw [discriminant]
          simp only [UInt8.toNat_toUInt16, UInt16.toNat_toUInt8]
          exact Nat.mod_eq_of_lt small
        subst value
        cases deviceType with
        | moveHubTiltSensor =>
            refine iff_of_false (fun same => ?_) fun different => different rfl
            cases same
        | _ => exact iff_of_true rfl (by decide)
  · have generic : create deviceTypeId portId =
        .genericDevice { deviceTypeId, portId, mode := 0 } := by
      simp only [create, small, if_false]
    refine iff_of_true (by rw [generic]; rfl) ?_
    rintro rfl
    exact small (by decide)

example : DeviceFactory.create 0x0026 1 = .tachoMotorDevice (.new 1 0x0026) := by decide

end PoweredUp

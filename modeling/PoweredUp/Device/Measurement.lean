import PoweredUp.Device.Factory

/-!
# Measurements

What the devices on the other side of the connection measure, and the bytes they send
for it.  The event that a device of the crate decodes says what was measured.
-/

namespace PoweredUp

open Rust WireEnum

/-- The id of a type of device on the wire. -/
def DeviceType.wireId (deviceType : DeviceType) : UInt16 := deviceType.asU8.toUInt16

/-- Motors that tell their position. -/
def absoluteTypes : List DeviceType :=
  [.technicMediumAngularMotor, .technicLargeAngularMotor, .technicSmallAngularMotor,
    .technicMediumAngularMotorGrey, .technicLargeAngularMotorGrey]

/-- Motors that count their rotation. -/
def encoderTypes : List DeviceType :=
  [.mediumLinearMotor, .moveHubMediumLinearMotor, .technicLargeLinearMotor,
    .technicXLargeLinearMotor] ++ absoluteTypes

/-- Types with a device of their own. -/
def decodedTypes : List DeviceType :=
  [.simpleMediumLinearMotor, .trainMotor, .duploTrainBaseMotor] ++ encoderTypes ++
    [.colorDistanceSensor, .motionSensor, .tiltSensor, .moveHubTiltSensor, .voltageSensor,
      .currentSensor, .remoteControlButton, .hubLed, .light, .piezoBuzzer,
      .technic3x3ColorLightMatrix]

inductive Measurement where
  | rotation (degrees : Int32)
  | position (angle : Int16)
  | color (seen : Color)
  | inches (distance : UInt8)
  | reflect (percent : UInt8)
  | ambient (percent : UInt8)
  | colorAndDistance (seen : Color) (distance part : UInt8)
  | motion (base overflow : UInt8)
  | tilt (x y : Int8)
  | voltage (counts : UInt16)
  | current (counts : UInt16)
  | button (state : UInt8)
  | raw (data : Bytes)
  deriving DecidableEq, Repr

namespace Measurement

/-- The value that is sent for a measurement. -/
def payload : Measurement → Bytes
  | .rotation degrees => LittleEndian.ofI32 degrees
  | .position angle => LittleEndian.ofU16 angle.toUInt16
  | .color seen => [seen.asU8]
  | .inches distance => [distance]
  | .reflect percent => [percent]
  | .ambient percent => [percent]
  | .colorAndDistance seen distance part => [seen.asU8, 0, distance, part]
  | .motion base overflow => [base, overflow]
  | .tilt x y => [x.toUInt8, y.toUInt8]
  | .voltage counts => LittleEndian.ofU16 counts
  | .current counts => LittleEndian.ofU16 counts
  | .button state => [state]
  | .raw data => data

/-- The event that says what was measured, at a port and in a mode.  An inch is taken
as 25.4 mm, and 20 mm are subtracted. -/
def event [FloatScale] (portId mode : UInt8) : Measurement → Event
  | .rotation degrees => .motorRotate portId degrees
  | .position angle => .motorAngle portId angle
  | .color seen => .color portId seen
  | .inches distance => .distance portId (UInt32.ofNat (distance.toNat * 254 / 10 - 20))
  | .reflect percent => .reflect portId percent
  | .ambient percent => .ambient portId percent
  | .colorAndDistance seen distance part =>
      .colorAndDistance portId seen (UInt32.ofNat (castI32 (FloatScale.distance distance
        (if part > 0 then some part else none)) - 20).toNat)
  | .motion base overflow =>
      .distance portId (UInt32.ofNat ((base.toNat + overflow.toNat * 255) * 10))
  | .tilt x y => .tilt portId x y none
  | .voltage counts => .voltage portId (castU32 (FloatScale.voltage counts))
  | .current counts => .current portId (castU32 (FloatScale.current counts))
  | .button state => .remoteButton portId state
  | .raw data => .raw portId mode data

end Measurement

/-- What a device of a type measures in a mode.  There is no index for the absence of a
colour, and the distance sensor sees ten inches far. -/
inductive Measures : UInt16 → UInt8 → Measurement → Prop where
  | rotation {deviceType : DeviceType} (encodes : deviceType ∈ encoderTypes) (degrees : Int32) :
      Measures deviceType.wireId 0x02 (.rotation degrees)
  | position {deviceType : DeviceType} (absolute : deviceType ∈ absoluteTypes) (angle : Int16) :
      Measures deviceType.wireId 0x03 (.position angle)
  | color {seen : Color} (indexed : seen ≠ .none) :
      Measures DeviceType.colorDistanceSensor.wireId 0x00 (.color seen)
  | inches {distance : UInt8} (near : distance ≤ 10) :
      Measures DeviceType.colorDistanceSensor.wireId 0x01 (.inches distance)
  | reflect (percent : UInt8) :
      Measures DeviceType.colorDistanceSensor.wireId 0x03 (.reflect percent)
  | ambient (percent : UInt8) :
      Measures DeviceType.colorDistanceSensor.wireId 0x04 (.ambient percent)
  | colorAndDistance {seen : Color} (indexed : seen ≠ .none) (distance part : UInt8) :
      Measures DeviceType.colorDistanceSensor.wireId 0x08 (.colorAndDistance seen distance part)
  | motion (mode base overflow : UInt8) :
      Measures DeviceType.motionSensor.wireId mode (.motion base overflow)
  | tilt {deviceType : DeviceType} (tilts : deviceType ∈ [.tiltSensor, .moveHubTiltSensor])
      (x y : Int8) : Measures deviceType.wireId 0x00 (.tilt x y)
  | voltage (mode : UInt8) (counts : UInt16) :
      Measures DeviceType.voltageSensor.wireId mode (.voltage counts)
  | current (mode : UInt8) (counts : UInt16) :
      Measures DeviceType.currentSensor.wireId mode (.current counts)
  | button (mode state : UInt8) :
      Measures DeviceType.remoteControlButton.wireId mode (.button state)
  | raw {deviceTypeId : UInt16}
      (undecoded : ∀ deviceType ∈ decodedTypes, deviceType.wireId ≠ deviceTypeId)
      (mode : UInt8) {data : Bytes} (fits : data.length ≤ 251) :
      Measures deviceTypeId mode (.raw data)

namespace DeviceFactory

theorem create_encoder {deviceType : DeviceType} (encodes : deviceType ∈ encoderTypes)
    (portId : UInt8) :
    create deviceType.wireId portId = .tachoMotorDevice (.new portId deviceType.wireId) ∨
      create deviceType.wireId portId = .absoluteMotorDevice (.new portId deviceType.wireId) := by
  revert encodes
  cases deviceType <;>
    first
    | exact fun _ => .inl rfl
    | exact fun _ => .inr rfl
    | exact fun encodes => absurd encodes (by decide)

theorem create_absolute {deviceType : DeviceType} (absolute : deviceType ∈ absoluteTypes)
    (portId : UInt8) :
    create deviceType.wireId portId = .absoluteMotorDevice (.new portId deviceType.wireId) := by
  revert absolute
  cases deviceType <;>
    first
    | exact fun _ => rfl
    | exact fun absolute => absurd absolute (by decide)

theorem create_tilt {deviceType : DeviceType}
    (tilts : deviceType ∈ [DeviceType.tiltSensor, .moveHubTiltSensor]) (portId : UInt8) :
    create deviceType.wireId portId = .tiltSensor (.new portId) := by
  revert tilts
  cases deviceType <;>
    first
    | exact fun _ => rfl
    | exact fun tilts => absurd tilts (by decide)

/-- Types without a device of their own are generic. -/
theorem create_generic {deviceTypeId : UInt16}
    (undecoded : ∀ deviceType ∈ decodedTypes, deviceType.wireId ≠ deviceTypeId) (portId : UInt8) :
    create deviceTypeId portId = .genericDevice { deviceTypeId, portId, mode := 0 } := by
  by_cases small : deviceTypeId.toNat < 2 ^ 8
  · cases known : (tryFrom deviceTypeId.toUInt8 : Result DeviceType) with
    | error error => simp only [create, small, if_true, known]
    | ok deviceType =>
        have named : deviceType.wireId = deviceTypeId := by
          have discriminant : deviceType.asU8 = deviceTypeId.toUInt8 := tryFrom_eq_ok.mp known
          apply UInt16.toNat_inj.mp
          rw [DeviceType.wireId, discriminant, UInt8.toNat_toUInt16, UInt16.toNat_toUInt8]
          exact Nat.mod_eq_of_lt small
        have other : deviceType ∉ decodedTypes := fun decoded => undecoded _ decoded named
        subst named
        revert other
        cases deviceType <;>
          first
          | exact fun _ => rfl
          | exact fun other => absurd (by decide) other
  · simp only [create, small, if_false]

end DeviceFactory

/-! ## Decoding -/

/-- A device in a mode. -/
def deviceIn [FloatScale] (deviceTypeId : UInt16) (portId mode : UInt8) : BoxDevice :=
  Device.setMode (DeviceFactory.create deviceTypeId portId) mode

theorem ColorDistanceSensor.receiveColor_asU8 (self : ColorDistanceSensor) {seen : Color}
    (indexed : seen ≠ .none) : self.receiveColor [seen.asU8] = some (.color self.portId seen) := by
  cases seen with
  | none => exact absurd rfl indexed
  | _ => rfl

theorem ColorDistanceSensor.receiveDistance_near (self : ColorDistanceSensor) {distance : UInt8}
    (near : distance ≤ 10) : self.receiveDistance [distance] =
      .ret (some (.distance self.portId (UInt32.ofNat (distance.toNat * 254 / 10 - 20)))) := by
  have bound : distance.toNat ≤ 10 := near
  have product : IntType.i32.fit (distance.toNat * 254) = .ret (distance.toNat * 254 : Int) :=
    IntType.fit_eq_ret (by simp only [IntType.i32]; omega) (by simp only [IntType.i32]; omega)
  have quotient : ((distance.toNat * 254 : Int)).tdiv 10 = (distance.toNat * 254 : Int) / 10 :=
    Int.tdiv_eq_ediv_of_nonneg (by omega)
  have millimetres : (max ((distance.toNat * 254 : Int) / 10 - 20) 0).toNat =
      distance.toNat * 254 / 10 - 20 := by omega
  change (if distance ≤ 10 then _ else _) = _
  rw [if_pos near, product, Checked.ret_bind, quotient, IntType.fit_eq_ret
    (by simp only [IntType.i32]; omega) (by simp only [IntType.i32]; omega), Checked.ret_bind,
    millimetres]
  rfl

theorem ColorDistanceSensor.receiveColorAndDistance_asU8 [FloatScale] (self : ColorDistanceSensor)
    {seen : Color} (indexed : seen ≠ .none) (distance part : UInt8) :
    self.receiveColorAndDistance [seen.asU8, 0, distance, part] =
      .ret (some (Measurement.event self.portId self.mode
        (.colorAndDistance seen distance part))) := by
  have fits (dist : Nat) : IntType.i32.fit (castI32 dist - 20) = .ret (castI32 dist - 20) := by
    apply IntType.fit_eq_ret <;> simp only [castI32, IntType.i32] <;> omega
  have low : seen.asU8 ≤ 10 := by
    cases seen with
    | none => exact absurd rfl indexed
    | _ => decide
  have recovered : (tryFrom seen.asU8 : Result Color) = .ok seen := tryFrom_eq_ok.mpr rfl
  have positive (value : Int) : (max value 0).toNat = value.toNat := by omega
  have dist : (if part > 0 then FloatScale.distance distance (some part)
      else FloatScale.distance distance none) =
        FloatScale.distance distance (if part > 0 then some part else none) := by
    split <;> rfl
  change (if seen.asU8 ≤ 10 then _ else _) = _
  rw [if_pos low]
  change (do
    let difference ← IntType.i32.fit (castI32 (if part > 0 then _ else _) - 20)
    _) = _
  rw [dist, fits, Checked.ret_bind, positive, recovered]
  rfl

theorem MotionSensor.receive_motion (self : MotionSensor) (base overflow : UInt8) :
    Device.receive self [base, overflow] = .ret (.ok (some (.distance self.portId
      (UInt32.ofNat ((base.toNat + overflow.toNat * 255) * 10)))), self) := by
  have baseBound := base.toNat_lt
  have overflowBound := overflow.toNat_lt
  have fits (value : Int) (lower : 0 ≤ value) (upper : value ≤ 655350) :
      IntType.u32.fit value = .ret value :=
    IntType.fit_eq_ret (by simpa only [IntType.u32] using lower)
      (by simp only [IntType.u32]; omega)
  have millimetres : ((base.toNat + overflow.toNat * 255 : Int) * 10).toNat =
      (base.toNat + overflow.toNat * 255) * 10 := by omega
  change (do
    let scaled ← IntType.u32.fit (overflow.toNat * 255)
    let sum ← IntType.u32.fit (base.toNat + scaled)
    let mm ← IntType.u32.fit (sum * 10)
    return (Except.ok (some (Event.distance self.portId (UInt32.ofNat mm.toNat))), self)) = _
  rw [fits _ (by omega) (by omega), Checked.ret_bind, fits _ (by omega) (by omega),
    Checked.ret_bind, fits _ (by omega) (by omega), Checked.ret_bind, millimetres]
  rfl

theorem BoxDevice.receive_colorDistanceSensor [FloatScale] {device : ColorDistanceSensor}
    {data : Bytes} {event : Option Event} (decoded : device.decode data = .ret event) :
    Device.receive (colorDistanceSensor device) data =
      .ret (.ok event, colorDistanceSensor device) := by
  have received : Device.receive device data = .ret (.ok event, device) := by
    simp only [Device.receive, decoded, Checked.ret_bind, Checked.pure_eq_ret]
  change (do
    let (outcome, device) ← Device.receive device data
    return (outcome, colorDistanceSensor device)) = _
  rw [received]
  rfl

/-- A device decodes what is sent for a measurement as this measurement. -/
theorem Measures.receive [FloatScale] {deviceTypeId : UInt16} {mode : UInt8}
    {measurement : Measurement} (measures : Measures deviceTypeId mode measurement)
    (portId : UInt8) :
    Device.receive (deviceIn deviceTypeId portId mode) measurement.payload =
      .ret (.ok (some (measurement.event portId mode)), deviceIn deviceTypeId portId mode) := by
  cases measures with
  | rotation encodes degrees =>
      obtain ⟨byte0, byte1, byte2, byte3, bytes, reads⟩ := LittleEndian.exists_ofI32 degrees
      rw [Measurement.payload, bytes, Measurement.event, ← reads, deviceIn]
      rcases DeviceFactory.create_encoder encodes portId with created | created
      · rw [created]
        rfl
      · rw [created]
        rfl
  | position absolute angle =>
      obtain ⟨byte0, byte1, bytes, reads⟩ := LittleEndian.exists_ofU16 angle.toUInt16
      have decoded : LittleEndian.i16 byte0 byte1 = angle := by
        rw [LittleEndian.i16, reads]
        exact Int16.toInt16_toUInt16 angle
      rw [Measurement.payload, bytes, Measurement.event, ← decoded, deviceIn,
        DeviceFactory.create_absolute absolute portId]
      rfl
  | color indexed =>
      have decoded := ColorDistanceSensor.receiveColor_asU8 ⟨portId, 0x00⟩ indexed
      exact BoxDevice.receive_colorDistanceSensor (congrArg Checked.ret decoded)
  | inches near =>
      have decoded := ColorDistanceSensor.receiveDistance_near ⟨portId, 0x01⟩ near
      exact BoxDevice.receive_colorDistanceSensor decoded
  | reflect percent => rfl
  | ambient percent => rfl
  | colorAndDistance indexed distance part =>
      have decoded :=
        ColorDistanceSensor.receiveColorAndDistance_asU8 ⟨portId, 0x08⟩ indexed distance part
      exact BoxDevice.receive_colorDistanceSensor decoded
  | motion mode base overflow =>
      change (do
        let (outcome, device) ← Device.receive (MotionSensor.mk portId) [base, overflow]
        return (outcome, BoxDevice.motionSensor device)) = _
      rw [MotionSensor.receive_motion]
      rfl
  | tilt tilts x y =>
      have created : deviceIn _ portId 0x00 = .tiltSensor ⟨portId, 0x00⟩ :=
        congrArg (Device.setMode · 0x00) (DeviceFactory.create_tilt tilts portId)
      rw [created]
      change Checked.ret (Except.ok (some (Event.tilt portId x.toUInt8.toInt8 y.toUInt8.toInt8
        none)), _) = _
      rw [Int8.toInt8_toUInt8, Int8.toInt8_toUInt8]
      rfl
  | voltage mode counts =>
      obtain ⟨byte0, byte1, bytes, reads⟩ := LittleEndian.exists_ofU16 counts
      rw [Measurement.payload, bytes, Measurement.event, ← reads]
      rfl
  | current mode counts =>
      obtain ⟨byte0, byte1, bytes, reads⟩ := LittleEndian.exists_ofU16 counts
      rw [Measurement.payload, bytes, Measurement.event, ← reads]
      rfl
  | button mode state => rfl
  | raw undecoded mode fits =>
      rw [deviceIn, DeviceFactory.create_generic undecoded portId]
      rfl

end PoweredUp

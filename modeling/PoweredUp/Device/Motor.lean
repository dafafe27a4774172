import PoweredUp.Device.Basic
import PoweredUp.Foundation.LittleEndian

/-!
# Motors

Basic motors produce no events.  Tacho motors report their rotation in mode 2 and
absolute motors in addition their position in mode 3.  Commands are encoded as
payloads of a port output command and returned to the caller.
-/

namespace PoweredUp

open Rust

/-- `Ord::clamp`. -/
def clamp (value low high : Int8) : Int8 :=
  if value < low then low else if high < value then high else value

theorem clamp_mem {low high : Int8} (ordered : low ≤ high) (value : Int8) :
    low ≤ clamp value low high ∧ clamp value low high ≤ high := by
  simp only [clamp, Int8.le_iff_toInt_le, Int8.lt_iff_toInt_lt] at *
  split
  · omega
  · split <;> omega

/-- `map_speed`: clamp a speed, where 127 is the brake, to its wire byte. -/
def mapSpeed (speed : Int8) : UInt8 :=
  if speed = 127 then 127 else (clamp speed (-100) 100).toUInt8

/-- `use_profile`. -/
def useProfile (accel decel : Bool) : UInt8 :=
  accel.toUInt8 ||| (decel.toUInt8 <<< 1)

/-- The payload that sets the time of a profile. -/
def profileTime (subcommand : UInt8) (timeMs : UInt16) (profile : UInt8) : Bytes :=
  [subcommand] ++ LittleEndian.ofU16 timeMs ++ [profile]

/-- The payload of `START_SPEED_FOR_DEGREES`. -/
def startSpeedForDegrees (degrees : UInt32) (speed : Int8) (maxPower : UInt8)
    (brakeStyle : BrakingStyle) (profile : UInt8) : Bytes :=
  [0x0b] ++ LittleEndian.ofU32 degrees ++ [mapSpeed speed, maxPower, brakeStyle.asU8, profile]

/-- Motor with power control only. -/
structure BasicMotorDevice where
  portId : UInt8
  deviceTypeId : UInt16
  deriving DecidableEq, Repr

def BasicMotorDevice.new (portId : UInt8) (deviceTypeId : UInt16) : BasicMotorDevice :=
  { portId, deviceTypeId }

def BasicMotorDevice.encodeSetPower (_self : BasicMotorDevice) (power : Int8) : Bytes :=
  [0x51, 0x00, mapSpeed power]

/-- Set the power to 0. -/
def BasicMotorDevice.encodeStop (self : BasicMotorDevice) : Bytes :=
  self.encodeSetPower 0

/-- Set the power to `BrakingStyle::Brake`. -/
def BasicMotorDevice.encodeBrake (self : BasicMotorDevice) : Bytes :=
  self.encodeSetPower BrakingStyle.brake.asU8.toInt8

instance : Device BasicMotorDevice where
  deviceTypeId self := self.deviceTypeId
  portId self := self.portId
  receive self _ := return (.ok none, self)

/-- Motor with speed control and rotation-encoder feedback. -/
structure TachoMotorDevice where
  portId : UInt8
  deviceTypeId : UInt16
  mode : UInt8
  brakeStyle : BrakingStyle
  maxPower : UInt8
  useAccelerationProfile : Bool
  useDecelerationProfile : Bool
  deriving DecidableEq, Repr

def TachoMotorDevice.new (portId : UInt8) (deviceTypeId : UInt16) : TachoMotorDevice where
  portId := portId
  deviceTypeId := deviceTypeId
  mode := 0
  brakeStyle := .brake
  maxPower := 100
  useAccelerationProfile := true
  useDecelerationProfile := true

namespace TachoMotorDevice

def setBrakingStyle (self : TachoMotorDevice) (style : BrakingStyle) : TachoMotorDevice :=
  { self with brakeStyle := style }

def setMaxPower (self : TachoMotorDevice) (maxPower : UInt8) : TachoMotorDevice :=
  { self with maxPower }

def profile (self : TachoMotorDevice) : UInt8 :=
  useProfile self.useAccelerationProfile self.useDecelerationProfile

def encodeSetAccelerationTime (_self : TachoMotorDevice) (timeMs : UInt16) (profile : UInt8) :
    Bytes :=
  profileTime 0x05 timeMs profile

def encodeSetDecelerationTime (_self : TachoMotorDevice) (timeMs : UInt16) (profile : UInt8) :
    Bytes :=
  profileTime 0x06 timeMs profile

def encodeSetSpeed (self : TachoMotorDevice) (speed : Int8) : Bytes :=
  [0x07, mapSpeed speed, self.maxPower, self.profile]

def encodeSetSpeedForTime (self : TachoMotorDevice) (speed : Int8) (timeMs : UInt16) : Bytes :=
  [0x09] ++ LittleEndian.ofU16 timeMs ++
    [mapSpeed speed, self.maxPower, self.brakeStyle.asU8, self.profile]

def encodeRotateByDegrees (self : TachoMotorDevice) (degrees : UInt32) (speed : Int8) : Bytes :=
  startSpeedForDegrees degrees speed self.maxPower self.brakeStyle self.profile

end TachoMotorDevice

instance : Device TachoMotorDevice where
  deviceTypeId self := self.deviceTypeId
  portId self := self.portId
  setMode self mode := { self with mode }
  receive self data :=
    if self.mode = 0x02 ∧ data.length ≥ 4 then do
      let degrees := LittleEndian.i32 (← index data 0) (← index data 1)
        (← index data 2) (← index data 3)
      return (.ok (some (.motorRotate self.portId degrees)), self)
    else
      return (.ok none, self)

/-- Motor with absolute-position control. -/
structure AbsoluteMotorDevice where
  portId : UInt8
  deviceTypeId : UInt16
  mode : UInt8
  brakeStyle : BrakingStyle
  maxPower : UInt8
  useAccelerationProfile : Bool
  useDecelerationProfile : Bool
  deriving DecidableEq, Repr

def AbsoluteMotorDevice.new (portId : UInt8) (deviceTypeId : UInt16) : AbsoluteMotorDevice where
  portId := portId
  deviceTypeId := deviceTypeId
  mode := 0
  brakeStyle := .brake
  maxPower := 100
  useAccelerationProfile := true
  useDecelerationProfile := true

namespace AbsoluteMotorDevice

def setBrakingStyle (self : AbsoluteMotorDevice) (style : BrakingStyle) : AbsoluteMotorDevice :=
  { self with brakeStyle := style }

def setMaxPower (self : AbsoluteMotorDevice) (maxPower : UInt8) : AbsoluteMotorDevice :=
  { self with maxPower }

def profile (self : AbsoluteMotorDevice) : UInt8 :=
  useProfile self.useAccelerationProfile self.useDecelerationProfile

def encodeGotoAngle (self : AbsoluteMotorDevice) (angle : Int32) (speed : Int8) : Bytes :=
  [0x0d] ++ LittleEndian.ofI32 angle ++
    [mapSpeed speed, self.maxPower, self.brakeStyle.asU8, self.profile]

def encodeResetZero (_self : AbsoluteMotorDevice) : Bytes :=
  [0x51, 0x02, 0x00, 0x00, 0x00, 0x00]

def encodeRotateByDegrees (self : AbsoluteMotorDevice) (degrees : UInt32) (speed : Int8) :
    Bytes :=
  startSpeedForDegrees degrees speed self.maxPower self.brakeStyle self.profile

end AbsoluteMotorDevice

instance : Device AbsoluteMotorDevice where
  deviceTypeId self := self.deviceTypeId
  portId self := self.portId
  setMode self mode := { self with mode }
  receive self data :=
    if self.mode = 0x02 ∧ data.length ≥ 4 then do
      let degrees := LittleEndian.i32 (← index data 0) (← index data 1)
        (← index data 2) (← index data 3)
      return (.ok (some (.motorRotate self.portId degrees)), self)
    else if self.mode = 0x03 ∧ data.length ≥ 2 then do
      let angle := LittleEndian.i16 (← index data 0) (← index data 1)
      return (.ok (some (.motorAngle self.portId angle)), self)
    else
      return (.ok none, self)

/-! ## Received events -/

/-- The rotation in a payload. -/
def rotation? (portId : UInt8) : Bytes → Option Event
  | byte0 :: byte1 :: byte2 :: byte3 :: _ =>
      some (.motorRotate portId (LittleEndian.i32 byte0 byte1 byte2 byte3))
  | _ => none

/-- The position in a payload. -/
def position? (portId : UInt8) : Bytes → Option Event
  | byte0 :: byte1 :: _ => some (.motorAngle portId (LittleEndian.i16 byte0 byte1))
  | _ => none

theorem TachoMotorDevice.receive_eq (self : TachoMotorDevice) (data : Bytes) :
    Device.receive self data =
      .ret (.ok (if self.mode = 2 then rotation? self.portId data else none), self) := by
  simp only [Device.receive]
  by_cases rotates : self.mode = 2
  · rcases data with _ | ⟨byte0, _ | ⟨byte1, _ | ⟨byte2, _ | ⟨byte3, rest⟩⟩⟩⟩ <;>
      simp [rotates, rotation?, index]
  · simp [rotates]

theorem AbsoluteMotorDevice.receive_eq (self : AbsoluteMotorDevice) (data : Bytes) :
    Device.receive self data =
      .ret (.ok (if self.mode = 2 then rotation? self.portId data
        else if self.mode = 3 then position? self.portId data else none), self) := by
  simp only [Device.receive]
  by_cases rotates : self.mode = 2
  · rcases data with _ | ⟨byte0, _ | ⟨byte1, _ | ⟨byte2, _ | ⟨byte3, rest⟩⟩⟩⟩ <;>
      simp [rotates, rotation?, index]
  · by_cases turns : self.mode = 3
    · rcases data with _ | ⟨byte0, _ | ⟨byte1, rest⟩⟩ <;> simp [turns, position?, index]
    · simp [rotates, turns]

theorem motorRotate_of_rotation? {portId : UInt8} {data : Bytes} {event : Event}
    (decoded : event ∈ rotation? portId data) : ∃ degrees, event = .motorRotate portId degrees := by
  unfold rotation? at decoded
  split at decoded
  · cases decoded
    exact ⟨_, rfl⟩
  · cases decoded

theorem motorAngle_of_position? {portId : UInt8} {data : Bytes} {event : Event}
    (decoded : event ∈ position? portId data) : ∃ angle, event = .motorAngle portId angle := by
  unfold position? at decoded
  split at decoded
  · cases decoded
    exact ⟨_, rfl⟩
  · cases decoded

instance : LawfulDevice BasicMotorDevice where
  deviceTypeId_setMode _ _ := rfl
  portId_setMode _ _ := rfl
  setMode_setMode _ _ _ := rfl
  receive_eq _ _ := ⟨none, rfl, by simp⟩

instance : LawfulDevice TachoMotorDevice where
  deviceTypeId_setMode _ _ := rfl
  portId_setMode _ _ := rfl
  setMode_setMode _ _ _ := rfl
  receive_eq self data := by
    refine ⟨_, self.receive_eq data, ?_⟩
    intro event decoded
    split at decoded
    · obtain ⟨degrees, rfl⟩ := motorRotate_of_rotation? decoded
      rfl
    · cases decoded

instance : LawfulDevice AbsoluteMotorDevice where
  deviceTypeId_setMode _ _ := rfl
  portId_setMode _ _ := rfl
  setMode_setMode _ _ _ := rfl
  receive_eq self data := by
    refine ⟨_, self.receive_eq data, ?_⟩
    intro event decoded
    split at decoded
    · obtain ⟨degrees, rfl⟩ := motorRotate_of_rotation? decoded
      rfl
    · split at decoded
      · obtain ⟨angle, rfl⟩ := motorAngle_of_position? decoded
        rfl
      · cases decoded

end PoweredUp

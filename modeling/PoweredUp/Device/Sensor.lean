import PoweredUp.Device.Basic
import PoweredUp.Foundation.LittleEndian

/-!
# Sensors

Every sensor guards the bytes it reads.  The integer scalings stay within their
types because of the range checks in front of them, or because two bytes are too
small to overflow.
-/

namespace PoweredUp

open Rust WireEnum

/-! ## ColorDistanceSensor -/

/-- Mode discriminants of the color and distance sensor. -/
inductive ColorDistanceMode where
  | color
  | distance
  | distanceCount
  | reflect
  | ambient
  | rgbIntensity
  | colorAndDistance
  deriving DecidableEq, Repr

def ColorDistanceMode.asU8 : ColorDistanceMode → UInt8
  | .color => 0x00
  | .distance => 0x01
  | .distanceCount => 0x02
  | .reflect => 0x03
  | .ambient => 0x04
  | .rgbIntensity => 0x05
  | .colorAndDistance => 0x08

structure ColorDistanceSensor where
  portId : UInt8
  mode : UInt8
  deriving DecidableEq, Repr

namespace ColorDistanceSensor

def new (portId : UInt8) : ColorDistanceSensor := { portId, mode := 0 }

/-- Mode `COLOR`: one byte colour index. -/
def receiveColor (self : ColorDistanceSensor) (data : Bytes) : Option Event :=
  match data.head? with
  | some raw =>
      if raw ≤ 10 then
        match (tryFrom raw : Result Color) with
        | .ok color => some (.color self.portId color)
        | .error _ => none
      else none
  | none => none

/-- Mode `DISTANCE`: one byte, in units of about 25.4 mm. -/
def receiveDistance (self : ColorDistanceSensor) (data : Bytes) : Checked (Option Event) :=
  match data.head? with
  | some raw =>
      if raw ≤ 10 then do
        let product ← IntType.i32.fit (raw.toNat * 254)
        let difference ← IntType.i32.fit (product.tdiv 10 - 20)
        return some (.distance self.portId (UInt32.ofNat (max difference 0).toNat))
      else
        return none
  | none => return none

/-- Mode `COLOR_AND_DISTANCE`: bytes `[color, ?, dist, partial]`. -/
def receiveColorAndDistance [FloatScale] (self : ColorDistanceSensor) (data : Bytes) :
    Checked (Option Event) :=
  if data.length ≥ 4 then do
    let colorRaw ← index data 0
    if colorRaw ≤ 10 then do
      let distRaw ← index data 2
      let part ← index data 3
      let dist :=
        if part > 0 then FloatScale.distance distRaw (some part)
        else FloatScale.distance distRaw none
      let difference ← IntType.i32.fit (castI32 dist - 20)
      let mm := UInt32.ofNat (max difference 0).toNat
      match (tryFrom colorRaw : Result Color) with
      | .ok color => return some (.colorAndDistance self.portId color mm)
      | .error _ => return none
    else
      return none
  else
    return none

/-- Decoding by mode. -/
def decode [FloatScale] (self : ColorDistanceSensor) (data : Bytes) : Checked (Option Event) :=
  if self.mode = ColorDistanceMode.color.asU8 then
    return self.receiveColor data
  else if self.mode = ColorDistanceMode.distance.asU8 then
    self.receiveDistance data
  else if self.mode = ColorDistanceMode.reflect.asU8 then
    return data.head?.map (Event.reflect self.portId)
  else if self.mode = ColorDistanceMode.ambient.asU8 then
    return data.head?.map (Event.ambient self.portId)
  else if self.mode = ColorDistanceMode.colorAndDistance.asU8 then
    self.receiveColorAndDistance data
  else
    return none

end ColorDistanceSensor

instance [FloatScale] : Device ColorDistanceSensor where
  deviceTypeId _ := 37
  portId self := self.portId
  setMode self mode := { self with mode }
  receive self data := do
    let event ← self.decode data
    return (.ok event, self)

/-! ## MotionSensor -/

structure MotionSensor where
  portId : UInt8
  deriving DecidableEq, Repr

def MotionSensor.new (portId : UInt8) : MotionSensor := { portId }

instance : Device MotionSensor where
  deviceTypeId _ := 35
  portId self := self.portId
  receive self data :=
    if data.length ≥ 2 then do
      let base := (← index data 0).toNat
      let overflow := (← index data 1).toNat
      let scaled ← IntType.u32.fit (overflow * 255)
      let sum ← IntType.u32.fit (base + scaled)
      let mm ← IntType.u32.fit (sum * 10)
      return (.ok (some (.distance self.portId (UInt32.ofNat mm.toNat))), self)
    else
      return (.ok none, self)

/-! ## TiltSensor -/

structure TiltSensor where
  portId : UInt8
  mode : UInt8
  deriving DecidableEq, Repr

def TiltSensor.new (portId : UInt8) : TiltSensor := { portId, mode := 0 }

instance : Device TiltSensor where
  deviceTypeId _ := 34
  portId self := self.portId
  setMode self mode := { self with mode }
  receive self data :=
    if self.mode = 0x00 ∧ data.length ≥ 2 then do
      let x := (← index data 0).toInt8
      let y := (← index data 1).toInt8
      return (.ok (some (.tilt self.portId x y none)), self)
    else
      return (.ok none, self)

/-! ## VoltageSensor and CurrentSensor -/

structure VoltageSensor where
  portId : UInt8
  deriving DecidableEq, Repr

def VoltageSensor.new (portId : UInt8) : VoltageSensor := { portId }

structure CurrentSensor where
  portId : UInt8
  deriving DecidableEq, Repr

def CurrentSensor.new (portId : UInt8) : CurrentSensor := { portId }

/-- The common shape of the two decoders: a scaled little-endian reading. -/
def receiveScaled (scale : UInt16 → Nat) (emit : UInt32 → Event) (data : Bytes) :
    Checked (Option Event) :=
  if data.length ≥ 2 then do
    let raw := LittleEndian.u16 (← index data 0) (← index data 1)
    return some (emit (castU32 (scale raw)))
  else
    return none

instance [FloatScale] : Device VoltageSensor where
  deviceTypeId _ := 20
  portId self := self.portId
  receive self data := do
    let event ← receiveScaled FloatScale.voltage (Event.voltage self.portId) data
    return (.ok event, self)

instance [FloatScale] : Device CurrentSensor where
  deviceTypeId _ := 21
  portId self := self.portId
  receive self data := do
    let event ← receiveScaled FloatScale.current (Event.current self.portId) data
    return (.ok event, self)

/-! ## RemoteControlButton -/

structure RemoteControlButton where
  portId : UInt8
  deriving DecidableEq, Repr

def RemoteControlButton.new (portId : UInt8) : RemoteControlButton := { portId }

instance : Device RemoteControlButton where
  deviceTypeId _ := 55
  portId self := self.portId
  receive self data := return (.ok (data.head?.map (Event.remoteButton self.portId)), self)

/-! ## Laws -/

/-- Decoding returns, and what it emits is about the given port. -/
def Decodes (portId : UInt8) (decoded : Checked (Option Event)) : Prop :=
  ∃ event, decoded = .ret event ∧ ∀ emitted ∈ event, emitted.portId = portId

theorem Decodes.none (portId : UInt8) : Decodes portId (.ret none) := ⟨_, rfl, by simp⟩

theorem Decodes.some {portId : UInt8} {event : Event} (attributed : event.portId = portId) :
    Decodes portId (.ret (some event)) :=
  ⟨_, rfl, by simpa using attributed⟩

theorem Decodes.map_head? {portId : UInt8} (emit : UInt8 → Event)
    (attributed : ∀ byte, (emit byte).portId = portId) (data : Bytes) :
    Decodes portId (.ret (data.head?.map emit)) := by
  cases data with
  | nil => exact .none portId
  | cons byte rest => exact .some (attributed byte)

theorem receiveScaled_decodes {portId : UInt8} (scale : UInt16 → Nat) (emit : UInt32 → Event)
    (attributed : ∀ value, (emit value).portId = portId) (data : Bytes) :
    Decodes portId (receiveScaled scale emit data) := by
  unfold receiveScaled
  split
  · simp (disch := omega) only [index_eq_ret, Checked.ret_bind]
    exact .some (attributed _)
  · exact .none portId

namespace ColorDistanceSensor

theorem receiveColor_decodes (self : ColorDistanceSensor) (data : Bytes) :
    Decodes self.portId (.ret (self.receiveColor data)) := by
  unfold receiveColor
  split
  · split
    · split
      · exact .some rfl
      · exact .none _
    · exact .none _
  · exact .none _

/-- The range check keeps the product at or below 2540. -/
theorem receiveDistance_decodes (self : ColorDistanceSensor) (data : Bytes) :
    Decodes self.portId (self.receiveDistance data) := by
  unfold receiveDistance
  split
  · rename_i raw _
    split
    · have bound := raw.toNat_lt
      have product : IntType.i32.fit (raw.toNat * 254) = .ret (raw.toNat * 254 : Int) :=
        IntType.fit_eq_ret (by simp only [IntType.i32]; omega) (by simp only [IntType.i32]; omega)
      have quotient : ((raw.toNat * 254 : Int)).tdiv 10 = (raw.toNat * 254 : Int) / 10 :=
        Int.tdiv_eq_ediv_of_nonneg (by omega)
      rw [product, Checked.ret_bind, quotient, IntType.fit_eq_ret
        (by simp only [IntType.i32]; omega) (by simp only [IntType.i32]; omega)]
      exact .some rfl
    · exact .none _
  · exact .none _

/-- A saturated nonnegative cast is far enough from the lower end of `i32`. -/
theorem receiveColorAndDistance_decodes [FloatScale] (self : ColorDistanceSensor) (data : Bytes) :
    Decodes self.portId (self.receiveColorAndDistance data) := by
  have fits (dist : Nat) : IntType.i32.fit (castI32 dist - 20) = .ret (castI32 dist - 20) := by
    apply IntType.fit_eq_ret <;> simp only [castI32, IntType.i32] <;> omega
  unfold receiveColorAndDistance
  split
  · simp (disch := omega) only [index_eq_ret, Checked.ret_bind]
    split
    · simp only [fits, Checked.ret_bind]
      split
      · exact .some rfl
      · exact .none _
    · exact .none _
  · exact .none _

theorem decode_decodes [FloatScale] (self : ColorDistanceSensor) (data : Bytes) :
    Decodes self.portId (self.decode data) := by
  unfold decode
  split
  · exact self.receiveColor_decodes data
  split
  · exact self.receiveDistance_decodes data
  split
  · exact .map_head? (Event.reflect self.portId) (fun _ => rfl) data
  split
  · exact .map_head? (Event.ambient self.portId) (fun _ => rfl) data
  split
  · exact self.receiveColorAndDistance_decodes data
  · exact .none _

end ColorDistanceSensor

instance [FloatScale] : LawfulDevice ColorDistanceSensor where
  deviceTypeId_setMode _ _ := rfl
  portId_setMode _ _ := rfl
  setMode_setMode _ _ _ := rfl
  receive_eq self data := by
    obtain ⟨event, decoded, attributed⟩ := self.decode_decodes data
    exact ⟨event, by simp [Device.receive, decoded], attributed⟩

instance : LawfulDevice MotionSensor where
  deviceTypeId_setMode _ _ := rfl
  portId_setMode _ _ := rfl
  setMode_setMode _ _ _ := rfl
  receive_eq self data := by
    simp only [Device.receive]
    split
    · simp (disch := omega) only [index_eq_ret, Checked.ret_bind]
      have baseBound := data[0].toNat_lt
      have overflowBound := data[1].toNat_lt
      have fits (value : Int) (lower : 0 ≤ value) (upper : value ≤ 655350) :
          IntType.u32.fit value = .ret value :=
        IntType.fit_eq_ret (by simpa only [IntType.u32] using lower)
          (by simp only [IntType.u32]; omega)
      rw [fits _ (by omega) (by omega), Checked.ret_bind, fits _ (by omega) (by omega),
        Checked.ret_bind, fits _ (by omega) (by omega), Checked.ret_bind]
      exact ⟨_, rfl, by simp [Event.portId, Device.portId]⟩
    · exact ⟨none, rfl, by simp⟩

instance : LawfulDevice TiltSensor where
  deviceTypeId_setMode _ _ := rfl
  portId_setMode _ _ := rfl
  setMode_setMode _ _ _ := rfl
  receive_eq self data := by
    simp only [Device.receive]
    split
    · simp (disch := omega) only [index_eq_ret, Checked.ret_bind]
      exact ⟨_, rfl, by simp [Event.portId, Device.portId]⟩
    · exact ⟨none, rfl, by simp⟩

instance [FloatScale] : LawfulDevice VoltageSensor where
  deviceTypeId_setMode _ _ := rfl
  portId_setMode _ _ := rfl
  setMode_setMode _ _ _ := rfl
  receive_eq self data := by
    obtain ⟨event, decoded, attributed⟩ := receiveScaled_decodes FloatScale.voltage
      (Event.voltage self.portId) (fun _ => rfl) data
    exact ⟨event, by simp [Device.receive, decoded], attributed⟩

instance [FloatScale] : LawfulDevice CurrentSensor where
  deviceTypeId_setMode _ _ := rfl
  portId_setMode _ _ := rfl
  setMode_setMode _ _ _ := rfl
  receive_eq self data := by
    obtain ⟨event, decoded, attributed⟩ := receiveScaled_decodes FloatScale.current
      (Event.current self.portId) (fun _ => rfl) data
    exact ⟨event, by simp [Device.receive, decoded], attributed⟩

instance : LawfulDevice RemoteControlButton where
  deviceTypeId_setMode _ _ := rfl
  portId_setMode _ _ := rfl
  setMode_setMode _ _ _ := rfl
  receive_eq self data := by
    obtain ⟨event, decoded, attributed⟩ :=
      Decodes.map_head? (Event.remoteButton self.portId) (fun _ => rfl) data
    cases decoded
    exact ⟨_, rfl, attributed⟩

end PoweredUp

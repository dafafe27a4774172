import PoweredUp.Foundation.Checked
import PoweredUp.Protocol.Consts

/-!
# Devices

The `Device` trait and the events a device decodes from port values.  The trait
is a class whose methods take and return the device; the laws that every
implementation satisfies are collected in `LawfulDevice`.
-/

namespace PoweredUp

open Rust

/-- A typed event produced from a raw port-value notification. -/
inductive Event where
  | motorRotate (portId : UInt8) (degrees : Int32)
  | motorAngle (portId : UInt8) (angle : Int16)
  | color (portId : UInt8) (color : Color)
  | distance (portId : UInt8) (distanceMm : UInt32)
  | colorAndDistance (portId : UInt8) (color : Color) (distanceMm : UInt32)
  | reflect (portId : UInt8) (percent : UInt8)
  | ambient (portId : UInt8) (percent : UInt8)
  | tilt (portId : UInt8) (x y : Int8) (z : Option Int8)
  | voltage (portId : UInt8) (millivolts : UInt32)
  | current (portId : UInt8) (milliamps : UInt32)
  | remoteButton (portId : UInt8) (state : UInt8)
  | raw (portId : UInt8) (mode : UInt8) (data : Bytes)
  deriving DecidableEq, Repr

/-- The port an event is attributed to. -/
def Event.portId : Event → UInt8
  | .motorRotate portId _ | .motorAngle portId _ | .color portId _ | .distance portId _
  | .colorAndDistance portId _ _ | .reflect portId _ | .ambient portId _ | .tilt portId _ _ _
  | .voltage portId _ | .current portId _ | .remoteButton portId _ | .raw portId _ _ => portId

/-- A sensor or actuator attached to a hub port.  `setMode` is ignored unless a
device overrides it. -/
class Device (σ : Type) where
  deviceTypeId : σ → UInt16
  portId : σ → UInt8
  setMode : σ → UInt8 → σ := fun self _ => self
  receive : σ → Bytes → Checked (Result (Option Event) × σ)

/-- What all devices have in common: the mode is all that `setMode` replaces, and
receiving always succeeds, keeps the device and speaks about its own port. -/
class LawfulDevice (σ : Type) [Device σ] : Prop where
  deviceTypeId_setMode (self : σ) (mode : UInt8) :
    Device.deviceTypeId (Device.setMode self mode) = Device.deviceTypeId self
  portId_setMode (self : σ) (mode : UInt8) :
    Device.portId (Device.setMode self mode) = Device.portId self
  setMode_setMode (self : σ) (mode mode' : UInt8) :
    Device.setMode (Device.setMode self mode) mode' = Device.setMode self mode'
  receive_eq (self : σ) (data : Bytes) :
    ∃ event : Option Event, Device.receive self data = .ret (.ok event, self) ∧
      ∀ emitted ∈ event, emitted.portId = Device.portId self

/-! ## Floating-point scaling -/

/-- The floating-point scalings of the decoders.  Only the integral part of a
nonnegative result is ever used, so that part is what the model keeps. -/
class FloatScale where
  /-- `raw * 9615.0 / 3893.0`. -/
  voltage : UInt16 → Nat
  /-- `raw * 2444.0 / 4095.0`. -/
  current : UInt16 → Nat
  /-- `dist * 25.4`, where `dist` is the raw distance plus the reciprocal of the
  partial distance when there is one. -/
  distance : UInt8 → Option UInt8 → Nat

/-- Scaling in exact arithmetic. -/
@[reducible] def FloatScale.exact : FloatScale where
  voltage raw := raw.toNat * 9615 / 3893
  current raw := raw.toNat * 2444 / 4095
  distance raw
    | none => raw.toNat * 254 / 10
    | some part => (raw.toNat * part.toNat + 1) * 254 / (part.toNat * 10)

/-- The saturating cast of a nonnegative float, `as u32`. -/
def castU32 (value : Nat) : UInt32 := UInt32.ofNat (min value (2 ^ 32 - 1))

/-- The saturating cast of a nonnegative float, `as i32`. -/
def castI32 (value : Nat) : Int := min (value : Int) IntType.i32.max

end PoweredUp

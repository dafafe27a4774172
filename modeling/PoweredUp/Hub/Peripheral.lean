import PoweredUp.Device.Measurement
import PoweredUp.Foundation.Transition
import PoweredUp.Hub.NextMessage
import PoweredUp.Hub.Registry
import PoweredUp.Protocol.RoundTrip

/-!
# The other side

The peripheral that a hub is connected to: devices are plugged in and out, their modes
change, they measure.  What it sends does not say in which mode a value was measured, or
by what; the hub knows this from what it was told before.
-/

namespace PoweredUp

open Rust Framing Transition

/-- A device on a port of the peripheral. -/
structure Plugged where
  deviceTypeId : UInt16
  mode : UInt8
  deriving DecidableEq, Repr

/-- The ports of the peripheral. -/
abbrev Ports := HashMap UInt8 Plugged

inductive PeripheralEvent where
  | attach (portId : UInt8) (deviceTypeId : UInt16) (hardware software : Int32)
  | attachVirtual (portId : UInt8) (deviceTypeId : UInt16) (firstPortId secondPortId : UInt8)
  | detach (portId : UInt8)
  | setMode (portId mode : UInt8) (delta : UInt32) (notifies : UInt8)
  | measure (portId mode : UInt8) (measurement : Measurement)
  | tell (frame : Bytes) (message : LpfMessage)
  deriving DecidableEq, Repr

/-- What can happen to a peripheral.  A new device is in mode 0, only devices that are
plugged in measure, and what else is told is about no port. -/
inductive Happens (ports : Ports) : PeripheralEvent → Ports → Prop where
  | attach (portId : UInt8) (deviceTypeId : UInt16) (hardware software : Int32) :
      Happens ports (.attach portId deviceTypeId hardware software)
        (ports.insert portId ⟨deviceTypeId, 0x00⟩)
  | attachVirtual (portId : UInt8) (deviceTypeId : UInt16) (firstPortId secondPortId : UInt8) :
      Happens ports (.attachVirtual portId deviceTypeId firstPortId secondPortId)
        (ports.insert portId ⟨deviceTypeId, 0x00⟩)
  | detach (portId : UInt8) : Happens ports (.detach portId) (ports.remove portId)
  | setMode {portId : UInt8} {plugged : Plugged} (attached : ports portId = some plugged)
      (mode : UInt8) (delta : UInt32) (notifies : UInt8) :
      Happens ports (.setMode portId mode delta notifies)
        (ports.insert portId { plugged with mode })
  | measure {portId : UInt8} {plugged : Plugged} (attached : ports portId = some plugged)
      {measurement : Measurement}
      (measures : Measures plugged.deviceTypeId plugged.mode measurement) :
      Happens ports (.measure portId plugged.mode measurement) ports
  | tell {frame : Bytes} {message : LpfMessage} (isFrame : IsFrame frame)
      (parses : parse frame = .ret (.ok message)) (elsewhere : message.port? = none) :
      Happens ports (.tell frame message) ports

namespace PeripheralEvent

/-- The bytes that the peripheral sends. -/
def frame : PeripheralEvent → Bytes
  | .attach portId deviceTypeId hardware software =>
      [15, 0x00, 0x04, portId, 0x01] ++ LittleEndian.ofU16 deviceTypeId ++
        LittleEndian.ofI32 hardware ++ LittleEndian.ofI32 software
  | .attachVirtual portId deviceTypeId firstPortId secondPortId =>
      [9, 0x00, 0x04, portId, 0x02] ++ LittleEndian.ofU16 deviceTypeId ++
        [firstPortId, secondPortId]
  | .detach portId => [5, 0x00, 0x04, portId, 0x00]
  | .setMode portId mode delta notifies =>
      [10, 0x00, 0x47, portId, mode] ++ LittleEndian.ofU32 delta ++ [notifies]
  | .measure portId _ measurement =>
      UInt8.ofNat (measurement.payload.length + 4) :: 0x00 :: 0x45 :: portId :: measurement.payload
  | .tell frame _ => frame

/-- The message in the frame. -/
def message : PeripheralEvent → LpfMessage
  | .attach portId deviceTypeId hardware software =>
      .hubAttachedIo { portId
                       event := .attachedIo
                       attached := some { deviceTypeId
                                          hwVersion := (HexVersion.ofRaw hardware).val
                                          swVersion := (HexVersion.ofRaw software).val }
                       virtualAttached := none }
  | .attachVirtual portId deviceTypeId firstPortId secondPortId =>
      .hubAttachedIo { portId
                       event := .attachedVirtualIo
                       attached := none
                       virtualAttached := some { deviceTypeId, firstPortId, secondPortId } }
  | .detach portId =>
      .hubAttachedIo { portId, event := .detachedIo, attached := none, virtualAttached := none }
  | .setMode portId mode _ _ => .portInputFormatSingle { portId, mode }
  | .measure portId _ measurement => .portValueSingle { portId, data := measurement.payload }
  | .tell _ message => message

/-- The event that says what was measured. -/
def meant [FloatScale] : PeripheralEvent → Option Event
  | .measure portId mode measurement => some (measurement.event portId mode)
  | _ => none

end PeripheralEvent

/-- The values that are sent fit in a frame. -/
theorem Measures.length_payload {deviceTypeId : UInt16} {mode : UInt8} {measurement : Measurement}
    (measures : Measures deviceTypeId mode measurement) : measurement.payload.length ≤ 251 := by
  cases measures with
  | raw undecoded mode fits => exact fits
  | _ => exact Nat.le_of_ble_eq_true rfl

namespace Happens

variable {ports ports' : Ports} {event : PeripheralEvent}

theorem isFrame (happens : Happens ports event ports') : IsFrame event.frame := by
  cases happens with
  | measure attached measures =>
      have short := measures.length_payload
      refine isFrame_cons.mpr ?_
      change (UInt8.ofNat _).toNat = _ + 3 + 1
      rw [UInt8.toNat_ofNat']
      omega
  | tell isFrame parses elsewhere => exact isFrame
  | _ => rfl

theorem parse_attach (portId : UInt8) (deviceTypeId : UInt16) (hardware software : Int32) :
    parse (PeripheralEvent.attach portId deviceTypeId hardware software).frame =
      .ret (.ok (PeripheralEvent.attach portId deviceTypeId hardware software).message) := by
  obtain ⟨type0, type1, typeBytes, typeReads⟩ := LittleEndian.exists_ofU16 deviceTypeId
  obtain ⟨hw0, hw1, hw2, hw3, hardwareBytes, hardwareReads⟩ := LittleEndian.exists_ofI32 hardware
  obtain ⟨sw0, sw1, sw2, sw3, softwareBytes, softwareReads⟩ := LittleEndian.exists_ofI32 software
  have decoded (raw : Int32) : Version.fromLeI32 raw = .ret (HexVersion.ofRaw raw).val :=
    Version.fromLeI32_eq raw
  rw [PeripheralEvent.frame, PeripheralEvent.message, typeBytes, hardwareBytes, softwareBytes]
  refine (parse_frame rfl).trans (parseHubAttachedIo_eq_ok.mpr ⟨portId, .attachedIo,
    [type0, type1, hw0, hw1, hw2, hw3, sw0, sw1, sw2, sw3], _, _, rfl, ?_, rfl⟩)
  change (do
    let hwVersion ← Version.fromLeI32 (LittleEndian.i32 hw0 hw1 hw2 hw3)
    let swVersion ← Version.fromLeI32 (LittleEndian.i32 sw0 sw1 sw2 sw3)
    return (some (AttachedIoInfo.mk (LittleEndian.u16 type0 type1) hwVersion swVersion),
      (none : Option VirtualIoInfo))) = _
  rw [hardwareReads, softwareReads, typeReads, decoded, decoded]
  rfl

theorem parses (happens : Happens ports event ports') :
    parse event.frame = .ret (.ok event.message) := by
  cases happens with
  | attach portId deviceTypeId hardware software =>
      exact parse_attach portId deviceTypeId hardware software
  | attachVirtual portId deviceTypeId firstPortId secondPortId =>
      obtain ⟨type0, type1, typeBytes, typeReads⟩ := LittleEndian.exists_ofU16 deviceTypeId
      rw [PeripheralEvent.frame, PeripheralEvent.message, typeBytes, ← typeReads]
      exact (parse_frame rfl).trans (parseHubAttachedIo_eq_ok.mpr
        ⟨portId, .attachedVirtualIo, _, _, _, rfl, rfl, rfl⟩)
  | detach portId => rfl
  | setMode attached mode delta notifies =>
      exact (parse_frame rfl).trans
        (parsePortInputFormatSingle_eq_ok.mpr ⟨_, mode, _, rfl, rfl⟩)
  | measure attached measures =>
      have short := measures.length_payload
      refine (parse_frame ?_).trans (parsePortValueSingle_eq_ok.mpr ⟨_, _, rfl, rfl⟩)
      change (UInt8.ofNat _).toNat = _ + 1 + 3
      rw [UInt8.toNat_ofNat']
      omega
  | tell isFrame parses elsewhere => exact parses

end Happens

section Knowledge

variable {T : Type} [FloatScale]

/-- The device that stands for one of the peripheral. -/
def Plugged.device (portId : UInt8) (plugged : Plugged) : BoxDevice :=
  deviceIn plugged.deviceTypeId portId plugged.mode

namespace Hub

/-- The hub knows the devices of the peripheral, and the modes they are in. -/
def Mirrors (self : Hub Ready T) (ports : Ports) : Prop :=
  ∀ portId, self.state.devices portId = (ports portId).map (Plugged.device portId)

variable {self : Hub Ready T} {ports ports' : Ports} {event : PeripheralEvent}

end Hub

end Knowledge

end PoweredUp

import PoweredUp.Foundation.KeyedLog
import PoweredUp.Hub.Properties

/-!
# Handling messages

`Hub<Ready>::handle_message` updates the properties and the device registry.  The
registry is a keyed log: every message acts on the slot of at most one port, and
`handleMessage_eq` reads the handler off in these terms.
-/

namespace PoweredUp

open Rust KeyedLog

variable {T : Type} [FloatScale]

namespace Hub

/-- Replace the device registry. -/
def withDevices (self : Hub Ready T) (devices : HashMap UInt8 BoxDevice) : Hub Ready T :=
  { self with state := { self.state with devices } }

/-- `handle_message`.  A decoded event and a receive error are both dropped. -/
def handleMessage (self : Hub Ready T) (msg : LpfMessage) : Checked (Hub Ready T) :=
  let devices := self.state.devices
  match msg with
  | .hubAttachedIo m =>
      match m.event with
      | .attachedIo =>
          match m.attached with
          | some info =>
              let device := DeviceFactory.create info.deviceTypeId m.portId
              return self.withDevices (devices.insert m.portId device)
          | none => return self
      | .attachedVirtualIo =>
          match m.virtualAttached with
          | some info =>
              let device := DeviceFactory.create info.deviceTypeId m.portId
              return self.withDevices (devices.insert m.portId device)
          | none => return self
      | .detachedIo => return self.withDevices (devices.remove m.portId)
  | .hubProperty m => return { self with props := connectedApplyHubProperty self.props m }
  | .portInputFormatSingle m =>
      match devices m.portId with
      | some dev => return self.withDevices (devices.insert m.portId (Device.setMode dev m.mode))
      | none => return self
  | .portValueSingle v =>
      match devices v.portId with
      | some dev => do
          let (_, dev) ← Device.receive dev v.data
          return self.withDevices (devices.insert v.portId dev)
      | none => return self
  | _ => return self

end Hub

/-! ## The registry as a keyed log -/

/-- The effective attachment events. -/
inductive Attachment where
  | attach (deviceTypeId : UInt16)
  | detach
  deriving DecidableEq, Repr

/-- The effective event of an attachment message.  An attach message without its
data is not effective. -/
def HubAttachedIoMessage.attachment (m : HubAttachedIoMessage) : Option Attachment :=
  match m.event with
  | .attachedIo => m.attached.map fun info => .attach info.deviceTypeId
  | .attachedVirtualIo => m.virtualAttached.map fun info => .attach info.deviceTypeId
  | .detachedIo => some .detach

/-- What an attachment event does to the slot of its port. -/
def Attachment.action (port : UInt8) : Attachment → Action BoxDevice UInt8
  | .attach deviceTypeId => .insert (DeviceFactory.create deviceTypeId port)
  | .detach => .remove

/-- What a message does to the registry, and on which port. -/
def deviceAction : LpfMessage → Option (UInt8 × Action BoxDevice UInt8)
  | .hubAttachedIo m => m.attachment.map fun attachment => (m.portId, attachment.action m.portId)
  | .portInputFormatSingle m => some (m.portId, .adjust m.mode)
  | _ => none

/-- The registry reading of messages: the setting of a device is its mode. -/
def registry : Reading LpfMessage UInt8 BoxDevice UInt8 where
  action := deviceAction
  set := Device.setMode
  set_set := LawfulDevice.setMode_setMode

/-- What a message does to the properties of a ready hub. -/
def propertyEffect (props : HubProperties) : LpfMessage → HubProperties
  | .hubProperty m => connectedApplyHubProperty props m
  | _ => props

namespace Hub

/-- The hub after handling messages: the registry is replayed and the properties
are folded; nothing else changes. -/
def handled (self : Hub Ready T) (log : List LpfMessage) : Hub Ready T :=
  { self.withDevices (registry.replay self.state.devices log) with
    props := log.foldl propertyEffect self.props }

theorem handled_append (self : Hub Ready T) (front back : List LpfMessage) :
    self.handled (front ++ back) = (self.handled front).handled back := by
  simp only [handled, withDevices, registry.replay_append, List.foldl_append]

/-- Handling never panics. -/
theorem handleMessage_eq (self : Hub Ready T) (msg : LpfMessage) :
    self.handleMessage msg = .ret (self.handled [msg]) := by
  cases msg with
  | hubAttachedIo m =>
      obtain ⟨portId, event, attached, virtualAttached⟩ := m
      cases event with
      | attachedIo => cases attached <;> rfl
      | attachedVirtualIo => cases virtualAttached <;> rfl
      | detachedIo => rfl
  | portInputFormatSingle m =>
      simp only [handleMessage]
      cases found : self.state.devices m.portId with
      | none =>
          have unchanged : Function.update self.state.devices m.portId none =
              self.state.devices := by
            rw [← found]
            exact Function.update_eq_self m.portId self.state.devices
          simp [handled, Reading.replay, Reading.apply, registry, deviceAction, found, Reading.run,
            unchanged, withDevices, propertyEffect]
      | some dev =>
          simp [handled, Reading.replay, Reading.apply, registry, deviceAction, found, Reading.run,
            HashMap.insert, withDevices, propertyEffect]
  | portValueSingle v =>
      simp only [handleMessage]
      cases found : self.state.devices v.portId with
      | none => rfl
      | some dev =>
          obtain ⟨event, received, _⟩ := LawfulDevice.receive_eq dev v.data
          simp only [received, Checked.ret_bind, HashMap.insert_stored found]
          rfl
  | _ => rfl

/-- Handling a log replays it on the registry. -/
theorem foldlM_handleMessage (self : Hub Ready T) (log : List LpfMessage) :
    log.foldlM handleMessage self = .ret (self.handled log) := by
  induction log generalizing self with
  | nil => rfl
  | cons message log ih =>
      rw [List.foldlM_cons, handleMessage_eq, Checked.ret_bind, ih, ← handled_append]
      rfl

end Hub

end PoweredUp

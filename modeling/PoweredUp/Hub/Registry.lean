import PoweredUp.Hub.Handling

/-!
# The device registry

The registry of a ready hub is the port-by-port replay of the messages it has
handled: the last attach or detach decides whether a port has a device, and the
last mode since then is the mode of the device.
-/

namespace PoweredUp

open Rust KeyedLog

/-- The port a message is addressed to. -/
def LpfMessage.port? : LpfMessage → Option UInt8
  | .hubAttachedIo m => some m.portId
  | .portInputFormatSetupSingle m => some m.portId
  | .portValueSingle m => some m.portId
  | .portInputFormatSingle m => some m.portId
  | .portOutputCommand m => some m.portId
  | _ => none

/-- The kinds of messages that can change the registry. -/
def LpfMessage.ChangesDevices : LpfMessage → Prop
  | .hubAttachedIo _ | .portInputFormatSingle _ => True
  | _ => False

/-- The effective attachment event of a message for a port. -/
def attachmentOn (port : UInt8) : LpfMessage → Option Attachment
  | .hubAttachedIo m => if m.portId = port then m.attachment else none
  | _ => none

/-- The mode that a message reports for a port. -/
def modeOn (port : UInt8) : LpfMessage → Option UInt8
  | .portInputFormatSingle m => if m.portId = port then some m.mode else none
  | _ => none

/-- The last effective attachment event for a port is an attach. -/
def EndsAttached (port : UInt8) (log : List LpfMessage) : Prop :=
  ∃ before message after deviceTypeId, log = before ++ message :: after ∧
    attachmentOn port message = some (.attach deviceTypeId) ∧
    ∀ later ∈ after, attachmentOn port later = none

/-- The slot that an attachment event leaves. -/
def Attachment.slot (port : UInt8) : Attachment → Option BoxDevice
  | .attach deviceTypeId => some (DeviceFactory.create deviceTypeId port)
  | .detach => none

/-- The action of a message is addressed to the port of the message. -/
theorem port_of_deviceAction {message : LpfMessage} {addressed : UInt8 × Action BoxDevice UInt8}
    (acts : addressed ∈ deviceAction message) :
    message.port? = some addressed.1 ∧ message.ChangesDevices := by
  cases message with
  | hubAttachedIo m =>
      obtain ⟨attachment, _, rfl⟩ := Option.map_eq_some_iff.mp acts
      exact ⟨rfl, trivial⟩
  | portInputFormatSingle m =>
      cases acts
      exact ⟨rfl, trivial⟩
  | _ => cases acts

section Replay

variable {T : Type} [FloatScale]

/-- A new device of a type, in the last of the modes reported for it. -/
def attachedDevice (deviceTypeId : UInt16) (port : UInt8) (after : List LpfMessage) : BoxDevice :=
  match (after.filterMap (modeOn port)).getLast? with
  | some mode => Device.setMode (DeviceFactory.create deviceTypeId port) mode
  | none => DeviceFactory.create deviceTypeId port

theorem registry_overwrite (port : UInt8) (message : LpfMessage) :
    registry.overwrite port message = (attachmentOn port message).map (Attachment.slot port) := by
  cases message with
  | hubAttachedIo m =>
      simp only [Reading.overwrite, registry, deviceAction, attachmentOn]
      cases effective : m.attachment with
      | none => simp
      | some attachment =>
          by_cases same : m.portId = port
          · subst same
            cases attachment <;> simp [Attachment.action, Attachment.slot]
          · cases attachment <;> simp [Attachment.action, same]
  | _ => rfl

theorem registry_setting (port : UInt8) : registry.setting port = modeOn port := by
  funext message
  cases message with
  | hubAttachedIo m =>
      simp only [Reading.setting, registry, deviceAction, modeOn]
      rcases m.attachment with _ | ⟨_ | _⟩ <;> rfl
  | _ => rfl

/-- The adjustments of the keyed log are the modes. -/
theorem registry_adjusted (deviceTypeId : UInt16) (port : UInt8) (after : List LpfMessage) :
    registry.adjusted port after (DeviceFactory.create deviceTypeId port) =
      attachedDevice deviceTypeId port after := by
  rw [Reading.adjusted, registry_setting, attachedDevice]
  cases (after.filterMap (modeOn port)).getLast? <;> rfl

/-- The port of a device does not depend on its mode. -/
theorem portId_attachedDevice (deviceTypeId : UInt16) (port : UInt8) (after : List LpfMessage) :
    Device.portId (attachedDevice deviceTypeId port after) = port := by
  unfold attachedDevice
  split
  · rw [LawfulDevice.portId_setMode, DeviceFactory.portId_create]
  · exact DeviceFactory.portId_create deviceTypeId port

theorem overwrite_eq_none {port : UInt8} {message : LpfMessage} :
    registry.overwrite port message = none ↔ attachmentOn port message = none := by
  rw [registry_overwrite, Option.map_eq_none_iff]

/-- A port has a device exactly when the last effective event is an attach. -/
theorem isSome_replay_iff (port : UInt8) (log : List LpfMessage) :
    (registry.replay HashMap.new log port).isSome ↔ EndsAttached port log := by
  rw [Reading.isSome_replay_iff registry rfl]
  simp only [overwrite_eq_none]
  constructor
  · rintro ⟨before, message, after, device, split, overwritten, last⟩
    rw [registry_overwrite, Option.map_eq_some_iff] at overwritten
    obtain ⟨attachment, effective, slot⟩ := overwritten
    cases attachment with
    | attach deviceTypeId => exact ⟨before, message, after, deviceTypeId, split, effective, last⟩
    | detach => cases slot
  · rintro ⟨before, message, after, deviceTypeId, split, effective, last⟩
    refine ⟨before, message, after, DeviceFactory.create deviceTypeId port, split, ?_, last⟩
    rw [registry_overwrite, effective]
    rfl

/-- The device of a port, after its last effective event. -/
theorem replay_attached {port : UInt8} {message : LpfMessage} {deviceTypeId : UInt16}
    {after : List LpfMessage}
    (effective : attachmentOn port message = some (.attach deviceTypeId))
    (last : ∀ later ∈ after, attachmentOn port later = none) (before : List LpfMessage)
    (devices : HashMap UInt8 BoxDevice) :
    registry.replay devices (before ++ message :: after) port =
      some (attachedDevice deviceTypeId port after) := by
  have overwritten : registry.overwrite port message =
      some (some (DeviceFactory.create deviceTypeId port)) := by
    rw [registry_overwrite, effective]
    rfl
  have untouched : ∀ later ∈ after, registry.overwrite port later = none :=
    fun later membership => overwrite_eq_none.mpr (last later membership)
  rw [registry.replay_overwrite overwritten untouched, Option.map_some, registry_adjusted]

namespace Hub

/-- Messages for other ports and of other kinds leave an entry alone. -/
theorem handleMessage_other {message : LpfMessage} {port : UInt8}
    (unrelated : message.port? ≠ some port ∨ ¬message.ChangesDevices) (self : Hub Ready T) :
    ∃ next, self.handleMessage message = .ret next ∧
      next.state.devices port = self.state.devices port := by
  refine ⟨_, handleMessage_eq self message, registry.apply_other ?_ self.state.devices⟩
  rintro addressed acts rfl
  obtain ⟨sameport, changes⟩ := port_of_deviceAction acts
  exact unrelated.elim (fun other => other sameport) (fun inert => inert changes)

/-- Messages for different ports commute. -/
theorem handleMessage_comm {left right : LpfMessage} {port port' : UInt8}
    (leftPort : left.port? = some port) (rightPort : right.port? = some port')
    (different : port ≠ port') (self : Hub Ready T) :
    (do (← self.handleMessage left).handleMessage right) =
      (do (← self.handleMessage right).handleMessage left) := by
  have apart : ∀ first ∈ registry.action left, ∀ second ∈ registry.action right,
      first.1 ≠ second.1 := by
    intro first firstActs second secondActs same
    rw [(port_of_deviceAction firstActs).1] at leftPort
    rw [(port_of_deviceAction secondActs).1] at rightPort
    cases leftPort
    cases rightPort
    exact different same
  have inert {message : LpfMessage} {port : UInt8} (addressed : message.port? = some port)
      (props : HubProperties) : propertyEffect props message = props := by
    cases message with
    | hubProperty m => cases addressed
    | _ => rfl
  simp only [handleMessage_eq, Checked.ret_bind, handled, withDevices, Reading.replay,
    List.foldl_cons, List.foldl_nil, inert leftPort, inert rightPort]
  rw [registry.apply_comm apart]

/-- Replay from an empty registry, port by port; what leaves an entry alone; and
messages for different ports commute. -/
theorem devices_eq_replay (hub : Hub Ready T) (empty : hub.state.devices = HashMap.new)
    (log : List LpfMessage) :
    (∃ final, log.foldlM handleMessage hub = .ret final ∧
      ∀ port,
        ((final.state.devices port).isSome ↔ EndsAttached port log) ∧
        ∀ before message after deviceTypeId, log = before ++ message :: after →
          attachmentOn port message = some (.attach deviceTypeId) →
          (∀ later ∈ after, attachmentOn port later = none) →
          final.state.devices port = some (attachedDevice deviceTypeId port after) ∧
          Device.portId (attachedDevice deviceTypeId port after) = port) ∧
    (∀ (state : Hub Ready T) (message : LpfMessage) (port : UInt8),
      message.port? ≠ some port ∨ ¬message.ChangesDevices →
      ∃ next, state.handleMessage message = .ret next ∧
        next.state.devices port = state.state.devices port) ∧
    ∀ (state : Hub Ready T) (left right : LpfMessage) (port port' : UInt8),
      left.port? = some port → right.port? = some port' → port ≠ port' →
      (do (← state.handleMessage left).handleMessage right) =
        (do (← state.handleMessage right).handleMessage left) := by
  refine ⟨⟨_, foldlM_handleMessage hub log, fun port => ⟨?_, ?_⟩⟩, ?_, ?_⟩
  · rw [← isSome_replay_iff, ← empty]
    rfl
  · rintro before message after deviceTypeId rfl effective last
    exact ⟨replay_attached effective last before hub.state.devices,
      portId_attachedDevice deviceTypeId port after⟩
  · intro state message port unrelated
    exact handleMessage_other unrelated state
  · intro state left right port port' leftPort rightPort different
    exact handleMessage_comm leftPort rightPort different state

end Hub

end Replay

/-- A mode for the old device does not survive the attach of a new one. -/
theorem Hub.devices_eq_replay_reattach :
    ∃ final, List.foldlM (@handleMessage Scripted .exact) (readyWith [])
        [.hubAttachedIo ⟨0, .attachedIo, some ⟨0x26, ⟨1, 0, 0, 0⟩, ⟨1, 0, 0, 0⟩⟩, none⟩,
          .portInputFormatSingle ⟨0, 3⟩,
          .hubAttachedIo ⟨0, .attachedVirtualIo, none, some ⟨0x26, 0, 1⟩⟩,
          .portInputFormatSingle ⟨1, 1⟩, .portInputFormatSingle ⟨0, 2⟩] = .ret final ∧
      final.state.devices 0 =
        some (.tachoMotorDevice { TachoMotorDevice.new 0 0x26 with mode := 2 }) := by
  obtain ⟨⟨final, handled, ports⟩, -, -⟩ := @devices_eq_replay Scripted .exact
    (readyWith []) rfl
    [.hubAttachedIo ⟨0, .attachedIo, some ⟨0x26, ⟨1, 0, 0, 0⟩, ⟨1, 0, 0, 0⟩⟩, none⟩,
      .portInputFormatSingle ⟨0, 3⟩,
      .hubAttachedIo ⟨0, .attachedVirtualIo, none, some ⟨0x26, 0, 1⟩⟩,
      .portInputFormatSingle ⟨1, 1⟩, .portInputFormatSingle ⟨0, 2⟩]
  have entry := ((ports 0).2
    [.hubAttachedIo ⟨0, .attachedIo, some ⟨0x26, ⟨1, 0, 0, 0⟩, ⟨1, 0, 0, 0⟩⟩, none⟩,
      .portInputFormatSingle ⟨0, 3⟩]
    (.hubAttachedIo ⟨0, .attachedVirtualIo, none, some ⟨0x26, 0, 1⟩⟩)
    [.portInputFormatSingle ⟨1, 1⟩, .portInputFormatSingle ⟨0, 2⟩]
    0x26 rfl rfl (by decide)).1
  exact ⟨final, handled, entry.trans (by decide)⟩

end PoweredUp

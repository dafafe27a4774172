import PoweredUp.Hub.Initialized
import PoweredUp.Hub.NextMessage
import PoweredUp.Hub.Registry
import PoweredUp.Protocol.PayloadGrammar

/-!
# Attach reports

Two promises about attach reports: a registered device has the type that was
reported, and a report without its data counts as a detach.  The first fails for
one device type, the second whenever the port has a device.
-/

namespace PoweredUp

open Rust KeyedLog

/-! ## Reported types -/

/-- The device type of the last effective attachment event for a port, if it is an
attach. -/
def announcedType (port : UInt8) (log : List LpfMessage) : Option UInt16 :=
  match (log.filterMap (attachmentOn port)).getLast? with
  | some (.attach deviceTypeId) => some deviceTypeId
  | _ => none

section Registry

variable {T : Type} [FloatScale]

theorem deviceTypeId_attachedDevice (deviceTypeId : UInt16) (port : UInt8)
    (after : List LpfMessage) :
    Device.deviceTypeId (attachedDevice deviceTypeId port after) =
      Device.deviceTypeId (DeviceFactory.create deviceTypeId port) := by
  unfold attachedDevice
  split
  · exact LawfulDevice.deviceTypeId_setMode _ _
  · rfl

/-- The type in the registry is the one the factory gives to the announced type. -/
theorem deviceTypeId_replay (port : UInt8) (log : List LpfMessage) :
    (registry.replay HashMap.new log port).map Device.deviceTypeId =
      (announcedType port log).map fun deviceTypeId =>
        Device.deviceTypeId (DeviceFactory.create deviceTypeId port) := by
  unfold announcedType
  cases picked : (log.filterMap (attachmentOn port)).getLast? with
  | none =>
      have untouched := List.filterMap_eq_nil_iff.mp (List.getLast?_eq_none_iff.mp picked)
      rw [registry.replay_adjusted fun event membership =>
        overwrite_eq_none.mpr (untouched event membership)]
      rfl
  | some attachment =>
      obtain ⟨before, message, after, rfl, effective, last⟩ := exists_last_picked picked
      cases attachment with
      | attach deviceTypeId =>
          rw [replay_attached effective last, Option.map_some, deviceTypeId_attachedDevice]
          rfl
      | detach =>
          have overwritten : registry.overwrite port message = some none := by
            rw [registry_overwrite, effective]
            rfl
          rw [registry.replay_overwrite overwritten fun event membership =>
            overwrite_eq_none.mpr (last event membership)]
          rfl

/-- Every type but that of the Move Hub tilt sensor is reported as announced, by a
new device and by every entry of the registry. -/
theorem deviceTypeId_announced_iff :
    (∀ (deviceTypeId : UInt16) (portId : UInt8),
      (Device.deviceTypeId (DeviceFactory.create deviceTypeId portId) = deviceTypeId ∧
        Device.portId (DeviceFactory.create deviceTypeId portId) = portId) ↔
      deviceTypeId ≠ DeviceType.moveHubTiltSensor.asU8.toUInt16) ∧
    ∀ (hub : Hub Ready T) (log : List LpfMessage),
      ∃ final, log.foldlM Hub.handleMessage (hub.withDevices HashMap.new) = .ret final ∧
        ∀ port, (final.state.devices port).map Device.deviceTypeId = announcedType port log ↔
          announcedType port log ≠ some DeviceType.moveHubTiltSensor.asU8.toUInt16 := by
  constructor
  · intro deviceTypeId portId
    rw [DeviceFactory.deviceTypeId_create_iff]
    exact and_iff_left (DeviceFactory.portId_create deviceTypeId portId)
  · intro hub log
    refine ⟨_, Hub.foldlM_handleMessage _ log, fun port => ?_⟩
    have types := deviceTypeId_replay port log
    change (registry.replay HashMap.new log port).map Device.deviceTypeId = _ ↔ _
    rw [types]
    cases announcedType port log with
    | none => simp
    | some deviceTypeId =>
        rw [Option.map_some, Option.some.injEq, DeviceFactory.deviceTypeId_create_iff, ne_eq,
          ne_eq, Option.some.injEq]

end Registry

/-- A Move Hub tilt sensor is registered under the type of another sensor. -/
theorem deviceTypeId_moveHubTiltSensor :
    ∃ final, List.foldlM (@Hub.handleMessage Scripted .exact) (Hub.readyWith [])
        [.hubAttachedIo ⟨0x63, .attachedIo, some ⟨40, ⟨1, 0, 0, 0⟩, ⟨1, 0, 0, 0⟩⟩, none⟩] =
          .ret final ∧
      final.state.devices 0x63 = some (.tiltSensor (.new 0x63)) ∧
      Device.deviceTypeId (TiltSensor.new 0x63) = 34 :=
  ⟨_, rfl, rfl, rfl⟩

/-! ## Truncated reports -/

/-- The port of an attach report whose payload is too short for its data. -/
def truncatedAttach? (frame : Bytes) : Option UInt8 :=
  match parsed? frame with
  | some (.hubAttachedIo m) =>
      if m.event = .attachedIo ∧ (payloadOf frame).length < 12 then some m.portId else none
  | _ => none

/-- A detach report. -/
def detachFrame (port : UInt8) : Bytes := [5, 0, MessageType.hubAttachedIo.asU8, port, 0x00]

/-- The stated rule for truncated attach reports: each counts as a detach. -/
def asDetach (frame : Bytes) : Bytes :=
  match truncatedAttach? frame with
  | some port => detachFrame port
  | none => frame

/-- A truncated report is parsed, but to a message without data. -/
theorem parse_of_truncatedAttach {frame : Bytes} {port : UInt8}
    (truncated : truncatedAttach? frame = some port) :
    ∃ virtualAttached, parse frame =
      .ret (.ok (.hubAttachedIo ⟨port, .attachedIo, none, virtualAttached⟩)) := by
  unfold truncatedAttach? at truncated
  split at truncated
  case h_1 m parsed =>
    split at truncated
    case isTrue conditions =>
      obtain ⟨isAttach, short⟩ := conditions
      rw [parsed?_eq_some] at parsed
      obtain ⟨declared, fits⟩ := declared_of_parse parsed
      have denotes := parsed
      rw [parse_of_declared declared fits, parsePayload_eq_ok] at denotes
      have present := (isSome_attachment denotes).1
      obtain ⟨portId, event, attached, virtualAttached⟩ := m
      cases truncated
      cases isAttach
      have absent : attached = none := by
        rw [← Option.not_isSome_iff_eq_none, present]
        omega
      cases absent
      exact ⟨virtualAttached, parsed⟩
    case isFalse => cases truncated
  case h_2 => cases truncated

theorem asDetach_returns {frame : Bytes} (safe : (parse frame).Returns) :
    (parse (asDetach frame)).Returns := by
  unfold asDetach
  split
  · exact ⟨_, rfl⟩
  · exact safe

section Truncated

variable {T : Type} [FloatScale]

/-- What a frame does to the registry. -/
def registryStep (devices : HashMap UInt8 BoxDevice) (frame : Bytes) : HashMap UInt8 BoxDevice :=
  match parsed? frame with
  | some message => registry.apply devices message
  | none => devices

/-- A truncated report changes nothing. -/
theorem registryStep_truncated {frame : Bytes} {port : UInt8}
    (truncated : truncatedAttach? frame = some port) (devices : HashMap UInt8 BoxDevice) :
    registryStep devices frame = devices := by
  obtain ⟨virtualAttached, parsed⟩ := parse_of_truncatedAttach truncated
  rw [registryStep, parsed?_eq_some.mpr parsed]
  rfl

theorem registryStep_detachFrame (port : UInt8) (devices : HashMap UInt8 BoxDevice) :
    registryStep devices (detachFrame port) = devices.remove port := rfl

/-- Frames that parse are processed without a panic, and step by step. -/
theorem exists_foldlM_onFrame (hub : Hub Ready T) {frames : List Bytes}
    (safe : ∀ frame ∈ frames, (parse frame).Returns) :
    ∃ state, frames.foldlM (onFrame Hub.handleMessage) hub = .ret state ∧
      state.state.devices = frames.foldl registryStep hub.state.devices := by
  refine ⟨hub.handled (frames.filterMap parsed?), ?_, ?_⟩
  · rw [foldlM_onFrame Hub.handleMessage safe, Hub.foldlM_handleMessage]
  · change (frames.filterMap parsed?).foldl registry.apply hub.state.devices = _
    rw [List.foldl_filterMap]
    congr 1
    funext devices frame
    rw [registryStep]
    cases parsed? frame with
    | none => rfl
    | some message => rfl

/-- The rule is kept where a frame finds the registry exactly when a truncated
report finds its port empty. -/
theorem registryStep_asDetach_iff (frame : Bytes) (devices : HashMap UInt8 BoxDevice) :
    registryStep devices frame = registryStep devices (asDetach frame) ↔
      ∀ port, truncatedAttach? frame = some port → devices port = none := by
  unfold asDetach
  cases truncated : truncatedAttach? frame with
  | none => simp
  | some port =>
      rw [registryStep_truncated truncated, registryStep_detachFrame, HashMap.remove_eq_self_iff]
      simp

/-- Two runs end in equal registries exactly when the registry steps do. -/
theorem equal_runs_iff (hub : Hub Ready T) {frames : List Bytes}
    (safe : ∀ frame ∈ frames, (parse frame).Returns) :
    (∃ state reference, frames.foldlM (onFrame Hub.handleMessage) hub = .ret state ∧
      (frames.map asDetach).foldlM (onFrame Hub.handleMessage) hub = .ret reference ∧
      state.state.devices = reference.state.devices) ↔
    frames.foldl registryStep hub.state.devices =
      (frames.map asDetach).foldl registryStep hub.state.devices := by
  obtain ⟨state, runs, devices⟩ := exists_foldlM_onFrame hub safe
  obtain ⟨reference, referenceRuns, referenceDevices⟩ := exists_foldlM_onFrame hub
    (List.forall_mem_map.mpr fun frame membership => asDetach_returns (safe frame membership))
  simp only [runs, referenceRuns, Checked.ret.injEq, exists_and_left, exists_eq_left', devices,
    referenceDevices]

/-- A run leaves a port empty exactly when the registry steps do. -/
theorem empty_run_iff (hub : Hub Ready T) {frames : List Bytes}
    (safe : ∀ frame ∈ frames, (parse frame).Returns) (port : UInt8) :
    (∀ state, frames.foldlM (onFrame Hub.handleMessage) hub = .ret state →
      state.state.devices port = none) ↔
    frames.foldl registryStep hub.state.devices port = none := by
  obtain ⟨state, runs, devices⟩ := exists_foldlM_onFrame hub safe
  simp only [runs, Checked.ret.injEq, forall_eq', devices]

/-- A truncated attach report counts as a detach exactly when the port has no
device.  In a run, the registry is in every state the one that the stated rule
leads to exactly when every truncated report finds its port empty. -/
theorem truncatedAttach_detaches_iff (hub : Hub Ready T) :
    (∀ (frame : Bytes) (port : UInt8), truncatedAttach? frame = some port →
      ((∃ after detached, onFrame Hub.handleMessage hub frame = .ret after ∧
        onFrame Hub.handleMessage hub (detachFrame port) = .ret detached ∧
        after.state.devices = detached.state.devices ∧ after.state.devices port = none) ↔
      hub.state.devices port = none)) ∧
    ∀ frames : List Bytes, (∀ frame ∈ frames, (parse frame).Returns) →
      ((∀ shorter, shorter <+: frames → ∃ state reference,
        shorter.foldlM (onFrame Hub.handleMessage) hub = .ret state ∧
        (shorter.map asDetach).foldlM (onFrame Hub.handleMessage) hub = .ret reference ∧
        state.state.devices = reference.state.devices) ↔
      ∀ before frame after port, frames = before ++ frame :: after →
        truncatedAttach? frame = some port →
        ∀ state, before.foldlM (onFrame Hub.handleMessage) hub = .ret state →
          state.state.devices port = none) := by
  constructor
  · intro frame port truncated
    obtain ⟨virtualAttached, parsed⟩ := parse_of_truncatedAttach truncated
    have processed : onFrame Hub.handleMessage hub frame = .ret hub := by
      rw [onFrame, parsed]
      rfl
    have detached : onFrame Hub.handleMessage hub (detachFrame port) =
        .ret (hub.withDevices (hub.state.devices.remove port)) := rfl
    simp only [processed, detached, Checked.ret.injEq, exists_and_left, exists_eq_left']
    rw [Hub.withDevices, HashMap.remove_eq_self_iff, and_self_iff]
  · intro frames safe
    have prefixSafe {shorter : List Bytes} (isPrefix : shorter <+: frames) :
        ∀ frame ∈ shorter, (parse frame).Returns :=
      fun frame membership => safe frame (isPrefix.subset membership)
    have runs := foldl_map_iff registryStep asDetach hub.state.devices frames
    simp only [registryStep_asDetach_iff] at runs
    constructor
    · intro same before frame after port split truncated
      have front : before <+: frames := ⟨frame :: after, split.symm⟩
      rw [empty_run_iff hub (prefixSafe front)]
      refine runs.mp ?_ before frame after split port truncated
      intro shorter isPrefix
      exact (equal_runs_iff hub (prefixSafe isPrefix)).mp (same shorter isPrefix)
    · intro empty shorter isPrefix
      rw [equal_runs_iff hub (prefixSafe isPrefix)]
      refine runs.mpr ?_ shorter isPrefix
      intro before frame after split port truncated
      have front : before <+: frames := ⟨frame :: after, split.symm⟩
      exact (empty_run_iff hub (prefixSafe front) port).mp
        (empty before frame after port split truncated)

end Truncated

/-- A device attached after initialization survives a truncated attach report for
its port, where a detach report removes it. -/
theorem truncatedAttach_keeps_device :
    ∃ ready message hub detached,
      (Hub.connectedTo [fwResponse ++ hwResponse ++ macResponse,
        [15, 0, 4, 0, 1, 0x26, 0, 0, 0, 0, 0x10, 0, 0, 0, 0x10]]).initializeHub =
          .ret (.ok ready) ∧
      @Hub.nextMessage Scripted .exact ready = .ret (some message, hub) ∧
      truncatedAttach? [5, 0, 4, 0, 1] = some 0 ∧
      onFrame (@Hub.handleMessage Scripted .exact) hub [5, 0, 4, 0, 1] = .ret hub ∧
      hub.state.devices 0 = some (.tachoMotorDevice (.new 0 0x26)) ∧
      onFrame (@Hub.handleMessage Scripted .exact) hub (detachFrame 0) = .ret detached ∧
      detached.state.devices 0 = none :=
  ⟨_, _, _, _, rfl, rfl, rfl, rfl, rfl, rfl, rfl⟩

end PoweredUp

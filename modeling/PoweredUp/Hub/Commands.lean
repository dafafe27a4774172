import PoweredUp.Device.Actuator
import PoweredUp.Foundation.Alignment
import PoweredUp.Hub.Write
import PoweredUp.Protocol.RoundTrip

/-!
# Commanding devices

A program owns devices, assigns their settings and sends the payloads that they encode
to the hub.  On the way the bytes are framed, cut into notifications, reassembled and
parsed.  At the other end every device receives the commands that were meant for it.
-/

namespace PoweredUp

open Rust Framing

/-- What a program does with its devices. -/
inductive Control {ι : Type} (kind : ι → ActuatorKind) where
  | assign (device : ι) (setting : ActuatorSetting (kind device))
  | setMode (device : ι) (mode : UInt8)
  | command (device : ι) (startupAndCompletion : UInt8) (call : ActuatorCall (kind device))

/-- The devices of a program and its hub.  The calls to the transport are recorded. -/
structure Controller {ι : Type} (kind : ι → ActuatorKind) (T : Type) where
  devices : (device : ι) → Actuator (kind device)
  hub : Hub Ready (Traced T)

/-- A command as it arrives at a port. -/
structure Commanded where
  portId : UInt8
  startupAndCompletion : UInt8
  command : OutputCommand
  deriving DecidableEq, Repr

/-- The command in a parsed frame, given the kinds of the attached devices. -/
def Commanded.ofParsed (attached : UInt8 → Option ActuatorKind) :
    Checked (Result LpfMessage) → Option Commanded
  | .ret (.ok (.portOutputCommand m)) => do
      let kind ← attached m.portId
      let command ← kind.decode m.payload
      return ⟨m.portId, m.startupAndCompletion, command⟩
  | _ => none

variable {ι : Type} [DecidableEq ι] {kind : ι → ActuatorKind} {T : Type} [BleTransport T]

namespace Control

/-- Encoding leaves the device as it is; `write` is called with the result. -/
def exec (self : Controller kind T) : Control kind → Controller kind T
  | .assign device setting =>
      { self with
        devices := Function.update self.devices device ((self.devices device).assign setting) }
  | .setMode device mode =>
      { self with
        devices := Function.update self.devices device ((self.devices device).setMode mode) }
  | .command device startupAndCompletion call =>
      let message := LpfMessage.portOutputCommand ⟨(self.devices device).portId,
        startupAndCompletion, (self.devices device).encode call⟩
      { self with hub := { self.hub with transport := (self.hub.write message).2 } }

/-- The setting that is assigned to a device. -/
def settingOf (device : ι) : Control kind → Option MotorSetting
  | .assign target setting => if target = device then some setting.motorSetting else none
  | _ => none

/-- The command that is meant, after what has been done before. -/
def meaning (portId : ι → UInt8) (past : List (Control kind)) : Control kind → List Commanded
  | .command device startupAndCompletion call =>
      [⟨portId device, startupAndCompletion,
        call.effective (.current (past.filterMap (settingOf device)))⟩]
  | _ => []

/-- The commands that a program means: each with the settings that were assigned last
to its own device. -/
def meant (portId : ι → UInt8) : (past program : List (Control kind)) → List Commanded
  | _, [] => []
  | past, control :: program =>
      control.meaning portId past ++ meant portId (past ++ [control]) program

/-- The devices after what has been done to them. -/
def Configured (portId : ι → UInt8) (past : List (Control kind))
    (devices : (device : ι) → Actuator (kind device)) : Prop :=
  ∀ device, (devices device).portId = portId device ∧
    (devices device).settings = .current (past.filterMap (settingOf device))

variable {portId : ι → UInt8} {past : List (Control kind)} {self : Controller kind T}

theorem configured_new (portId : ι → UInt8) (deviceTypeId : ι → UInt16) :
    Configured portId ([] : List (Control kind))
      fun device => .new (portId device) (deviceTypeId device) (kind device) :=
  fun _ => ⟨Actuator.portId_new _ _ _, Actuator.settings_new _ _ _⟩

theorem current_append (history : List MotorSetting) (setting : MotorSetting) :
    MotorSettings.current (history ++ [setting]) =
      (MotorSettings.current history).assign setting := by
  rw [← MotorSettings.foldl_assign, ← MotorSettings.foldl_assign, List.foldl_append]
  rfl

/-- Whatever is done to one device, the others keep their settings. -/
theorem configured_exec (configured : Configured portId past self.devices)
    (control : Control kind) :
    Configured portId (past ++ [control]) (exec self control).devices := by
  intro device
  obtain ⟨port, settings⟩ := configured device
  have unassigned (other : settingOf device control = none) :
      (past ++ [control]).filterMap (settingOf device) = past.filterMap (settingOf device) := by
    rw [List.filterMap_append, List.filterMap_cons_none other, List.filterMap_nil,
      List.append_nil]
  cases control with
  | assign target setting =>
      dsimp only [exec]
      rcases eq_or_ne device target with rfl | other
      · have assigned : settingOf device (.assign device setting) = some setting.motorSetting :=
          if_pos rfl
        rw [Function.update_self, Actuator.portId_assign, Actuator.settings_assign, settings,
          List.filterMap_append, List.filterMap_cons_some assigned, List.filterMap_nil,
          current_append]
        exact ⟨port, rfl⟩
      · rw [Function.update_of_ne other, unassigned (if_neg other.symm)]
        exact ⟨port, settings⟩
  | setMode target mode =>
      dsimp only [exec]
      rw [unassigned rfl]
      rcases eq_or_ne device target with rfl | other
      · rw [Function.update_self, Actuator.portId_setMode, Actuator.settings_setMode]
        exact ⟨port, settings⟩
      · rw [Function.update_of_ne other]
        exact ⟨port, settings⟩
  | command target startupAndCompletion call =>
      rw [unassigned rfl]
      exact ⟨port, settings⟩

/-- A command is written as one message, which its device reads as the command that was
meant. -/
theorem command_sent (configured : Configured portId past self.devices) {device : ι}
    (startupAndCompletion : UInt8) (call : ActuatorCall (kind device))
    {attached : UInt8 → Option ActuatorKind}
    (plugged : ∀ device, attached (portId device) = some (kind device)) :
    ∃ message : LpfMessage, message.HostEncodable ∧ (encode message).length ≤ 255 ∧
      (exec self (.command device startupAndCompletion call)).hub.transport.calls =
        self.hub.transport.calls ++ [.write self.hub.lpf2Char (encode message)] ∧
      Commanded.ofParsed attached (.ret (.ok message)) =
        some ⟨portId device, startupAndCompletion,
          call.effective (.current (past.filterMap (settingOf device)))⟩ := by
  obtain ⟨port, settings⟩ := configured device
  refine ⟨.portOutputCommand ⟨(self.devices device).portId, startupAndCompletion,
    (self.devices device).encode call⟩, trivial, ?_, rfl, ?_⟩
  · have short := (self.devices device).length_encode call
    simp only [PoweredUp.length_encode, encodeInner, List.length_append, List.length_cons,
      List.length_nil]
    omega
  · rw [← settings]
    simp [Commanded.ofParsed, port, plugged, Actuator.decode_encode]

/-- The bytes that a run writes are those of messages which the devices read as the
commands that were meant. -/
theorem foldl_exec_sent {attached : UInt8 → Option ActuatorKind}
    (plugged : ∀ device, attached (portId device) = some (kind device))
    (program : List (Control kind)) (configured : Configured portId past self.devices) :
    ∃ messages : List LpfMessage,
      (∀ message ∈ messages, message.HostEncodable ∧ (encode message).length ≤ 255) ∧
      (program.foldl exec self).hub.transport.calls = self.hub.transport.calls ++
        (messages.map encode).map (BleCall.write self.hub.lpf2Char) ∧
      (messages.map fun message => Commanded.ofParsed attached (.ret (.ok message))) =
        (meant portId past program).map some := by
  induction program generalizing past self with
  | nil => exact ⟨[], nofun, (List.append_nil _).symm, rfl⟩
  | cons control program ih =>
      have next := configured_exec configured control
      cases control with
      | assign device setting => exact ih next
      | setMode device mode => exact ih next
      | command device startupAndCompletion call =>
          obtain ⟨message, encodable, fits, sent, reads⟩ :=
            command_sent configured startupAndCompletion call plugged
          obtain ⟨messages, valid, calls, meanings⟩ := ih next
          refine ⟨message :: messages, ?_, ?_, ?_⟩
          · exact List.forall_mem_cons.mpr ⟨⟨encodable, fits⟩, valid⟩
          · rw [List.foldl_cons, calls, sent, List.append_assoc]
            rfl
          · rw [List.map_cons, reads, meanings]
            rfl

end Control

/-- Any program that assigns settings, changes modes and sends commands, in any order and
to any number of devices, is understood: however the bytes that it hands to the
transport are cut into notifications, they reassemble without a rest, and every frame is
read at its port as the command that was meant. -/
theorem Hub.commands_arrive (portId : ι → UInt8) (deviceTypeId : ι → UInt16)
    {attached : UInt8 → Option ActuatorKind}
    (plugged : ∀ device, attached (portId device) = some (kind device))
    (program : List (Control kind)) (hub : Hub Ready (Traced T)) :
    ∃ sent : List Bytes, (program.foldl Control.exec
        ⟨fun device => .new (portId device) (deviceTypeId device) (kind device),
          hub⟩).hub.transport.calls =
        hub.transport.calls ++ sent.map (BleCall.write hub.lpf2Char) ∧
      ∀ chunks : List Bytes, chunks.flatten = sent.flatten →
        ∃ batches, FrameBuffer.new.pushAll chunks = .ret (batches, .new) ∧
          (batches.flatten.map fun frame => Commanded.ofParsed attached (parse frame)) =
            (Control.meant portId [] program).map some := by
  let start : Controller kind T :=
    ⟨fun device => .new (portId device) (deviceTypeId device) (kind device), hub⟩
  have configured : Control.Configured portId [] start.devices :=
    Control.configured_new portId deviceTypeId
  obtain ⟨messages, valid, calls, meanings⟩ :=
    Control.foldl_exec_sent plugged program configured
  refine ⟨messages.map encode, calls, fun chunks cut => ?_⟩
  have isFrame : ∀ frame ∈ messages.map encode, IsFrame frame := by
    intro frame member
    obtain ⟨message, found, rfl⟩ := List.mem_map.mp member
    exact isFrame_encode (valid message found).2
  obtain ⟨frames, residual⟩ := framing.feed_frames isFrame cut
  refine ⟨(framing.feed [] chunks).1, ?_, ?_⟩
  · rw [FrameBuffer.pushAll_eq]
    exact congrArg (fun residual => Checked.ret (_, FrameBuffer.mk residual)) residual
  · rw [frames, List.map_map, ← meanings]
    refine List.map_congr_left fun message member => ?_
    obtain ⟨encodable, fits⟩ := valid message member
    exact congrArg (Commanded.ofParsed attached) (parse_encode encodable fits)

/-- A tacho motor, the LED of the hub, and a light matrix. -/
def boardKind : Fin 3 → ActuatorKind
  | 0 => .tachoMotor
  | 1 => .hubLed
  | 2 => .colorLightMatrix

def boardPort : Fin 3 → UInt8
  | 0 => 0
  | 1 => 50
  | 2 => 1

/-- What is plugged in at a port. -/
def boardAttached (port : UInt8) : Option ActuatorKind :=
  ((List.finRange 3).find? fun device => boardPort device = port).map boardKind

def boardProgram : List (Control boardKind) :=
  [.assign 0 (.tachoMotor (.setMaxPower 40)), .command 0 0x11 (.tachoMotor (.setSpeed 120)),
    .setMode 0 2, .assign 0 (.tachoMotor (.setMaxPower 80)),
    .command 1 0x11 (.setLedColor .red), .command 2 0x11 (.setMatrixColor ⟨.green, nofun⟩)]

/-- A power limit applies to the commands of its own motor that follow, speeds are
clamped, pixels are at the maximum brightness, and the messages arrive when their frames
are cut and joined. -/
theorem Hub.commands_arrive_limited :
    (boardProgram.foldl Control.exec
        ⟨fun device => .new (boardPort device) 0 (boardKind device), tracedReady⟩
      ).hub.transport.calls =
        [[9, 0, 0x81, 0, 0x11, 7, 100, 40, 3], [8, 0, 0x81, 50, 0x11, 0x51, 0, 9],
          [16, 0, 0x81, 1, 0x11, 0x51, 2] ++ List.replicate 9 0xA6].map
            (BleCall.write lpf2All) ∧
      ∃ batches, FrameBuffer.new.pushAll
        [[9, 0, 0x81, 0, 0x11, 7, 100], [40, 3, 8, 0], [0x81, 50, 0x11, 0x51, 0, 9],
          [16, 0, 0x81, 1, 0x11, 0x51, 2] ++ List.replicate 9 0xA6] = .ret (batches, .new) ∧
      (batches.flatten.map fun frame => Commanded.ofParsed boardAttached (parse frame)) =
        [⟨0, 0x11, .motor (.setSpeed 100 40 true true)⟩, ⟨50, 0x11, .color .red⟩,
          ⟨1, 0x11, .pixels (List.replicate 9 (.green, 10))⟩].map some := by
  obtain ⟨sent, calls, arrive⟩ := commands_arrive boardPort (fun _ => 0)
    (show ∀ device, boardAttached (boardPort device) = some (boardKind device) by decide)
    boardProgram tracedReady
  let frames : List Bytes :=
    [[9, 0, 0x81, 0, 0x11, 7, 100, 40, 3], [8, 0, 0x81, 50, 0x11, 0x51, 0, 9],
      [16, 0, 0x81, 1, 0x11, 0x51, 2] ++ List.replicate 9 0xA6]
  have writes : Function.Injective (BleCall.write lpf2All) := by
    intro data data' same
    cases same
    rfl
  have written : frames.map (BleCall.write lpf2All) = sent.map (BleCall.write lpf2All) := calls
  obtain rfl : frames = sent := writes.list_map written
  exact ⟨rfl, arrive _ rfl⟩

end PoweredUp

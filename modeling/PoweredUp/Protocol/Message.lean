import PoweredUp.Foundation.LittleEndian
import PoweredUp.Protocol.Version

/-!
# LPF2 message codec

Raw bytes enter through `parse` and leave through `encode`.  The wire format is
a length byte counting the whole message, a reserved byte, a type byte and the
type-specific payload.
-/

namespace PoweredUp

open Rust WireEnum

/-! ## Messages -/

/-- Parsed `HUB_PROPERTIES` message; `payload` follows the operation byte. -/
structure HubPropertyMessage where
  property : HubPropertyReference
  operation : HubPropertyOperation
  payload : Bytes
  deriving DecidableEq, Repr

/-- Parsed `HUB_ALERTS` message. -/
structure HubAlertMessage where
  alertType : AlertType
  payload : AlertPayload
  deriving DecidableEq, Repr

structure AttachedIoInfo where
  deviceTypeId : UInt16
  hwVersion : Version
  swVersion : Version
  deriving DecidableEq, Repr

structure VirtualIoInfo where
  deviceTypeId : UInt16
  firstPortId : UInt8
  secondPortId : UInt8
  deriving DecidableEq, Repr

/-- Parsed `HUB_ATTACHED_IO` message. -/
structure HubAttachedIoMessage where
  portId : UInt8
  event : IoEvent
  attached : Option AttachedIoInfo
  virtualAttached : Option VirtualIoInfo
  deriving DecidableEq, Repr

/-- Parsed `PORT_INPUT_FORMAT_SETUP_SINGLE`. -/
structure PortInputFormatSetupSingle where
  portId : UInt8
  mode : UInt8
  delta : UInt32
  enableNotifications : Bool
  deriving DecidableEq, Repr

/-- Parsed `PORT_VALUE_SINGLE`; the device layer interprets `data`. -/
structure PortValueSingle where
  portId : UInt8
  data : Bytes
  deriving DecidableEq, Repr

/-- Parsed `PORT_INPUT_FORMAT_SINGLE`. -/
structure PortInputFormatSingle where
  portId : UInt8
  mode : UInt8
  deriving DecidableEq, Repr

/-- Parsed `PORT_OUTPUT_COMMAND`. -/
structure PortOutputCommand where
  portId : UInt8
  startupAndCompletion : UInt8
  payload : Bytes
  deriving DecidableEq, Repr

/-- Parsed `PORT_OUTPUT_COMMAND_FEEDBACK`: one entry for each port. -/
structure PortOutputCommandFeedback where
  entries : List (UInt8 × CommandFeedback)
  deriving DecidableEq, Repr

/-- A fully parsed upstream or downstream message. -/
inductive LpfMessage where
  | hubProperty (message : HubPropertyMessage)
  | hubAction (action : ActionType)
  | hubAlert (message : HubAlertMessage)
  | hubAttachedIo (message : HubAttachedIoMessage)
  | genericError (command code : UInt8)
  | portInputFormatSetupSingle (message : PortInputFormatSetupSingle)
  | portValueSingle (message : PortValueSingle)
  | portInputFormatSingle (message : PortInputFormatSingle)
  | portOutputCommand (message : PortOutputCommand)
  | portOutputCommandFeedback (message : PortOutputCommandFeedback)
  | unknown (messageType : UInt8) (payload : Bytes)
  deriving DecidableEq, Repr

/-! ## Payload parsers -/

def parseHubProperty (payload : Bytes) : Checked (Result LpfMessage) :=
  if payload.length < 2 then
    return .error (.parse "HubProperty payload too short")
  else do
    propagate (tryFrom (← index payload 0)) fun property => do
    propagate (tryFrom (← index payload 1)) fun operation => do
    let payload ← sliceFrom payload 2
    return .ok (.hubProperty { property, operation, payload })

def parseHubAction (payload : Bytes) : Checked (Result LpfMessage) :=
  if payload.isEmpty then
    return .error (.parse "HubAction payload empty")
  else do
    propagate (tryFrom (← index payload 0)) fun action =>
    return .ok (.hubAction action)

def parseHubAlert (payload : Bytes) : Checked (Result LpfMessage) :=
  if payload.length < 2 then
    return .error (.parse "HubAlert payload too short")
  else do
    propagate (tryFrom (← index payload 0)) fun alertType => do
    propagate (tryFrom (← index payload 1)) fun alertPayload =>
    return .ok (.hubAlert { alertType, payload := alertPayload })

/-- The attachment data of a `HUB_ATTACHED_IO` payload.  A payload too short for
its event carries none. -/
def parseAttachment (payload : Bytes) (event : IoEvent) :
    Checked (Option AttachedIoInfo × Option VirtualIoInfo) :=
  match event with
  | .attachedIo =>
      if payload.length ≥ 12 then do
        let deviceTypeId := LittleEndian.u16 (← index payload 2) (← index payload 3)
        let hwRaw := LittleEndian.i32 (← index payload 4) (← index payload 5)
          (← index payload 6) (← index payload 7)
        let swRaw := LittleEndian.i32 (← index payload 8) (← index payload 9)
          (← index payload 10) (← index payload 11)
        let hwVersion ← Version.fromLeI32 hwRaw
        let swVersion ← Version.fromLeI32 swRaw
        return (some { deviceTypeId, hwVersion, swVersion }, none)
      else
        return (none, none)
  | .attachedVirtualIo =>
      if payload.length ≥ 6 then do
        let deviceTypeId := LittleEndian.u16 (← index payload 2) (← index payload 3)
        let firstPortId ← index payload 4
        let secondPortId ← index payload 5
        return (none, some { deviceTypeId, firstPortId, secondPortId })
      else
        return (none, none)
  | .detachedIo => return (none, none)

def parseHubAttachedIo (payload : Bytes) : Checked (Result LpfMessage) :=
  if payload.isEmpty then
    return .error (.parse "HubAttachedIo payload empty")
  else do
    let portId ← index payload 0
    propagate (tryFrom (← index payload 1)) fun event => do
    let (attached, virtualAttached) ← parseAttachment payload event
    return .ok (.hubAttachedIo { portId, event, attached, virtualAttached })

def parseGenericError (payload : Bytes) : Checked (Result LpfMessage) :=
  if payload.length < 2 then
    return .error (.parse "GenericError payload too short")
  else do
    let command ← index payload 0
    let code ← index payload 1
    return .ok (.genericError command code)

def parsePortInputFormatSetup (payload : Bytes) : Checked (Result LpfMessage) :=
  if payload.length < 7 then
    return .error (.parse "PortInputFormatSetup payload too short")
  else do
    let portId ← index payload 0
    let mode ← index payload 1
    let delta := LittleEndian.u32 (← index payload 2) (← index payload 3)
      (← index payload 4) (← index payload 5)
    let enableNotifications := (← index payload 6) != 0
    return .ok (.portInputFormatSetupSingle { portId, mode, delta, enableNotifications })

def parsePortValueSingle (payload : Bytes) : Checked (Result LpfMessage) :=
  if payload.isEmpty then
    return .error (.parse "PortValueSingle payload empty")
  else do
    let portId ← index payload 0
    let data ← sliceFrom payload 1
    return .ok (.portValueSingle { portId, data })

def parsePortInputFormatSingle (payload : Bytes) : Checked (Result LpfMessage) :=
  if payload.length < 2 then
    return .error (.parse "PortInputFormatSingle payload too short")
  else do
    let portId ← index payload 0
    let mode ← index payload 1
    return .ok (.portInputFormatSingle { portId, mode })

def parsePortOutputCommand (payload : Bytes) : Checked (Result LpfMessage) :=
  if payload.length < 2 then
    return .error (.parse "PortOutputCommand payload too short")
  else do
    let portId ← index payload 0
    let startupAndCompletion ← index payload 1
    let payload ← sliceFrom payload 2
    return .ok (.portOutputCommand { portId, startupAndCompletion, payload })

/-- `chunks_exact(2)`. -/
def chunksExact2 : Bytes → List Bytes
  | first :: second :: rest => [first, second] :: chunksExact2 rest
  | _ => []

/-- One entry of a feedback payload. -/
def parseFeedbackEntry (chunk : Bytes) : Checked (Result (UInt8 × CommandFeedback)) := do
  propagate (tryFrom (← index chunk 1)) fun feedback => do
  let portId ← index chunk 0
  return .ok (portId, feedback)

def parsePortOutputFeedback (payload : Bytes) : Checked (Result LpfMessage) :=
  if payload.length < 2 ∨ payload.length % 2 ≠ 0 then
    return .error (.parse
      s!"PortOutputCommandFeedback unexpected payload length {payload.length}")
  else do
    propagate (← collectResult parseFeedbackEntry (chunksExact2 payload)) fun entries =>
    return .ok (.portOutputCommandFeedback { entries })

/-- The dispatch of `parse` on the type byte.  Types that are known but not
decoded and unknown types are treated alike. -/
def parsePayload (msgTypeByte : UInt8) (payload : Bytes) : Checked (Result LpfMessage) :=
  match (tryFrom msgTypeByte : Result MessageType) with
  | .ok .hubProperties => parseHubProperty payload
  | .ok .hubActions => parseHubAction payload
  | .ok .hubAlerts => parseHubAlert payload
  | .ok .hubAttachedIo => parseHubAttachedIo payload
  | .ok .genericErrorMessages => parseGenericError payload
  | .ok .portInputFormatSetupSingle => parsePortInputFormatSetup payload
  | .ok .portValueSingle => parsePortValueSingle payload
  | .ok .portInputFormatSingle => parsePortInputFormatSingle payload
  | .ok .portOutputCommand => parsePortOutputCommand payload
  | .ok .portOutputCommandFeedback => parsePortOutputFeedback payload
  | _ => return .ok (.unknown msgTypeByte payload)

/-! ## Public API -/

/-- Parse a single complete frame. -/
def parse (buf : Bytes) : Checked (Result LpfMessage) :=
  if buf.length < 3 then
    return .error (.parse s!"frame too short: {buf.length} bytes")
  else do
    let declaredLen := (← index buf 0).toNat
    if buf.length < declaredLen then
      return .error (.parse s!"frame truncated: declared {declaredLen}, got {buf.length}")
    else do
      let msgTypeByte ← index buf 2
      let payload ← slice buf 3 declaredLen
      parsePayload msgTypeByte payload

/-- The message body: type byte and payload.  Upstream-only messages are not
encodable by the host and have an empty body. -/
def encodeInner : LpfMessage → Bytes
  | .hubProperty m =>
      [MessageType.hubProperties.asU8, m.property.asU8, m.operation.asU8] ++ m.payload
  | .hubAction action => [MessageType.hubActions.asU8, action.asU8]
  | .portInputFormatSetupSingle m =>
      [MessageType.portInputFormatSetupSingle.asU8, m.portId, m.mode] ++
        LittleEndian.ofU32 m.delta ++ [if m.enableNotifications then 1 else 0]
  | .portOutputCommand m =>
      [MessageType.portOutputCommand.asU8, m.portId, m.startupAndCompletion] ++ m.payload
  | .unknown messageType payload => [messageType] ++ payload
  | _ => []

/-- Encode a message for transmission: the length byte, truncated to eight bits
by `as u8`, the reserved byte and the body. -/
def encode (message : LpfMessage) : Bytes :=
  let inner := encodeInner message
  let total := inner.length + 2
  [UInt8.ofNat total, 0x00] ++ inner

end PoweredUp

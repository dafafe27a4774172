import Mathlib.Data.List.Nodup
import Mathlib.Tactic.Common

/-!
# Protocol constants

Every C-like enum of the protocol goes through one macro of the source,
`enum_try_from!`, which gives it its wire byte and a `TryFrom<u8>` that searches
the table of variants.  `WireEnum` is that table together with its
well-formedness, and the conversion and its round trip are stated once for all
enums.
-/

namespace PoweredUp

/-- Raw bytes: `bytes::Bytes`, `BytesMut` and `&[u8]` alike. -/
abbrev Bytes := List UInt8

/-- The error type of the crate. -/
inductive Error where
  | ble (message : String)
  | parse (message : String)
  | protocol (message : String)
  deriving DecidableEq, Repr

/-- `std::result::Result<T, Error>`. -/
abbrev Result := Except Error

/-- The `{:#x}` rendering of an unsigned number. -/
def lowerHexAlternate (value : Nat) : String :=
  "0x" ++ String.ofList (Nat.toDigits 16 value)

/-- An enum declared by `enum_try_from!`: its variants in declaration order and
their discriminants, which the source reads back with `as u8`. -/
class WireEnum (α : Type) where
  name : String
  variants : List α
  asU8 : α → UInt8
  mem_variants : ∀ variant, variant ∈ variants
  nodup : (variants.map asU8).Nodup

namespace WireEnum

variable {α : Type} [WireEnum α]

/-- `TryFrom<u8>`, as generated by `enum_try_from!`. -/
def tryFrom (value : UInt8) : Result α :=
  match (variants (α := α)).find? (fun variant => asU8 variant == value) with
  | some variant => .ok variant
  | none => .error (.parse s!"unknown {name α} discriminant: {lowerHexAlternate value.toNat}")

theorem asU8_injective {left right : α} (equal : asU8 left = asU8 right) : left = right :=
  List.inj_on_of_nodup_map nodup (mem_variants left) (mem_variants right) equal

/-- The conversion accepts exactly the discriminants of the table. -/
theorem tryFrom_eq_ok {value : UInt8} {variant : α} :
    tryFrom value = .ok variant ↔ asU8 variant = value := by
  unfold tryFrom
  cases search : (variants (α := α)).find? (fun variant => asU8 variant == value) with
  | none =>
      have absent := List.find?_eq_none.mp search variant (mem_variants variant)
      simpa using absent
  | some found =>
      have foundValue : asU8 found = value := by simpa using List.find?_some search
      simp only [Except.ok.injEq]
      constructor
      · rintro rfl
        exact foundValue
      · intro equal
        exact asU8_injective (foundValue.trans equal.symm)

@[simp] theorem tryFrom_asU8 (variant : α) : tryFrom (asU8 variant) = .ok variant :=
  tryFrom_eq_ok.mpr rfl

end WireEnum

/-! ## Hub and device types -/

/-- Which physical hub model is connected. -/
inductive HubType where
  | unknown
  | weDo2SmartHub
  | moveHub
  | hub
  | remoteControl
  | duploTrainBase
  | technicMediumHub
  | mario
  | technicSmallHub
  | luigi
  | peach
  deriving DecidableEq, Repr

def HubType.asU8 : HubType → UInt8
  | .unknown => 0
  | .weDo2SmartHub => 1
  | .moveHub => 2
  | .hub => 3
  | .remoteControl => 4
  | .duploTrainBase => 5
  | .technicMediumHub => 6
  | .mario => 7
  | .technicSmallHub => 8
  | .luigi => 9
  | .peach => 10

instance : WireEnum HubType where
  name := "HubType"
  variants := [.unknown, .weDo2SmartHub, .moveHub, .hub, .remoteControl, .duploTrainBase,
    .technicMediumHub, .mario, .technicSmallHub, .luigi, .peach]
  asU8 := HubType.asU8
  mem_variants := by intro variant; cases variant <;> decide
  nodup := by decide

/-- Peripheral device type reported in `HUB_ATTACHED_IO` messages. -/
inductive DeviceType where
  | unknown
  | simpleMediumLinearMotor
  | trainMotor
  | light
  | voltageSensor
  | currentSensor
  | piezoBuzzer
  | hubLed
  | tiltSensor
  | motionSensor
  | colorDistanceSensor
  | mediumLinearMotor
  | moveHubMediumLinearMotor
  | moveHubTiltSensor
  | duploTrainBaseMotor
  | duploTrainBaseSpeaker
  | duploTrainBaseColorSensor
  | duploTrainBaseSpeedometer
  | technicLargeLinearMotor
  | technicXLargeLinearMotor
  | technicMediumAngularMotor
  | technicLargeAngularMotor
  | technicMediumHubGestSensor
  | remoteControlButton
  | remoteControlRssi
  | technicMediumHubAccelerometer
  | technicMediumHubGyroSensor
  | technicMediumHubTiltSensor
  | technicMediumHubTemperatureSensor
  | technicColorSensor
  | technicDistanceSensor
  | technicForceSensor
  | technic3x3ColorLightMatrix
  | technicSmallAngularMotor
  | marioAccelerometer
  | marioBarcodeReader
  | marioPantsSensor
  | technicMediumAngularMotorGrey
  | technicLargeAngularMotorGrey
  deriving DecidableEq, Repr

def DeviceType.asU8 : DeviceType → UInt8
  | .unknown => 0
  | .simpleMediumLinearMotor => 1
  | .trainMotor => 2
  | .light => 8
  | .voltageSensor => 20
  | .currentSensor => 21
  | .piezoBuzzer => 22
  | .hubLed => 23
  | .tiltSensor => 34
  | .motionSensor => 35
  | .colorDistanceSensor => 37
  | .mediumLinearMotor => 38
  | .moveHubMediumLinearMotor => 39
  | .moveHubTiltSensor => 40
  | .duploTrainBaseMotor => 41
  | .duploTrainBaseSpeaker => 42
  | .duploTrainBaseColorSensor => 43
  | .duploTrainBaseSpeedometer => 44
  | .technicLargeLinearMotor => 46
  | .technicXLargeLinearMotor => 47
  | .technicMediumAngularMotor => 48
  | .technicLargeAngularMotor => 49
  | .technicMediumHubGestSensor => 54
  | .remoteControlButton => 55
  | .remoteControlRssi => 56
  | .technicMediumHubAccelerometer => 57
  | .technicMediumHubGyroSensor => 58
  | .technicMediumHubTiltSensor => 59
  | .technicMediumHubTemperatureSensor => 60
  | .technicColorSensor => 61
  | .technicDistanceSensor => 62
  | .technicForceSensor => 63
  | .technic3x3ColorLightMatrix => 64
  | .technicSmallAngularMotor => 65
  | .marioAccelerometer => 71
  | .marioBarcodeReader => 73
  | .marioPantsSensor => 74
  | .technicMediumAngularMotorGrey => 75
  | .technicLargeAngularMotorGrey => 76

instance : WireEnum DeviceType where
  name := "DeviceType"
  variants := [.unknown, .simpleMediumLinearMotor, .trainMotor, .light, .voltageSensor,
    .currentSensor, .piezoBuzzer, .hubLed, .tiltSensor, .motionSensor, .colorDistanceSensor,
    .mediumLinearMotor, .moveHubMediumLinearMotor, .moveHubTiltSensor, .duploTrainBaseMotor,
    .duploTrainBaseSpeaker, .duploTrainBaseColorSensor, .duploTrainBaseSpeedometer,
    .technicLargeLinearMotor, .technicXLargeLinearMotor, .technicMediumAngularMotor,
    .technicLargeAngularMotor, .technicMediumHubGestSensor, .remoteControlButton,
    .remoteControlRssi, .technicMediumHubAccelerometer, .technicMediumHubGyroSensor,
    .technicMediumHubTiltSensor, .technicMediumHubTemperatureSensor, .technicColorSensor,
    .technicDistanceSensor, .technicForceSensor, .technic3x3ColorLightMatrix,
    .technicSmallAngularMotor, .marioAccelerometer, .marioBarcodeReader, .marioPantsSensor,
    .technicMediumAngularMotorGrey, .technicLargeAngularMotorGrey]
  asU8 := DeviceType.asU8
  mem_variants := by intro variant; cases variant <;> decide
  nodup := by decide

/-- Colour index of lights and colour sensors. -/
inductive Color where
  | black
  | pink
  | purple
  | blue
  | lightBlue
  | cyan
  | green
  | yellow
  | orange
  | red
  | white
  | none
  deriving DecidableEq, Repr

def Color.asU8 : Color → UInt8
  | .black => 0
  | .pink => 1
  | .purple => 2
  | .blue => 3
  | .lightBlue => 4
  | .cyan => 5
  | .green => 6
  | .yellow => 7
  | .orange => 8
  | .red => 9
  | .white => 10
  | .none => 255

instance : WireEnum Color where
  name := "Color"
  variants := [.black, .pink, .purple, .blue, .lightBlue, .cyan, .green, .yellow, .orange,
    .red, .white, .none]
  asU8 := Color.asU8
  mem_variants := by intro variant; cases variant <;> decide
  nodup := by decide

/-- End-state behaviour when a motor command completes. -/
inductive BrakingStyle where
  | float
  | hold
  | brake
  deriving DecidableEq, Repr

def BrakingStyle.asU8 : BrakingStyle → UInt8
  | .float => 0
  | .hold => 126
  | .brake => 127

instance : WireEnum BrakingStyle where
  name := "BrakingStyle"
  variants := [.float, .hold, .brake]
  asU8 := BrakingStyle.asU8
  mem_variants := by intro variant; cases variant <;> decide
  nodup := by decide

/-! ## Messages -/

/-- LPF2 upstream / downstream message type byte. -/
inductive MessageType where
  | hubProperties
  | hubActions
  | hubAlerts
  | hubAttachedIo
  | genericErrorMessages
  | hwNetworkCommands
  | fwUpdateGoIntoBootMode
  | fwUpdateLockMemory
  | fwUpdateLockStatusRequest
  | fwLockStatus
  | portInformationRequest
  | portModeInformationRequest
  | portInputFormatSetupSingle
  | portInputFormatSetupCombinedMode
  | portInformation
  | portModeInformation
  | portValueSingle
  | portValueCombinedMode
  | portInputFormatSingle
  | portInputFormatCombinedMode
  | virtualPortSetup
  | portOutputCommand
  | portOutputCommandFeedback
  deriving DecidableEq, Repr

def MessageType.asU8 : MessageType → UInt8
  | .hubProperties => 0x01
  | .hubActions => 0x02
  | .hubAlerts => 0x03
  | .hubAttachedIo => 0x04
  | .genericErrorMessages => 0x05
  | .hwNetworkCommands => 0x08
  | .fwUpdateGoIntoBootMode => 0x10
  | .fwUpdateLockMemory => 0x11
  | .fwUpdateLockStatusRequest => 0x12
  | .fwLockStatus => 0x13
  | .portInformationRequest => 0x21
  | .portModeInformationRequest => 0x22
  | .portInputFormatSetupSingle => 0x41
  | .portInputFormatSetupCombinedMode => 0x42
  | .portInformation => 0x43
  | .portModeInformation => 0x44
  | .portValueSingle => 0x45
  | .portValueCombinedMode => 0x46
  | .portInputFormatSingle => 0x47
  | .portInputFormatCombinedMode => 0x48
  | .virtualPortSetup => 0x61
  | .portOutputCommand => 0x81
  | .portOutputCommandFeedback => 0x82

instance : WireEnum MessageType where
  name := "MessageType"
  variants := [.hubProperties, .hubActions, .hubAlerts, .hubAttachedIo, .genericErrorMessages,
    .hwNetworkCommands, .fwUpdateGoIntoBootMode, .fwUpdateLockMemory,
    .fwUpdateLockStatusRequest, .fwLockStatus, .portInformationRequest,
    .portModeInformationRequest, .portInputFormatSetupSingle,
    .portInputFormatSetupCombinedMode, .portInformation, .portModeInformation,
    .portValueSingle, .portValueCombinedMode, .portInputFormatSingle,
    .portInputFormatCombinedMode, .virtualPortSetup, .portOutputCommand,
    .portOutputCommandFeedback]
  asU8 := MessageType.asU8
  mem_variants := by intro variant; cases variant <;> decide
  nodup := by decide

/-- The hub property a `HUB_PROPERTIES` message is about. -/
inductive HubPropertyReference where
  | advertisingName
  | button
  | fwVersion
  | hwVersion
  | rssi
  | batteryVoltage
  | batteryType
  | manufacturerName
  | radioFirmwareVersion
  | legoWirelessProtocolVersion
  | systemTypeId
  | hwNetworkId
  | primaryMacAddress
  | secondaryMacAddress
  | hardwareNetworkFamily
  deriving DecidableEq, Repr

def HubPropertyReference.asU8 : HubPropertyReference → UInt8
  | .advertisingName => 0x01
  | .button => 0x02
  | .fwVersion => 0x03
  | .hwVersion => 0x04
  | .rssi => 0x05
  | .batteryVoltage => 0x06
  | .batteryType => 0x07
  | .manufacturerName => 0x08
  | .radioFirmwareVersion => 0x09
  | .legoWirelessProtocolVersion => 0x0A
  | .systemTypeId => 0x0B
  | .hwNetworkId => 0x0C
  | .primaryMacAddress => 0x0D
  | .secondaryMacAddress => 0x0E
  | .hardwareNetworkFamily => 0x0F

instance : WireEnum HubPropertyReference where
  name := "HubPropertyReference"
  variants := [.advertisingName, .button, .fwVersion, .hwVersion, .rssi, .batteryVoltage,
    .batteryType, .manufacturerName, .radioFirmwareVersion, .legoWirelessProtocolVersion,
    .systemTypeId, .hwNetworkId, .primaryMacAddress, .secondaryMacAddress,
    .hardwareNetworkFamily]
  asU8 := HubPropertyReference.asU8
  mem_variants := by intro variant; cases variant <;> decide
  nodup := by decide

/-- What a `HUB_PROPERTIES` message does with its property. -/
inductive HubPropertyOperation where
  | setDownstream
  | enableUpdatesDownstream
  | disableUpdatesDownstream
  | resetDownstream
  | requestUpdateDownstream
  | updateUpstream
  deriving DecidableEq, Repr

def HubPropertyOperation.asU8 : HubPropertyOperation → UInt8
  | .setDownstream => 0x01
  | .enableUpdatesDownstream => 0x02
  | .disableUpdatesDownstream => 0x03
  | .resetDownstream => 0x04
  | .requestUpdateDownstream => 0x05
  | .updateUpstream => 0x06

instance : WireEnum HubPropertyOperation where
  name := "HubPropertyOperation"
  variants := [.setDownstream, .enableUpdatesDownstream, .disableUpdatesDownstream,
    .resetDownstream, .requestUpdateDownstream, .updateUpstream]
  asU8 := HubPropertyOperation.asU8
  mem_variants := by intro variant; cases variant <;> decide
  nodup := by decide

/-- Actions sent downstream to the hub or received upstream as notifications. -/
inductive ActionType where
  | switchOffHub
  | disconnect
  | vccPortControlOn
  | vccPortControlOff
  | activateBusyIndication
  | resetBusyIndication
  | shutdown
  | hubWillSwitchOff
  | hubWillDisconnect
  | hubWillGoIntoBootMode
  deriving DecidableEq, Repr

def ActionType.asU8 : ActionType → UInt8
  | .switchOffHub => 0x01
  | .disconnect => 0x02
  | .vccPortControlOn => 0x03
  | .vccPortControlOff => 0x04
  | .activateBusyIndication => 0x05
  | .resetBusyIndication => 0x06
  | .shutdown => 0x2F
  | .hubWillSwitchOff => 0x30
  | .hubWillDisconnect => 0x31
  | .hubWillGoIntoBootMode => 0x32

instance : WireEnum ActionType where
  name := "ActionType"
  variants := [.switchOffHub, .disconnect, .vccPortControlOn, .vccPortControlOff,
    .activateBusyIndication, .resetBusyIndication, .shutdown, .hubWillSwitchOff,
    .hubWillDisconnect, .hubWillGoIntoBootMode]
  asU8 := ActionType.asU8
  mem_variants := by intro variant; cases variant <;> decide
  nodup := by decide

/-- The condition a `HUB_ALERTS` message is about. -/
inductive AlertType where
  | lowVoltage
  | highCurrent
  | lowSignalStrength
  | overPowerCondition
  deriving DecidableEq, Repr

def AlertType.asU8 : AlertType → UInt8
  | .lowVoltage => 0x01
  | .highCurrent => 0x02
  | .lowSignalStrength => 0x03
  | .overPowerCondition => 0x04

instance : WireEnum AlertType where
  name := "AlertType"
  variants := [.lowVoltage, .highCurrent, .lowSignalStrength, .overPowerCondition]
  asU8 := AlertType.asU8
  mem_variants := by intro variant; cases variant <;> decide
  nodup := by decide

/-- Whether the alert condition holds. -/
inductive AlertPayload where
  | statusOk
  | alert
  deriving DecidableEq, Repr

def AlertPayload.asU8 : AlertPayload → UInt8
  | .statusOk => 0x00
  | .alert => 0xFF

instance : WireEnum AlertPayload where
  name := "AlertPayload"
  variants := [.statusOk, .alert]
  asU8 := AlertPayload.asU8
  mem_variants := by intro variant; cases variant <;> decide
  nodup := by decide

/-- What happened on a port. -/
inductive IoEvent where
  | detachedIo
  | attachedIo
  | attachedVirtualIo
  deriving DecidableEq, Repr

def IoEvent.asU8 : IoEvent → UInt8
  | .detachedIo => 0x00
  | .attachedIo => 0x01
  | .attachedVirtualIo => 0x02

instance : WireEnum IoEvent where
  name := "IoEvent"
  variants := [.detachedIo, .attachedIo, .attachedVirtualIo]
  asU8 := IoEvent.asU8
  mem_variants := by intro variant; cases variant <;> decide
  nodup := by decide

/-- State machine values for port-output command tracking. -/
inductive CommandFeedback where
  | transmissionPending
  | transmissionBusy
  | executionPending
  | executionBusy
  | executionCompleted
  | executionDiscarded
  | feedbackDisabled
  | transmissionDiscarded
  | feedbackMissing
  deriving DecidableEq, Repr

def CommandFeedback.asU8 : CommandFeedback → UInt8
  | .transmissionPending => 0x00
  | .transmissionBusy => 0x10
  | .executionPending => 0x20
  | .executionBusy => 0x21
  | .executionCompleted => 0x22
  | .executionDiscarded => 0x24
  | .feedbackDisabled => 0x26
  | .transmissionDiscarded => 0x44
  | .feedbackMissing => 0x66

instance : WireEnum CommandFeedback where
  name := "CommandFeedback"
  variants := [.transmissionPending, .transmissionBusy, .executionPending, .executionBusy,
    .executionCompleted, .executionDiscarded, .feedbackDisabled, .transmissionDiscarded,
    .feedbackMissing]
  asU8 := CommandFeedback.asU8
  mem_variants := by intro variant; cases variant <;> decide
  nodup := by decide

end PoweredUp

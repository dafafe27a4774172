import PoweredUp.Device.MotorCommand
import PoweredUp.Foundation.KeyedLog
import PoweredUp.Protocol.RoundTrip

/-!
# Calls to the motor encoders

Every encoder of a motor writes the payload of the command it is called for: the
speed is clamped, and the power limit, the braking style and the profile flags are
those that were assigned to the motor last.
-/

namespace PoweredUp

open Rust KeyedLog

/-! ## Settings -/

/-- The settings of a motor that its commands depend on. -/
structure MotorSettings where
  brakeStyle : BrakingStyle := .brake
  maxPower : UInt8 := 100
  useAccelerationProfile : Bool := true
  useDecelerationProfile : Bool := true
  deriving DecidableEq, Repr

/-- An assignment to one of the settings. -/
inductive MotorSetting where
  | setBrakingStyle (style : BrakingStyle)
  | setMaxPower (maxPower : UInt8)
  | setAccelerationProfile (use : Bool)
  | setDecelerationProfile (use : Bool)
  deriving DecidableEq, Repr

namespace MotorSetting

def brakingStyle? : MotorSetting → Option BrakingStyle
  | .setBrakingStyle style => some style
  | _ => none

def maxPower? : MotorSetting → Option UInt8
  | .setMaxPower maxPower => some maxPower
  | _ => none

def accelerationProfile? : MotorSetting → Option Bool
  | .setAccelerationProfile use => some use
  | _ => none

def decelerationProfile? : MotorSetting → Option Bool
  | .setDecelerationProfile use => some use
  | _ => none

end MotorSetting

/-- The last value assigned to a setting, or its default. -/
def lastAssigned {α : Type} (assigned : MotorSetting → Option α) (default : α)
    (history : List MotorSetting) : α :=
  ((history.filterMap assigned).getLast?).elim default id

namespace MotorSettings

/-- The settings after a history of assignments. -/
def current (history : List MotorSetting) : MotorSettings where
  brakeStyle := lastAssigned MotorSetting.brakingStyle? .brake history
  maxPower := lastAssigned MotorSetting.maxPower? 100 history
  useAccelerationProfile := lastAssigned MotorSetting.accelerationProfile? true history
  useDecelerationProfile := lastAssigned MotorSetting.decelerationProfile? true history

/-- Assign one of the settings. -/
def assign (self : MotorSettings) : MotorSetting → MotorSettings
  | .setBrakingStyle style => { self with brakeStyle := style }
  | .setMaxPower maxPower => { self with maxPower }
  | .setAccelerationProfile use => { self with useAccelerationProfile := use }
  | .setDecelerationProfile use => { self with useDecelerationProfile := use }

/-- Every setting is a register of its own. -/
theorem foldl_assign (history : List MotorSetting) : history.foldl assign {} = current history := by
  have register {α : Type} {get : MotorSettings → α} {assigned : MotorSetting → Option α}
      (writes : ∀ settings setting,
        get (assign settings setting) = (assigned setting).elim (get settings) id) :
      get (history.foldl assign {}) = lastAssigned assigned (get {}) history :=
    foldl_register writes history {}
  have brakeStyle := @register _ MotorSettings.brakeStyle MotorSetting.brakingStyle?
    fun settings setting => by cases setting <;> rfl
  have maxPower := @register _ MotorSettings.maxPower MotorSetting.maxPower?
    fun settings setting => by cases setting <;> rfl
  have acceleration := @register _ MotorSettings.useAccelerationProfile
    MotorSetting.accelerationProfile? fun settings setting => by cases setting <;> rfl
  have deceleration := @register _ MotorSettings.useDecelerationProfile
    MotorSetting.decelerationProfile? fun settings setting => by cases setting <;> rfl
  rw [current, ← brakeStyle, ← maxPower, ← acceleration, ← deceleration]

/-- A motor whose assignments assign its settings has the current ones. -/
theorem settings_foldl {σ : Type} {settings : σ → MotorSettings} {assign : σ → MotorSetting → σ}
    (assigns : ∀ motor setting, settings (assign motor setting) = (settings motor).assign setting)
    {motor : σ} (fresh : settings motor = {}) (history : List MotorSetting) :
    settings (history.foldl assign motor) = current history := by
  rw [← foldl_assign, ← fresh]
  exact (List.foldl_hom settings fun motor setting => (assigns motor setting).symm).symm

end MotorSettings

/-! ## Encoder calls -/

/-- The encoders of a basic motor. -/
inductive BasicMotorCall where
  | setPower (power : Int8)
  | stop
  | brake
  deriving DecidableEq, Repr

/-- The encoders of a tacho motor. -/
inductive TachoMotorCall where
  | setAccelerationTime (timeMs : UInt16) (profile : UInt8)
  | setDecelerationTime (timeMs : UInt16) (profile : UInt8)
  | setSpeed (speed : Int8)
  | setSpeedForTime (speed : Int8) (timeMs : UInt16)
  | rotateByDegrees (degrees : UInt32) (speed : Int8)
  deriving DecidableEq, Repr

/-- The encoders of an absolute motor. -/
inductive AbsoluteMotorCall where
  | gotoAngle (angle : Int32) (speed : Int8)
  | resetZero
  | rotateByDegrees (degrees : UInt32) (speed : Int8)
  deriving DecidableEq, Repr

def BasicMotorDevice.encode (self : BasicMotorDevice) : BasicMotorCall → Bytes
  | .setPower power => self.encodeSetPower power
  | .stop => self.encodeStop
  | .brake => self.encodeBrake

/-- The command a call asks for; stop and brake are powers. -/
def BasicMotorCall.effective : BasicMotorCall → MotorCommand
  | .setPower power => .setPower (effectiveSpeed power)
  | .stop => .setPower 0
  | .brake => .setPower 127

/-- The caller passes 127 or asks for the brake. -/
def BasicMotorCall.Brakes : BasicMotorCall → Prop
  | .setPower power => power = 127
  | .stop => False
  | .brake => True

theorem BasicMotorDevice.encode_eq (self : BasicMotorDevice) (call : BasicMotorCall) :
    self.encode call = call.effective.payload := by
  cases call with
  | setPower power => simp [encode, encodeSetPower, mapSpeed_eq, BasicMotorCall.effective,
      MotorCommand.payload]
  | stop => rfl
  | brake => rfl

theorem BasicMotorCall.speed_safe (call : BasicMotorCall) {speed : Int8}
    (takes : call.effective.speed? = some speed) : SafeSpeed speed ∧ (speed = 127 ↔ call.Brakes) := by
  cases call with
  | setPower power =>
      cases takes
      exact ⟨effectiveSpeed_safe power, effectiveSpeed_eq_brake_iff power⟩
  | stop =>
      cases takes
      exact ⟨effectiveSpeed_safe 0, iff_of_false (by decide) not_false⟩
  | brake =>
      cases takes
      exact ⟨.inr rfl, iff_of_true rfl trivial⟩

namespace TachoMotorDevice

def settings (self : TachoMotorDevice) : MotorSettings where
  brakeStyle := self.brakeStyle
  maxPower := self.maxPower
  useAccelerationProfile := self.useAccelerationProfile
  useDecelerationProfile := self.useDecelerationProfile

def assign (self : TachoMotorDevice) : MotorSetting → TachoMotorDevice
  | .setBrakingStyle style => self.setBrakingStyle style
  | .setMaxPower maxPower => self.setMaxPower maxPower
  | .setAccelerationProfile use => { self with useAccelerationProfile := use }
  | .setDecelerationProfile use => { self with useDecelerationProfile := use }

/-- A new motor after a history of assignments. -/
def configured (portId : UInt8) (deviceTypeId : UInt16) (history : List MotorSetting) :
    TachoMotorDevice :=
  history.foldl assign (.new portId deviceTypeId)

theorem settings_configured (portId : UInt8) (deviceTypeId : UInt16)
    (history : List MotorSetting) :
    (configured portId deviceTypeId history).settings = .current history := by
  refine @MotorSettings.settings_foldl TachoMotorDevice settings assign ?_ _ rfl history
  intro motor setting
  cases setting <;> rfl

def encode (self : TachoMotorDevice) : TachoMotorCall → Bytes
  | .setAccelerationTime timeMs profile => self.encodeSetAccelerationTime timeMs profile
  | .setDecelerationTime timeMs profile => self.encodeSetDecelerationTime timeMs profile
  | .setSpeed speed => self.encodeSetSpeed speed
  | .setSpeedForTime speed timeMs => self.encodeSetSpeedForTime speed timeMs
  | .rotateByDegrees degrees speed => self.encodeRotateByDegrees degrees speed

end TachoMotorDevice

/-- The command a call asks for under the current settings. -/
def TachoMotorCall.effective (settings : MotorSettings) : TachoMotorCall → MotorCommand
  | .setAccelerationTime timeMs profile => .setAccelerationTime timeMs profile
  | .setDecelerationTime timeMs profile => .setDecelerationTime timeMs profile
  | .setSpeed speed => .setSpeed (effectiveSpeed speed) settings.maxPower
      settings.useAccelerationProfile settings.useDecelerationProfile
  | .setSpeedForTime speed timeMs => .setSpeedForTime (effectiveSpeed speed) timeMs
      settings.maxPower settings.brakeStyle settings.useAccelerationProfile
      settings.useDecelerationProfile
  | .rotateByDegrees degrees speed => .rotateByDegrees degrees (effectiveSpeed speed)
      settings.maxPower settings.brakeStyle settings.useAccelerationProfile
      settings.useDecelerationProfile

def TachoMotorCall.Brakes : TachoMotorCall → Prop
  | .setSpeed speed | .setSpeedForTime speed _ | .rotateByDegrees _ speed => speed = 127
  | .setAccelerationTime _ _ | .setDecelerationTime _ _ => False

theorem TachoMotorDevice.encode_eq (self : TachoMotorDevice) (call : TachoMotorCall) :
    self.encode call = (call.effective self.settings).payload := by
  cases call with
  | setAccelerationTime timeMs profile => rfl
  | setDecelerationTime timeMs profile => rfl
  | setSpeed speed => simp [encode, encodeSetSpeed, mapSpeed_eq, TachoMotorCall.effective,
      MotorCommand.payload, settings, profile]
  | setSpeedForTime speed timeMs => simp [encode, encodeSetSpeedForTime, mapSpeed_eq,
      TachoMotorCall.effective, MotorCommand.payload, settings, profile]
  | rotateByDegrees degrees speed => simp [encode, encodeRotateByDegrees, startSpeedForDegrees,
      mapSpeed_eq, TachoMotorCall.effective, MotorCommand.payload, settings, profile]

theorem TachoMotorCall.speed_safe (call : TachoMotorCall) {settings : MotorSettings} {speed : Int8}
    (takes : (call.effective settings).speed? = some speed) :
    SafeSpeed speed ∧ (speed = 127 ↔ call.Brakes) := by
  cases call with
  | setAccelerationTime | setDecelerationTime => cases takes
  | setSpeed passed | setSpeedForTime passed | rotateByDegrees _ passed =>
      cases takes
      exact ⟨effectiveSpeed_safe passed, effectiveSpeed_eq_brake_iff passed⟩

namespace AbsoluteMotorDevice

def settings (self : AbsoluteMotorDevice) : MotorSettings where
  brakeStyle := self.brakeStyle
  maxPower := self.maxPower
  useAccelerationProfile := self.useAccelerationProfile
  useDecelerationProfile := self.useDecelerationProfile

def assign (self : AbsoluteMotorDevice) : MotorSetting → AbsoluteMotorDevice
  | .setBrakingStyle style => self.setBrakingStyle style
  | .setMaxPower maxPower => self.setMaxPower maxPower
  | .setAccelerationProfile use => { self with useAccelerationProfile := use }
  | .setDecelerationProfile use => { self with useDecelerationProfile := use }

/-- A new motor after a history of assignments. -/
def configured (portId : UInt8) (deviceTypeId : UInt16) (history : List MotorSetting) :
    AbsoluteMotorDevice :=
  history.foldl assign (.new portId deviceTypeId)

theorem settings_configured (portId : UInt8) (deviceTypeId : UInt16)
    (history : List MotorSetting) :
    (configured portId deviceTypeId history).settings = .current history := by
  refine @MotorSettings.settings_foldl AbsoluteMotorDevice settings assign ?_ _ rfl history
  intro motor setting
  cases setting <;> rfl

def encode (self : AbsoluteMotorDevice) : AbsoluteMotorCall → Bytes
  | .gotoAngle angle speed => self.encodeGotoAngle angle speed
  | .resetZero => self.encodeResetZero
  | .rotateByDegrees degrees speed => self.encodeRotateByDegrees degrees speed

end AbsoluteMotorDevice

/-- The command a call asks for under the current settings. -/
def AbsoluteMotorCall.effective (settings : MotorSettings) : AbsoluteMotorCall → MotorCommand
  | .gotoAngle angle speed => .gotoAngle angle (effectiveSpeed speed) settings.maxPower
      settings.brakeStyle settings.useAccelerationProfile settings.useDecelerationProfile
  | .resetZero => .resetZero
  | .rotateByDegrees degrees speed => .rotateByDegrees degrees (effectiveSpeed speed)
      settings.maxPower settings.brakeStyle settings.useAccelerationProfile
      settings.useDecelerationProfile

def AbsoluteMotorCall.Brakes : AbsoluteMotorCall → Prop
  | .gotoAngle _ speed | .rotateByDegrees _ speed => speed = 127
  | .resetZero => False

theorem AbsoluteMotorDevice.encode_eq (self : AbsoluteMotorDevice) (call : AbsoluteMotorCall) :
    self.encode call = (call.effective self.settings).payload := by
  cases call with
  | gotoAngle angle speed => simp [encode, encodeGotoAngle, mapSpeed_eq,
      AbsoluteMotorCall.effective, MotorCommand.payload, settings, profile]
  | resetZero => rfl
  | rotateByDegrees degrees speed => simp [encode, encodeRotateByDegrees, startSpeedForDegrees,
      mapSpeed_eq, AbsoluteMotorCall.effective, MotorCommand.payload, settings, profile]

theorem AbsoluteMotorCall.speed_safe (call : AbsoluteMotorCall) {settings : MotorSettings}
    {speed : Int8} (takes : (call.effective settings).speed? = some speed) :
    SafeSpeed speed ∧ (speed = 127 ↔ call.Brakes) := by
  cases call with
  | resetZero => cases takes
  | gotoAngle _ passed | rotateByDegrees _ passed =>
      cases takes
      exact ⟨effectiveSpeed_safe passed, effectiveSpeed_eq_brake_iff passed⟩

/-! ## All motors -/

/-- A call to an encoder of any motor, with the assignments made before. -/
inductive MotorCall where
  | basic (portId : UInt8) (deviceTypeId : UInt16) (call : BasicMotorCall)
  | tacho (portId : UInt8) (deviceTypeId : UInt16) (history : List MotorSetting)
      (call : TachoMotorCall)
  | absolute (portId : UInt8) (deviceTypeId : UInt16) (history : List MotorSetting)
      (call : AbsoluteMotorCall)
  deriving DecidableEq, Repr

namespace MotorCall

/-- The bytes the encoder returns. -/
def payload : MotorCall → Bytes
  | .basic portId deviceTypeId call => (BasicMotorDevice.new portId deviceTypeId).encode call
  | .tacho portId deviceTypeId history call =>
      (TachoMotorDevice.configured portId deviceTypeId history).encode call
  | .absolute portId deviceTypeId history call =>
      (AbsoluteMotorDevice.configured portId deviceTypeId history).encode call

/-- The command the call asks for. -/
def effective : MotorCall → MotorCommand
  | .basic _ _ call => call.effective
  | .tacho _ _ history call => call.effective (.current history)
  | .absolute _ _ history call => call.effective (.current history)

/-- The caller passes 127 or asks for the brake. -/
def Brakes : MotorCall → Prop
  | .basic _ _ call => call.Brakes
  | .tacho _ _ _ call => call.Brakes
  | .absolute _ _ _ call => call.Brakes

/-- Every encoder writes the payload of the command it is called for. -/
theorem payload_eq (call : MotorCall) : call.payload = call.effective.payload := by
  cases call with
  | basic portId deviceTypeId call => exact BasicMotorDevice.encode_eq _ call
  | tacho portId deviceTypeId history call =>
      rw [payload, TachoMotorDevice.encode_eq, TachoMotorDevice.settings_configured]
      rfl
  | absolute portId deviceTypeId history call =>
      rw [payload, AbsoluteMotorDevice.encode_eq, AbsoluteMotorDevice.settings_configured]
      rfl

theorem speed_safe (call : MotorCall) {speed : Int8}
    (takes : call.effective.speed? = some speed) :
    SafeSpeed speed ∧ (speed = 127 ↔ call.Brakes) := by
  cases call with
  | basic portId deviceTypeId call => exact call.speed_safe takes
  | tacho portId deviceTypeId history call => exact call.speed_safe takes
  | absolute portId deviceTypeId history call => exact call.speed_safe takes

/-- One reading of payloads recovers the command of every encoder call, so equal
payloads are the same command.  The speed byte is a percentage or the brake, and the
brake only on request.  A port output command carries the payload unchanged. -/
theorem payload_unambiguous :
    ∃ decode : Bytes → Option MotorCommand,
      (∀ call : MotorCall, decode call.payload = some call.effective) ∧
      (∀ call call' : MotorCall, call.payload = call'.payload → call.effective = call'.effective) ∧
      (∀ call : MotorCall,
        (speedByte call.payload).map UInt8.toInt8 = call.effective.speed? ∧
        ∀ speed ∈ (speedByte call.payload).map UInt8.toInt8,
          SafeSpeed speed ∧ (speed = 127 ↔ call.Brakes)) ∧
      ∀ (call : MotorCall) (portId startupAndCompletion : UInt8),
        parse (encode (.portOutputCommand ⟨portId, startupAndCompletion, call.payload⟩)) =
          .ret (.ok (.portOutputCommand ⟨portId, startupAndCompletion, call.payload⟩)) := by
  have decodes (call : MotorCall) :
      MotorCommand.decode call.payload = some call.effective := by
    rw [payload_eq]
    exact MotorCommand.decode_payload call.effective
  refine ⟨MotorCommand.decode, decodes, ?_, ?_, ?_⟩
  · intro call call' same
    exact Option.some.inj ((decodes call).symm.trans (same ▸ decodes call'))
  · intro call
    have byte : (speedByte call.payload).map UInt8.toInt8 = call.effective.speed? := by
      rw [payload_eq, speedByte_payload, Option.map_map]
      cases call.effective.speed? <;> rfl
    refine ⟨byte, ?_⟩
    intro speed taken
    exact call.speed_safe (byte.symm.trans taken)
  · intro call portId startupAndCompletion
    have short := MotorCommand.length_payload call.effective
    rw [← payload_eq] at short
    refine parse_encode trivial ?_
    simp only [length_encode, encodeInner, List.length_append, List.length_cons, List.length_nil]
    omega

example : payload (.tacho 0 0x26 [.setMaxPower 80, .setDecelerationProfile false]
    (.setSpeed (-128))) = [0x07, 156, 80, 1] := by decide

end MotorCall

end PoweredUp

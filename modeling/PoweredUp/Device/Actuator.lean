import PoweredUp.Device.Light
import PoweredUp.Device.MotorCall

/-!
# Actuators

The devices that are commanded with port output commands.  Each kind has its own
encoders, and the first bytes of their payloads coincide: only together with the kind
of the device does a payload determine the command it asks for.
-/

namespace PoweredUp

open WireEnum

inductive ActuatorKind where
  | basicMotor
  | tachoMotor
  | absoluteMotor
  | hubLed
  | light
  | colorLightMatrix
  deriving DecidableEq, Repr

/-- A device of a kind. -/
inductive Actuator : ActuatorKind → Type where
  | basicMotor (self : BasicMotorDevice) : Actuator .basicMotor
  | tachoMotor (self : TachoMotorDevice) : Actuator .tachoMotor
  | absoluteMotor (self : AbsoluteMotorDevice) : Actuator .absoluteMotor
  | hubLed (self : HubLed) : Actuator .hubLed
  | light (self : Light) : Actuator .light
  | colorLightMatrix (self : ColorLightMatrix) : Actuator .colorLightMatrix

/-- A setting of a kind of device; only two of them have any. -/
inductive ActuatorSetting : ActuatorKind → Type where
  | tachoMotor (setting : MotorSetting) : ActuatorSetting .tachoMotor
  | absoluteMotor (setting : MotorSetting) : ActuatorSetting .absoluteMotor

/-- A colour that a pixel can show: `Color::None` would fill the byte, with its
brightness. -/
abbrev PixelColor := { color : Color // color ≠ .none }

/-- A call to one of the encoders of a kind of device. -/
inductive ActuatorCall : ActuatorKind → Type where
  | basicMotor (call : BasicMotorCall) : ActuatorCall .basicMotor
  | tachoMotor (call : TachoMotorCall) : ActuatorCall .tachoMotor
  | absoluteMotor (call : AbsoluteMotorCall) : ActuatorCall .absoluteMotor
  | setLedColor (color : Color) : ActuatorCall .hubLed
  | setLedRgb (red green blue : UInt8) : ActuatorCall .hubLed
  | setBrightness (brightness : UInt8) : ActuatorCall .light
  | setMatrixColor (color : PixelColor) : ActuatorCall .colorLightMatrix
  | setMatrix (colors : List PixelColor) (nine : 9 ≤ colors.length) : ActuatorCall .colorLightMatrix

/-- What a device is asked to do. -/
inductive OutputCommand where
  | motor (command : MotorCommand)
  | color (color : Color)
  | rgb (red green blue : UInt8)
  | brightness (percent : UInt8)
  | pixels (shown : List (Color × UInt8))
  deriving DecidableEq, Repr

variable {kind : ActuatorKind}

def ActuatorSetting.motorSetting : ActuatorSetting kind → MotorSetting
  | .tachoMotor setting => setting
  | .absoluteMotor setting => setting

/-- The command a call asks for under the settings of the device. -/
def ActuatorCall.effective (settings : MotorSettings) : ActuatorCall kind → OutputCommand
  | .basicMotor call => .motor call.effective
  | .tachoMotor call => .motor (call.effective settings)
  | .absoluteMotor call => .motor (call.effective settings)
  | .setLedColor color => .color color
  | .setLedRgb red green blue => .rgb red green blue
  | .setBrightness brightness => .brightness (min brightness 100)
  | .setMatrixColor color => .pixels (List.replicate 9 (color.val, 10))
  | .setMatrix colors _ => .pixels (((colors.map Subtype.val).take 9).map (·, 10))

namespace Actuator

/-- A new device. -/
def new (portId : UInt8) (deviceTypeId : UInt16) : (kind : ActuatorKind) → Actuator kind
  | .basicMotor => .basicMotor (.new portId deviceTypeId)
  | .tachoMotor => .tachoMotor (.new portId deviceTypeId)
  | .absoluteMotor => .absoluteMotor (.new portId deviceTypeId)
  | .hubLed => .hubLed (.new portId)
  | .light => .light (.new portId)
  | .colorLightMatrix => .colorLightMatrix (.new portId)

def portId : Actuator kind → UInt8
  | .basicMotor self => Device.portId self
  | .tachoMotor self => Device.portId self
  | .absoluteMotor self => Device.portId self
  | .hubLed self => Device.portId self
  | .light self => Device.portId self
  | .colorLightMatrix self => Device.portId self

def setMode (mode : UInt8) : Actuator kind → Actuator kind
  | .basicMotor self => .basicMotor (Device.setMode self mode)
  | .tachoMotor self => .tachoMotor (Device.setMode self mode)
  | .absoluteMotor self => .absoluteMotor (Device.setMode self mode)
  | .hubLed self => .hubLed (Device.setMode self mode)
  | .light self => .light (Device.setMode self mode)
  | .colorLightMatrix self => .colorLightMatrix (Device.setMode self mode)

def assign : Actuator kind → ActuatorSetting kind → Actuator kind
  | .tachoMotor self, .tachoMotor setting => .tachoMotor (self.assign setting)
  | .absoluteMotor self, .absoluteMotor setting => .absoluteMotor (self.assign setting)

def encode : Actuator kind → ActuatorCall kind → Bytes
  | .basicMotor self, .basicMotor call => self.encode call
  | .tachoMotor self, .tachoMotor call => self.encode call
  | .absoluteMotor self, .absoluteMotor call => self.encode call
  | .hubLed self, .setLedColor color => self.encodeSetColor color
  | .hubLed self, .setLedRgb red green blue => self.encodeSetRgb red green blue
  | .light self, .setBrightness brightness => self.encodeSetBrightness brightness
  | .colorLightMatrix self, .setMatrixColor color => self.encodeSetColor color
  | .colorLightMatrix self, .setMatrix colors _ => self.encodeSetMatrix (colors.map Subtype.val)

/-- The settings of a device that its commands depend on. -/
def settings : Actuator kind → MotorSettings
  | .tachoMotor self => self.settings
  | .absoluteMotor self => self.settings
  | _ => {}

@[simp] theorem portId_new (portId : UInt8) (deviceTypeId : UInt16) (kind : ActuatorKind) :
    (new portId deviceTypeId kind).portId = portId := by
  cases kind <;> rfl

@[simp] theorem settings_new (portId : UInt8) (deviceTypeId : UInt16) (kind : ActuatorKind) :
    (new portId deviceTypeId kind).settings = {} := by
  cases kind <;> rfl

@[simp] theorem portId_setMode (self : Actuator kind) (mode : UInt8) :
    (self.setMode mode).portId = self.portId := by
  cases self <;> rfl

@[simp] theorem settings_setMode (self : Actuator kind) (mode : UInt8) :
    (self.setMode mode).settings = self.settings := by
  cases self <;> rfl

@[simp] theorem portId_assign (self : Actuator kind) (setting : ActuatorSetting kind) :
    (self.assign setting).portId = self.portId := by
  cases setting with
  | tachoMotor setting =>
      cases self with
      | tachoMotor self => cases setting <;> rfl
  | absoluteMotor setting =>
      cases self with
      | absoluteMotor self => cases setting <;> rfl

@[simp] theorem settings_assign (self : Actuator kind) (setting : ActuatorSetting kind) :
    (self.assign setting).settings = self.settings.assign setting.motorSetting := by
  cases setting with
  | tachoMotor setting =>
      cases self with
      | tachoMotor self => cases setting <;> rfl
  | absoluteMotor setting =>
      cases self with
      | absoluteMotor self => cases setting <;> rfl

end Actuator

/-! ## Reading payloads -/

/-- The colour of a wire byte. -/
def color? (value : UInt8) : Option Color :=
  match (tryFrom value : Result Color) with
  | .ok color => some color
  | .error _ => none

@[simp] theorem color?_asU8 (color : Color) : color? color.asU8 = some color := by
  cases color <;> rfl

/-- The colour and the brightness of a pixel, `color_index | (brightness << 4)`. -/
def pixel? (byte : UInt8) : Option (Color × UInt8) :=
  (color? (byte &&& 0x0F)).map (·, byte >>> 4)

theorem pixel?_pixel {color : Color} (shown : color ≠ .none) :
    pixel? (pixel color) = some (color, 10) := by
  obtain ⟨lower, upper, _⟩ := shows_pixel.mpr shown
  rw [pixel?, lower, upper, color?_asU8]
  rfl

/-- The command a payload asks a kind of device for. -/
def ActuatorKind.decode : ActuatorKind → Bytes → Option OutputCommand
  | .basicMotor, payload | .tachoMotor, payload | .absoluteMotor, payload =>
      (MotorCommand.decode payload).map .motor
  | .hubLed, [0x51, 0x00, color] => (color? color).map .color
  | .hubLed, [0x51, 0x01, red, green, blue] => some (.rgb red green blue)
  | .light, [0x51, 0x00, brightness] => some (.brightness brightness)
  | .colorLightMatrix, 0x51 :: 0x02 :: pixels =>
      if pixels.length = 9 then (pixels.mapM pixel?).map .pixels else none
  | _, _ => none

theorem decode_pixels {colors : List Color} (nine : colors.length = 9)
    (shown : ∀ color ∈ colors, color ≠ .none) :
    ActuatorKind.colorLightMatrix.decode ([0x51, 0x02] ++ colors.map pixel) =
      some (.pixels (colors.map (·, 10))) := by
  have recovered : (colors.map pixel).mapM pixel? = some (colors.map (·, 10)) := by
    clear nine
    induction colors with
    | nil => rfl
    | cons color colors ih =>
        obtain ⟨first, rest⟩ := List.forall_mem_cons.mp shown
        simp [pixel?_pixel first, ih rest]
  refine (if_pos ((List.length_map _).trans nine)).trans ?_
  change ((colors.map pixel).mapM pixel?).map _ = _
  rw [recovered]
  rfl

/-- The payload of a call is read back, by a device of that kind, as the command the
call asks for. -/
theorem Actuator.decode_encode (self : Actuator kind) (call : ActuatorCall kind) :
    kind.decode (self.encode call) = some (call.effective self.settings) := by
  have decode_payload {payload : Bytes} {command : MotorCommand}
      (encoded : payload = command.payload) :
      (MotorCommand.decode payload).map OutputCommand.motor = some (.motor command) := by
    rw [encoded, MotorCommand.decode_payload]
    rfl
  cases self with
  | basicMotor self =>
      cases call with
      | basicMotor call => exact decode_payload (self.encode_eq call)
  | tachoMotor self =>
      cases call with
      | tachoMotor call => exact decode_payload (self.encode_eq call)
  | absoluteMotor self =>
      cases call with
      | absoluteMotor call => exact decode_payload (self.encode_eq call)
  | hubLed self =>
      cases call with
      | setLedColor color =>
          change (color? color.asU8).map _ = _
          rw [color?_asU8]
          rfl
      | setLedRgb red green blue => rfl
  | light self =>
      cases call with
      | setBrightness brightness => rfl
  | colorLightMatrix self =>
      cases call with
      | setMatrixColor color =>
          have copies := decode_pixels (List.length_replicate (n := 9) (a := color.val))
            fun _ copy => List.eq_of_mem_replicate copy ▸ color.property
          rwa [List.map_replicate, List.map_replicate] at copies
      | setMatrix colors nine =>
          refine decode_pixels (List.length_take_of_le ?_) fun color member => ?_
          · rwa [List.length_map]
          · obtain ⟨shown, _, rfl⟩ := List.mem_map.mp (List.mem_of_mem_take member)
            exact shown.property

/-- The payloads leave room for the header of the message. -/
theorem Actuator.length_encode (self : Actuator kind) (call : ActuatorCall kind) :
    (self.encode call).length ≤ 11 := by
  have length_payload {payload : Bytes} {command : MotorCommand}
      (encoded : payload = command.payload) : payload.length ≤ 11 := by
    rw [encoded]
    exact (MotorCommand.length_payload command).trans (by decide)
  cases self with
  | basicMotor self =>
      cases call with
      | basicMotor call => exact length_payload (self.encode_eq call)
  | tachoMotor self =>
      cases call with
      | tachoMotor call => exact length_payload (self.encode_eq call)
  | absoluteMotor self =>
      cases call with
      | absoluteMotor call => exact length_payload (self.encode_eq call)
  | hubLed self => cases call <;> exact Nat.le_of_ble_eq_true rfl
  | light self =>
      cases call with
      | setBrightness brightness => exact Nat.le_of_ble_eq_true rfl
  | colorLightMatrix self =>
      cases call with
      | setMatrixColor color => exact Nat.le_of_ble_eq_true rfl
      | setMatrix colors _ =>
          change ([0x51, 0x02] ++ ((colors.map Subtype.val).take 9).map pixel).length ≤ 11
          simp only [List.length_append, List.length_cons, List.length_nil, List.length_map,
            List.length_take]
          omega

end PoweredUp

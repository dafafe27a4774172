import PoweredUp.Device.Motor

/-!
# Motor commands

What a motor payload stands for: a kind of command with its effective arguments.
Some commands share an opcode, but every payload has one reading.  Speeds are
percentages, or 127 for the brake.
-/

namespace PoweredUp

/-! ## Commands and their payloads -/

/-- A command with its effective arguments. -/
inductive MotorCommand where
  | setPower (power : Int8)
  | setAccelerationTime (timeMs : UInt16) (profile : UInt8)
  | setDecelerationTime (timeMs : UInt16) (profile : UInt8)
  | setSpeed (speed : Int8) (maxPower : UInt8) (accel decel : Bool)
  | setSpeedForTime (speed : Int8) (timeMs : UInt16) (maxPower : UInt8)
      (brakeStyle : BrakingStyle) (accel decel : Bool)
  | rotateByDegrees (degrees : UInt32) (speed : Int8) (maxPower : UInt8)
      (brakeStyle : BrakingStyle) (accel decel : Bool)
  | gotoAngle (angle : Int32) (speed : Int8) (maxPower : UInt8)
      (brakeStyle : BrakingStyle) (accel decel : Bool)
  | resetZero
  deriving DecidableEq, Repr

namespace MotorCommand

/-- The payload of a command. -/
def payload : MotorCommand → Bytes
  | .setPower power => [0x51, 0x00, power.toUInt8]
  | .setAccelerationTime timeMs profile => profileTime 0x05 timeMs profile
  | .setDecelerationTime timeMs profile => profileTime 0x06 timeMs profile
  | .setSpeed speed maxPower accel decel =>
      [0x07, speed.toUInt8, maxPower, useProfile accel decel]
  | .setSpeedForTime speed timeMs maxPower brakeStyle accel decel =>
      [0x09] ++ LittleEndian.ofU16 timeMs ++
        [speed.toUInt8, maxPower, brakeStyle.asU8, useProfile accel decel]
  | .rotateByDegrees degrees speed maxPower brakeStyle accel decel =>
      [0x0b] ++ LittleEndian.ofU32 degrees ++
        [speed.toUInt8, maxPower, brakeStyle.asU8, useProfile accel decel]
  | .gotoAngle angle speed maxPower brakeStyle accel decel =>
      [0x0d] ++ LittleEndian.ofI32 angle ++
        [speed.toUInt8, maxPower, brakeStyle.asU8, useProfile accel decel]
  | .resetZero => [0x51, 0x02, 0x00, 0x00, 0x00, 0x00]

/-- The braking style of a wire byte. -/
def brakingStyle? (value : UInt8) : Option BrakingStyle :=
  match (WireEnum.tryFrom value : Result BrakingStyle) with
  | .ok style => some style
  | .error _ => none

/-- The two flags of a profile byte. -/
def accel (profile : UInt8) : Bool := profile &&& 1 != 0
def decel (profile : UInt8) : Bool := profile &&& 2 != 0

/-- The command a payload stands for. -/
def decode : Bytes → Option MotorCommand
  | [0x51, 0x00, power] => some (.setPower power.toInt8)
  | [0x05, lo, hi, profile] => some (.setAccelerationTime (LittleEndian.u16 lo hi) profile)
  | [0x06, lo, hi, profile] => some (.setDecelerationTime (LittleEndian.u16 lo hi) profile)
  | [0x07, speed, maxPower, profile] =>
      some (.setSpeed speed.toInt8 maxPower (accel profile) (decel profile))
  | [0x09, lo, hi, speed, maxPower, style, profile] =>
      (brakingStyle? style).map fun brakeStyle =>
        .setSpeedForTime speed.toInt8 (LittleEndian.u16 lo hi) maxPower brakeStyle
          (accel profile) (decel profile)
  | [0x0b, deg0, deg1, deg2, deg3, speed, maxPower, style, profile] =>
      (brakingStyle? style).map fun brakeStyle =>
        .rotateByDegrees (LittleEndian.u32 deg0 deg1 deg2 deg3) speed.toInt8 maxPower brakeStyle
          (accel profile) (decel profile)
  | [0x0d, ang0, ang1, ang2, ang3, speed, maxPower, style, profile] =>
      (brakingStyle? style).map fun brakeStyle =>
        .gotoAngle (LittleEndian.i32 ang0 ang1 ang2 ang3) speed.toInt8 maxPower brakeStyle
          (accel profile) (decel profile)
  | [0x51, 0x02, 0x00, 0x00, 0x00, 0x00] => some .resetZero
  | _ => none

@[simp] theorem brakingStyle?_asU8 (style : BrakingStyle) :
    brakingStyle? style.asU8 = some style := by
  cases style <;> rfl

@[simp] theorem accel_useProfile (left right : Bool) : accel (useProfile left right) = left := by
  cases left <;> cases right <;> rfl

@[simp] theorem decel_useProfile (left right : Bool) : decel (useProfile left right) = right := by
  cases left <;> cases right <;> rfl

/-- A payload determines its command. -/
theorem decode_payload (command : MotorCommand) : decode command.payload = some command := by
  cases command with
  | setPower power => rfl
  | setAccelerationTime timeMs profile =>
      obtain ⟨lo, hi, bytes, reads⟩ := LittleEndian.exists_ofU16 timeMs
      simp only [payload, profileTime, bytes, List.cons_append, List.nil_append]
      rw [← reads]
      rfl
  | setDecelerationTime timeMs profile =>
      obtain ⟨lo, hi, bytes, reads⟩ := LittleEndian.exists_ofU16 timeMs
      simp only [payload, profileTime, bytes, List.cons_append, List.nil_append]
      rw [← reads]
      rfl
  | setSpeed speed maxPower left right =>
      change some (setSpeed _ _ (accel (useProfile left right)) (decel (useProfile left right))) = _
      rw [accel_useProfile, decel_useProfile]
      rfl
  | setSpeedForTime speed timeMs maxPower brakeStyle left right =>
      obtain ⟨lo, hi, bytes, reads⟩ := LittleEndian.exists_ofU16 timeMs
      simp only [payload, bytes, List.cons_append, List.nil_append]
      change (brakingStyle? brakeStyle.asU8).map _ = _
      rw [brakingStyle?_asU8, Option.map_some, accel_useProfile, decel_useProfile, reads]
      rfl
  | rotateByDegrees degrees speed maxPower brakeStyle left right =>
      obtain ⟨deg0, deg1, deg2, deg3, bytes, reads⟩ := LittleEndian.exists_ofU32 degrees
      simp only [payload, bytes, List.cons_append, List.nil_append]
      change (brakingStyle? brakeStyle.asU8).map _ = _
      rw [brakingStyle?_asU8, Option.map_some, accel_useProfile, decel_useProfile, reads]
      rfl
  | gotoAngle angle speed maxPower brakeStyle left right =>
      obtain ⟨ang0, ang1, ang2, ang3, bytes, reads⟩ := LittleEndian.exists_ofI32 angle
      simp only [payload, bytes, List.cons_append, List.nil_append]
      change (brakingStyle? brakeStyle.asU8).map _ = _
      rw [brakingStyle?_asU8, Option.map_some, accel_useProfile, decel_useProfile, reads]
      rfl
  | resetZero => rfl

theorem length_payload (command : MotorCommand) : command.payload.length ≤ 9 := by
  cases command <;> simp [payload, profileTime, LittleEndian.ofU16, LittleEndian.ofU32,
    LittleEndian.ofI32]

end MotorCommand

/-! ## Speeds -/

/-- The speed in effect: 127 is the brake, everything else is clamped to a
percentage. -/
def effectiveSpeed (speed : Int8) : Int8 :=
  if speed = 127 then 127 else clamp speed (-100) 100

theorem mapSpeed_eq (speed : Int8) : mapSpeed speed = (effectiveSpeed speed).toUInt8 := by
  unfold mapSpeed effectiveSpeed
  split <;> rfl

/-- A percentage or the brake. -/
def SafeSpeed (speed : Int8) : Prop :=
  -100 ≤ speed ∧ speed ≤ 100 ∨ speed = 127

theorem effectiveSpeed_safe (speed : Int8) : SafeSpeed (effectiveSpeed speed) := by
  unfold effectiveSpeed
  split
  · exact .inr rfl
  · exact .inl (clamp_mem (by decide) speed)

/-- Only the brake becomes the brake. -/
theorem effectiveSpeed_eq_brake_iff (speed : Int8) : effectiveSpeed speed = 127 ↔ speed = 127 := by
  unfold effectiveSpeed
  split
  case isTrue brake => exact iff_of_true rfl brake
  case isFalse other =>
    refine iff_of_false ?_ other
    intro clamped
    have bounded := (@clamp_mem (-100) 100 (by decide) speed).2
    rw [clamped] at bounded
    exact absurd bounded (by decide)

/-- The byte of a payload that a motor takes as its speed. -/
def speedByte : Bytes → Option UInt8
  | [0x51, 0x00, power] => some power
  | [0x07, speed, _, _] => some speed
  | [0x09, _, _, speed, _, _, _] => some speed
  | [0x0b, _, _, _, _, speed, _, _, _] => some speed
  | [0x0d, _, _, _, _, speed, _, _, _] => some speed
  | _ => none

/-- The speed of a command. -/
def MotorCommand.speed? : MotorCommand → Option Int8
  | .setPower power => some power
  | .setSpeed speed _ _ _ => some speed
  | .setSpeedForTime speed _ _ _ _ _ => some speed
  | .rotateByDegrees _ speed _ _ _ _ => some speed
  | .gotoAngle _ speed _ _ _ _ => some speed
  | .setAccelerationTime _ _ | .setDecelerationTime _ _ | .resetZero => none

theorem speedByte_payload (command : MotorCommand) :
    speedByte command.payload = command.speed?.map Int8.toUInt8 := by
  cases command with
  | setSpeedForTime speed timeMs maxPower brakeStyle accel decel =>
      obtain ⟨lo, hi, bytes, _⟩ := LittleEndian.exists_ofU16 timeMs
      simp only [MotorCommand.payload, bytes, List.cons_append, List.nil_append]
      rfl
  | rotateByDegrees degrees speed maxPower brakeStyle accel decel =>
      obtain ⟨deg0, deg1, deg2, deg3, bytes, _⟩ := LittleEndian.exists_ofU32 degrees
      simp only [MotorCommand.payload, bytes, List.cons_append, List.nil_append]
      rfl
  | gotoAngle angle speed maxPower brakeStyle accel decel =>
      obtain ⟨ang0, ang1, ang2, ang3, bytes, _⟩ := LittleEndian.exists_ofI32 angle
      simp only [MotorCommand.payload, bytes, List.cons_append, List.nil_append]
      rfl
  | _ => rfl

end PoweredUp

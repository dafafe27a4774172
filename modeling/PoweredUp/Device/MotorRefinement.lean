import PoweredUp.Device.MotorCall
import PoweredUp.Foundation.Lockstep

/-!
# Absolute motors refine tacho motors

The absolute motor repeats the settings, the rotation command and the rotation
events of the tacho motor.  On the calls that both understand they answer alike,
whatever was called before, except that in mode 3 the absolute motor reports its
position where the tacho motor reports nothing.
-/

namespace PoweredUp

open Rust Lockstep

/-- The interface that tacho and absolute motors share. -/
class SharedMotor (σ : Type) extends Device σ where
  assign : σ → MotorSetting → σ
  encodeRotateByDegrees : σ → UInt32 → Int8 → Bytes

instance : SharedMotor TachoMotorDevice where
  assign := TachoMotorDevice.assign
  encodeRotateByDegrees := TachoMotorDevice.encodeRotateByDegrees

instance : SharedMotor AbsoluteMotorDevice where
  assign := AbsoluteMotorDevice.assign
  encodeRotateByDegrees := AbsoluteMotorDevice.encodeRotateByDegrees

/-- A call that both motors understand. -/
inductive SharedMotorCall where
  | assign (setting : MotorSetting)
  | setMode (mode : UInt8)
  | rotateByDegrees (degrees : UInt32) (speed : Int8)
  | receive (data : Bytes)
  deriving DecidableEq, Repr

/-- What a call returns. -/
inductive MotorAnswer where
  | done
  | payload (bytes : Bytes)
  | received (outcome : Result (Option Event))

/-- Make a call. -/
def SharedMotor.call {σ : Type} [SharedMotor σ] (self : σ) :
    SharedMotorCall → Checked (MotorAnswer × σ)
  | .assign setting => return (.done, assign self setting)
  | .setMode mode => return (.done, Device.setMode self mode)
  | .rotateByDegrees degrees speed =>
      return (.payload (encodeRotateByDegrees self degrees speed), self)
  | .receive data => do
      let (outcome, self) ← Device.receive self data
      return (.received outcome, self)

/-! ## The current mode -/

/-- The mode a call sets. -/
def SharedMotorCall.mode? : SharedMotorCall → Option UInt8
  | .setMode mode => some mode
  | _ => none

/-- The mode that was set last; a new motor is in mode 0. -/
def currentMode (past : List SharedMotorCall) : UInt8 :=
  (past.filterMap SharedMotorCall.mode?).getLast?.getD 0

theorem currentMode_setMode (past : List SharedMotorCall) (mode : UInt8) :
    currentMode (past ++ [.setMode mode]) = mode := by
  rw [currentMode, List.filterMap_append]
  exact congrArg (Option.getD · 0) List.getLast?_concat

theorem currentMode_other (past : List SharedMotorCall) {call : SharedMotorCall}
    (other : call.mode? = none) : currentMode (past ++ [call]) = currentMode past := by
  rw [currentMode, List.filterMap_append, List.filterMap_cons_none other, List.filterMap_nil,
    List.append_nil, currentMode]

/-! ## Receiving -/

/-- A payload decoded as a rotation: its first four bytes, when it has them. -/
def DecodesRotation (portId : UInt8) (data : Bytes) (event : Option Event) : Prop :=
  if 4 ≤ data.length then
    ∃ degrees, event = some (.motorRotate portId degrees) ∧ LittleEndian.ofI32 degrees = data.take 4
  else
    event = none

theorem decodesRotation (portId : UInt8) (data : Bytes) :
    DecodesRotation portId data (rotation? portId data) := by
  rcases data with _ | ⟨byte0, _ | ⟨byte1, _ | ⟨byte2, _ | ⟨byte3, rest⟩⟩⟩⟩
  case cons.cons.cons.cons => exact ⟨_, rfl, LittleEndian.ofI32_i32 byte0 byte1 byte2 byte3⟩
  all_goals rfl

/-- What the two motors make of a payload in a mode. -/
structure SameEvents (portId mode : UInt8) (data : Bytes) (tacho absolute : Option Event) :
    Prop where
  equal : mode ≠ 3 → absolute = tacho
  position : mode = 3 → tacho = none ∧ ∀ event ∈ absolute, ∃ angle, event = .motorAngle portId angle
  rotation : mode = 2 → DecodesRotation portId data tacho

/-- The answers of the two motors to a call. -/
def SameAnswers (portId : UInt8) (past : List SharedMotorCall) (call : SharedMotorCall)
    (tacho absolute : MotorAnswer) : Prop :=
  match call with
  | .receive data =>
      ∃ event event', tacho = .received (.ok event) ∧ absolute = .received (.ok event') ∧
        SameEvents portId (currentMode past) data event event'
  | .rotateByDegrees _ _ => ∃ bytes, tacho = .payload bytes ∧ absolute = .payload bytes
  | _ => tacho = .done ∧ absolute = .done

/-! ## Refinement -/

namespace TachoMotorDevice

/-- The absolute motor with the same fields. -/
def asAbsolute (self : TachoMotorDevice) : AbsoluteMotorDevice where
  portId := self.portId
  deviceTypeId := self.deviceTypeId
  mode := self.mode
  brakeStyle := self.brakeStyle
  maxPower := self.maxPower
  useAccelerationProfile := self.useAccelerationProfile
  useDecelerationProfile := self.useDecelerationProfile

theorem asAbsolute_assign (self : TachoMotorDevice) (setting : MotorSetting) :
    self.asAbsolute.assign setting = (self.assign setting).asAbsolute := by
  cases setting <;> rfl

theorem portId_assign (self : TachoMotorDevice) (setting : MotorSetting) :
    (self.assign setting).portId = self.portId := by
  cases setting <;> rfl

theorem mode_assign (self : TachoMotorDevice) (setting : MotorSetting) :
    (self.assign setting).mode = self.mode := by
  cases setting <;> rfl

theorem receive_asAbsolute (self : TachoMotorDevice) (data : Bytes) :
    ∃ event event', Device.receive self data = .ret (.ok event, self) ∧
      Device.receive self.asAbsolute data = .ret (.ok event', self.asAbsolute) ∧
      SameEvents self.portId self.mode data event event' := by
  refine ⟨_, _, self.receive_eq data, self.asAbsolute.receive_eq data, ?_, ?_, ?_⟩
  · intro notAbsolute
    simp only [asAbsolute, notAbsolute, if_false]
  · intro isAbsolute
    simp only [asAbsolute, isAbsolute]
    exact ⟨rfl, fun event decoded => motorAngle_of_position? decoded⟩
  · intro rotates
    rw [if_pos rotates]
    exact decodesRotation self.portId data

/-- The motors have the same fields, and their mode is the current one. -/
def Mirrors (portId : UInt8) (past : List SharedMotorCall) (tacho : TachoMotorDevice)
    (absolute : AbsoluteMotorDevice) : Prop :=
  absolute = tacho.asAbsolute ∧ tacho.portId = portId ∧ tacho.mode = currentMode past

/-- The same call is answered alike and keeps the fields the same. -/
theorem mirrors_simulates (portId : UInt8) :
    Simulates SharedMotor.call SharedMotor.call (Mirrors portId) (SameAnswers portId) := by
  rintro past tacho _ call ⟨rfl, port, mode⟩
  cases call with
  | assign setting =>
      refine ⟨_, _, _, _, rfl, rfl, ⟨rfl, rfl⟩, tacho.asAbsolute_assign setting, ?_, ?_⟩
      · exact (tacho.portId_assign setting).trans port
      · rw [currentMode_other past rfl, ← mode]
        exact tacho.mode_assign setting
  | setMode value =>
      refine ⟨_, _, _, _, rfl, rfl, ⟨rfl, rfl⟩, rfl, port, ?_⟩
      rw [currentMode_setMode]
      rfl
  | rotateByDegrees degrees speed =>
      refine ⟨_, _, _, _, rfl, rfl, ⟨_, rfl, rfl⟩, rfl, port, ?_⟩
      rw [currentMode_other past rfl, mode]
  | receive data =>
      obtain ⟨event, event', received, received', same⟩ := tacho.receive_asAbsolute data
      rw [port, mode] at same
      refine ⟨.received (.ok event), tacho, .received (.ok event'), tacho.asAbsolute, ?_, ?_,
        ⟨event, event', rfl, rfl, same⟩, rfl, port, ?_⟩
      · simp only [SharedMotor.call, received, Checked.ret_bind, Checked.pure_eq_ret]
      · simp only [SharedMotor.call, received', Checked.ret_bind, Checked.pure_eq_ret]
      · rw [currentMode_other past rfl, mode]

end TachoMotorDevice

/-- Whatever is called on a new tacho motor and a new absolute motor alike, they
answer alike. -/
theorem AbsoluteMotorDevice.refines_tacho (portId : UInt8) (deviceTypeId : UInt16)
    (calls : List SharedMotorCall) :
    ∃ answers tacho answers' absolute,
      run SharedMotor.call (TachoMotorDevice.new portId deviceTypeId) calls =
        .ret (answers, tacho) ∧
      run SharedMotor.call (AbsoluteMotorDevice.new portId deviceTypeId) calls =
        .ret (answers', absolute) ∧
      Agree (SameAnswers portId) [] calls answers answers' ∧ absolute = tacho.asAbsolute := by
  have fresh : TachoMotorDevice.Mirrors portId [] (.new portId deviceTypeId)
      (.new portId deviceTypeId) := ⟨rfl, rfl, rfl⟩
  obtain ⟨answers, tacho, answers', absolute, ran, ran', agree, mirrors⟩ :=
    (TachoMotorDevice.mirrors_simulates portId).run calls fresh
  exact ⟨answers, tacho, answers', absolute, ran, ran', agree, mirrors.1⟩

end PoweredUp

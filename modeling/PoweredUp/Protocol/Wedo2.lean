import PoweredUp.Ble.Transport
import PoweredUp.Device.Light
import PoweredUp.Foundation.Checked

/-!
# The WeDo 2.0 protocol

The WeDo 2.0 hub has a characteristic of its own for every purpose and no frames: a
notification is a message, and a write is a command.  Upstream messages have no length,
so what is cut off is read as if it were zero.
-/

namespace PoweredUp

open Rust

/-! ## Upstream messages -/

inductive Wedo2IoEvent where
  | attached
  | detached
  deriving DecidableEq, Repr

/-- A message from the port characteristic. -/
structure Wedo2PortMessage where
  portId : UInt8
  event : Wedo2IoEvent
  deviceTypeId : UInt8
  deriving DecidableEq, Repr

/-- A message from the sensor or the button characteristic. -/
inductive Wedo2SensorMessage where
  | button (pressed : Bool)
  | portData (portId : UInt8) (data : Bytes)
  deriving DecidableEq, Repr

namespace Wedo2

/-- `[port_id, event, ?, device_type_id, ...]`. -/
def parsePortMessage (data : Bytes) : Checked (Result Wedo2PortMessage) :=
  if data.length < 2 then
    return .error (.parse s!"wedo2 port message too short: {data.length} bytes")
  else do
    let portId ← index data 0
    let other ← index data 1
    let event : Result Wedo2IoEvent :=
      if other = 0x01 then
        .ok .attached
      else if other = 0x00 then
        .ok .detached
      else
        .error (.parse s!"unknown wedo2 port event: {lowerHexAlternate other.toNat}")
    propagate event fun event =>
      let deviceTypeId := if event = .attached then data[3]?.getD 0 else 0
      return .ok { portId, event, deviceTypeId }

/-- One byte is a button, more than one is the data of a port. -/
def parseSensorMessage : Bytes → Result Wedo2SensorMessage
  | [] => .error (.parse "empty wedo2 sensor message")
  | [0x01] => .ok (.button true)
  | [0x00] => .ok (.button false)
  | _ :: portId :: rest => .ok (.portData portId rest)
  | [other] => .ok (.button (other != 0))

end Wedo2

/-- The event byte. -/
def Wedo2IoEvent.asU8 : Wedo2IoEvent → UInt8
  | .attached => 0x01
  | .detached => 0x00

namespace Wedo2

theorem parsePortMessage_cons (portId other : UInt8) (rest : Bytes) :
    parsePortMessage (portId :: other :: rest) = .ret
      (if other = 0x01 then .ok ⟨portId, .attached, rest[1]?.getD 0⟩
        else if other = 0x00 then .ok ⟨portId, .detached, 0⟩
        else .error (.parse s!"unknown wedo2 port event: {lowerHexAlternate other.toNat}")) := by
  rw [parsePortMessage, if_neg (by simp)]
  by_cases attaches : other = 0x01
  · simp [attaches, propagate]
  · by_cases detaches : other = 0x00
    · simp [detaches, propagate]
    · simp [attaches, detaches, propagate]

/-- Messages with two bytes are read by their event byte. -/
theorem ok_iff_of_cons {portId other : UInt8} {rest : Bytes} {message : Wedo2PortMessage} :
    (if other = 0x01 then Except.ok ⟨portId, .attached, rest[1]?.getD 0⟩
      else if other = 0x00 then .ok ⟨portId, .detached, 0⟩
      else .error (.parse s!"unknown wedo2 port event: {lowerHexAlternate other.toNat}") :
        Result Wedo2PortMessage) = .ok message ↔
      portId = message.portId ∧ other = message.event.asU8 ∧
        message.deviceTypeId = if message.event = .attached then rest[1]?.getD 0 else 0 := by
  obtain ⟨port, event, deviceTypeId⟩ := message
  by_cases attaches : other = 0x01
  · cases event <;> simp [attaches, Wedo2IoEvent.asU8, eq_comm]
  · by_cases detaches : other = 0x00
    · cases event <;> simp [detaches, Wedo2IoEvent.asU8, eq_comm]
    · cases event <;> simp [attaches, detaches, Wedo2IoEvent.asU8]

/-- Port messages are parsed without a panic and without a look at more than four bytes.
Accepted are a port and an event; the type of an attached device is the fourth byte, or
zero when it is cut off.  Everything else is a parse error that says what was wrong. -/
theorem parsePortMessage_grammar (data : Bytes) :
    ∃ result, parsePortMessage data = .ret result ∧ parsePortMessage (data.take 4) = .ret result ∧
      (∀ message, result = .ok message ↔
        ∃ rest, data = message.portId :: message.event.asU8 :: rest ∧
          message.deviceTypeId = if message.event = .attached then rest[1]?.getD 0 else 0) ∧
      ∀ error, result = .error error ↔
        data.length < 2 ∧
          error = .parse s!"wedo2 port message too short: {data.length} bytes" ∨
        ∃ portId other rest, data = portId :: other :: rest ∧ 1 < other ∧
          error = .parse s!"unknown wedo2 port event: {lowerHexAlternate other.toNat}" := by
  match data with
  | [] => exact ⟨_, rfl, rfl, by simp, by simp [eq_comm]⟩
  | [portId] => exact ⟨_, rfl, rfl, by simp, by simp [eq_comm]⟩
  | portId :: other :: rest =>
      refine ⟨_, parsePortMessage_cons portId other rest, ?_, fun message => ?_, fun error => ?_⟩
      · have taken : (rest.take 2)[1]? = rest[1]? := List.getElem?_take_of_lt (by decide)
        have kept := parsePortMessage_cons portId other (rest.take 2)
        rwa [taken] at kept
      · rw [ok_iff_of_cons]
        constructor
        · rintro ⟨rfl, rfl, deviceType⟩
          exact ⟨rest, rfl, deviceType⟩
        · rintro ⟨_, equality, deviceType⟩
          cases equality
          exact ⟨rfl, rfl, deviceType⟩
      · have long : ¬(portId :: other :: rest).length < 2 := by simp
        simp only [long, false_and, false_or]
        by_cases attaches : other = 0x01
        · simp [attaches]
        · by_cases detaches : other = 0x00
          · simp [detaches]
          · have beyond : 1 < other := by
              have notOne : other.toNat ≠ 1 := fun one => attaches (UInt8.toNat_inj.mp one)
              have notZero : other.toNat ≠ 0 := fun zero => detaches (UInt8.toNat_inj.mp zero)
              exact UInt8.lt_iff_toNat_lt.mpr (by change 1 < _; omega)
            simp [attaches, detaches, beyond, eq_comm]

/-- A sensor message is the data of a port exactly when it has a second byte, and the
first byte is not looked at.  One byte is a button, pressed unless it is zero. -/
theorem parseSensorMessage_grammar (data : Bytes) :
    (∀ portId rest, parseSensorMessage data = .ok (.portData portId rest) ↔
      ∃ first, data = first :: portId :: rest) ∧
    (∀ pressed, parseSensorMessage data = .ok (.button pressed) ↔
      ∃ state, data = [state] ∧ pressed = (state != 0)) ∧
    ∀ error, parseSensorMessage data = .error error ↔
      data = [] ∧ error = .parse "empty wedo2 sensor message" := by
  match data with
  | [] => simp [parseSensorMessage, eq_comm]
  | [state] =>
      have button : parseSensorMessage [state] = .ok (.button (state != 0)) := by
        unfold parseSensorMessage
        split
        · rename_i empty
          cases empty
        · rename_i one
          cases one
          rfl
        · rename_i zero
          cases zero
          rfl
        · rename_i more
          cases more
        · rename_i single
          cases single
          rfl
      simp [button, eq_comm]
  | first :: portId :: rest => simp [parseSensorMessage, eq_comm]

/-! ## Downstream commands -/

def encodeSubscribe (portId deviceType mode : UInt8) : Bytes :=
  [0x01, 0x02, portId, deviceType, mode, 0x01, 0x00, 0x00, 0x00, 0x00, 0x01]

def encodeUnsubscribe (portId deviceType mode : UInt8) : Bytes :=
  [0x01, 0x02, portId, deviceType, mode, 0x01, 0x00, 0x00, 0x00, 0x00, 0x00]

def encodeDisconnect : Bytes := [0x00]

/-- The first 14 characters of a name. -/
def truncated (name : String) : String := String.ofList (name.toList.take 14)

def encodeSetName (name : String) : Bytes := (truncated name).toByteArray.data.toList

/-- `ble_uuid::WEDO2_PORT_TYPE_WRITE`. -/
def portTypeWrite : Uuid := ⟨"00001563-1212-efde-1523-785feabcd123"⟩

/-- `ble_uuid::WEDO2_DISCONNECT`. -/
def disconnect : Uuid := ⟨"0000152b-1212-efde-1523-785feabcd123"⟩

/-- `ble_uuid::WEDO2_NAME_ID`. -/
def nameId : Uuid := ⟨"00001524-1212-efde-1523-785feabcd123"⟩

/-- `ble_uuid::WEDO2_MOTOR_WRITE`. -/
def motorWrite : Uuid := ⟨"00001565-1212-efde-1523-785feabcd123"⟩

end Wedo2

/-- What a WeDo 2.0 hub is asked to do. -/
inductive Wedo2Command where
  | subscribe (portId deviceType mode : UInt8)
  | unsubscribe (portId deviceType mode : UInt8)
  | disconnect
  | setName (name : String)
  | playTone (frequency timeMs : UInt16)
  deriving DecidableEq, Repr

namespace Wedo2Command

open Wedo2

/-- The characteristic that a command is for, and its encoding. -/
def write : Wedo2Command → Uuid × Bytes
  | .subscribe portId deviceType mode => (portTypeWrite, encodeSubscribe portId deviceType mode)
  | .unsubscribe portId deviceType mode =>
      (portTypeWrite, encodeUnsubscribe portId deviceType mode)
  | .disconnect => (Wedo2.disconnect, encodeDisconnect)
  | .setName name => (nameId, encodeSetName name)
  | .playTone frequency timeMs =>
      (motorWrite, (PiezoBuzzer.new 0).encodePlayTone frequency timeMs)

/-- The command that is carried out. -/
def effective : Wedo2Command → Wedo2Command
  | .setName name => .setName (truncated name)
  | command => command

/-- The text of UTF-8 bytes. -/
def decodeUtf8 (data : Bytes) : Option String :=
  (ByteArray.mk data.toArray).utf8Decode?.map fun chars => String.ofList chars.toList

/-- The command a write stands for. -/
def read : Uuid × Bytes → Option Wedo2Command
  | (characteristic, data) =>
    if characteristic = portTypeWrite then
      match data with
      | [0x01, 0x02, portId, deviceType, mode, 0x01, 0x00, 0x00, 0x00, 0x00, 0x01] =>
          some (.subscribe portId deviceType mode)
      | [0x01, 0x02, portId, deviceType, mode, 0x01, 0x00, 0x00, 0x00, 0x00, 0x00] =>
          some (.unsubscribe portId deviceType mode)
      | _ => none
    else if characteristic = Wedo2.disconnect then
      if data = [0x00] then some .disconnect else none
    else if characteristic = nameId then
      (decodeUtf8 data).map .setName
    else if characteristic = motorWrite then
      match data with
      | [0x05, 0x02, 0x04, frequencyLo, frequencyHi, timeLo, timeHi] =>
          some (.playTone (LittleEndian.u16 frequencyLo frequencyHi)
            (LittleEndian.u16 timeLo timeHi))
      | _ => none
    else
      none

theorem decodeUtf8_toByteArray (text : String) :
    decodeUtf8 text.toByteArray.data.toList = some text := by
  have bytes : ByteArray.mk text.toByteArray.data.toList.toArray = text.toByteArray := by
    rw [Array.toArray_toList]
  rw [decodeUtf8, bytes, ← String.utf8Encode_toList, List.utf8Decode?_utf8Encode, Option.map_some,
    List.toList_toArray, String.ofList_toList]

theorem read_write (command : Wedo2Command) : read command.write = some command.effective := by
  cases command with
  | subscribe portId deviceType mode => rfl
  | unsubscribe portId deviceType mode => rfl
  | disconnect => rfl
  | setName name =>
      change (decodeUtf8 (encodeSetName name)).map _ = _
      rw [encodeSetName, decodeUtf8_toByteArray]
      rfl
  | playTone frequency timeMs =>
      obtain ⟨frequencyLo, frequencyHi, frequencyBytes, frequencyReads⟩ :=
        LittleEndian.exists_ofU16 frequency
      obtain ⟨timeLo, timeHi, timeBytes, timeReads⟩ := LittleEndian.exists_ofU16 timeMs
      rw [write, PiezoBuzzer.encodePlayTone, frequencyBytes, timeBytes]
      change some (playTone (LittleEndian.u16 frequencyLo frequencyHi)
        (LittleEndian.u16 timeLo timeHi)) = _
      rw [frequencyReads, timeReads]
      rfl

/-- Commands are told apart by what is written, and nothing else distinguishes them than
what is carried out. -/
theorem write_eq_iff {command command' : Wedo2Command} :
    command.write = command'.write ↔ command.effective = command'.effective := by
  have carried (command : Wedo2Command) : command.effective.write = command.write := by
    cases command with
    | setName name =>
        have again : truncated (truncated name) = truncated name := by
          simp [truncated, List.take_take]
        change (nameId, (truncated (truncated name)).toByteArray.data.toList) = _
        rw [again]
        rfl
    | _ => rfl
  constructor
  · intro same
    have reads := congrArg read same
    rw [read_write, read_write] at reads
    exact Option.some.inj reads
  · intro same
    rw [← carried, ← carried command', same]

theorem encodeSetName_eq (name : String) :
    encodeSetName name = (name.toList.take 14).flatMap String.utf8EncodeChar := by
  rw [encodeSetName, truncated, String.toByteArray_ofList, List.utf8Encode, List.data_toByteArray]

/-- An ASCII character takes one byte. -/
theorem length_flatMap_ascii {chars : List Char} (ascii : ∀ char ∈ chars, char.toNat < 128) :
    (chars.flatMap String.utf8EncodeChar).length = chars.length := by
  induction chars with
  | nil => rfl
  | cons char chars ih =>
      obtain ⟨head, tail⟩ := List.forall_mem_cons.mp ascii
      have size : char.utf8Size = 1 := Char.utf8Size_eq_one_iff.mpr (Nat.le_of_lt_succ head)
      rw [List.flatMap_cons, List.length_append, String.length_utf8EncodeChar, size, ih tail,
        List.length_cons, Nat.add_comm]

theorem length_flatMap_le (chars : List Char) :
    (chars.flatMap String.utf8EncodeChar).length ≤ 4 * chars.length := by
  induction chars with
  | nil => exact Nat.le_refl 0
  | cons char chars ih =>
      have size := char.utf8Size_le_four
      simp only [List.flatMap_cons, List.length_append, String.length_utf8EncodeChar,
        List.length_cons]
      omega

/-- One reading recovers what is carried out from what is written, and commands that
are carried out differently are written differently.  A name is cut between characters:
what is written is a front of its UTF-8 bytes, the whole of them exactly for names of at
most 14 characters, and at most 56 bytes, or 14 when the characters are ASCII. -/
theorem write_unambiguous :
    (∀ command : Wedo2Command, read command.write = some command.effective) ∧
    (∀ command command' : Wedo2Command,
      command.write = command'.write ↔ command.effective = command'.effective) ∧
    ∀ name : String,
      encodeSetName name <+: name.toByteArray.data.toList ∧
      (encodeSetName name = name.toByteArray.data.toList ↔ name.length ≤ 14) ∧
      (encodeSetName name).length ≤ 56 ∧
      ((∀ char ∈ name.toList, char.toNat < 128) → (encodeSetName name).length ≤ 14) := by
  refine ⟨read_write, fun _ _ => write_eq_iff, fun name => ?_⟩
  have few := List.length_take_le 14 name.toList
  have whole : name.toByteArray.data.toList = name.toList.flatMap String.utf8EncodeChar := by
    rw [← String.utf8Encode_toList, List.utf8Encode, List.data_toByteArray]
  refine ⟨?_, ?_, ?_, fun ascii => ?_⟩
  · rw [encodeSetName_eq, whole]
    refine ⟨(name.toList.drop 14).flatMap String.utf8EncodeChar, ?_⟩
    rw [← List.flatMap_append, List.take_append_drop]
  · constructor
    · intro same
      have text := congrArg decodeUtf8 same
      rw [encodeSetName, decodeUtf8_toByteArray, decodeUtf8_toByteArray, Option.some.injEq] at text
      have chars := congrArg String.toList text
      rw [truncated, String.toList_ofList] at chars
      rw [← String.length_toList, ← chars]
      exact few
    · intro short
      rw [encodeSetName_eq, whole, List.take_of_length_le]
      rwa [String.length_toList]
  · rw [encodeSetName_eq]
    exact Nat.le_trans (length_flatMap_le _) (by omega)
  · rw [encodeSetName_eq, length_flatMap_ascii fun char member => ascii char
      (List.mem_of_mem_take member)]
    exact few

end Wedo2Command

end PoweredUp

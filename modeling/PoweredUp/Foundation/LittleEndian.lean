import Mathlib.Algebra.Group.Nat.Defs
import Mathlib.Data.List.Basic
import Mathlib.Tactic.Common

/-!
# Little-endian integers

Byte strings as numerals in base 256, least significant byte first, and the
fixed-width conversions built on them.
-/

namespace LittleEndian

/-- The number a byte string stands for. -/
def toNat : List UInt8 → Nat
  | [] => 0
  | byte :: bytes => byte.toNat + 256 * toNat bytes

/-- The lowest `width` bytes of a number. -/
def ofNat : (width : Nat) → Nat → List UInt8
  | 0, _ => []
  | width + 1, value => UInt8.ofNat value :: ofNat width (value / 256)

@[simp] theorem length_ofNat (width value : Nat) : (ofNat width value).length = width := by
  induction width generalizing value with
  | zero => rfl
  | succ width ih => simp [ofNat, ih]

theorem toNat_lt (bytes : List UInt8) : toNat bytes < 256 ^ bytes.length := by
  induction bytes with
  | nil => simp [toNat]
  | cons byte bytes ih =>
      have byteBound := byte.toNat_lt
      rw [toNat, List.length_cons, Nat.pow_succ]
      omega

theorem toNat_ofNat (width value : Nat) : toNat (ofNat width value) = value % 256 ^ width := by
  induction width generalizing value with
  | zero => simp [ofNat, toNat, Nat.mod_one]
  | succ width ih =>
      have lowByte : (UInt8.ofNat value).toNat = value % 256 := UInt8.toNat_ofNat'
      rw [ofNat, toNat, ih, lowByte, Nat.pow_succ, Nat.mul_comm (256 ^ width), Nat.mod_mul]

theorem ofNat_toNat (bytes : List UInt8) : ofNat bytes.length (toNat bytes) = bytes := by
  induction bytes with
  | nil => rfl
  | cons byte bytes ih =>
      have byteBound := byte.toNat_lt
      have high : (byte.toNat + 256 * toNat bytes) / 256 = toNat bytes := by omega
      have low : UInt8.ofNat (byte.toNat + 256 * toNat bytes) = byte := by
        apply UInt8.toNat_inj.mp
        rw [UInt8.toNat_ofNat']
        omega
      rw [List.length_cons, ofNat, toNat, high, low, ih]

/-! ## Fixed widths -/

/-- `u16::from_le_bytes`. -/
def u16 (byte0 byte1 : UInt8) : UInt16 := UInt16.ofNat (toNat [byte0, byte1])

/-- `u32::from_le_bytes`. -/
def u32 (byte0 byte1 byte2 byte3 : UInt8) : UInt32 :=
  UInt32.ofNat (toNat [byte0, byte1, byte2, byte3])

/-- `i16::from_le_bytes`. -/
def i16 (byte0 byte1 : UInt8) : Int16 := (u16 byte0 byte1).toInt16

/-- `i32::from_le_bytes`. -/
def i32 (byte0 byte1 byte2 byte3 : UInt8) : Int32 := (u32 byte0 byte1 byte2 byte3).toInt32

/-- `u32::to_le_bytes`. -/
def ofU32 (value : UInt32) : List UInt8 := ofNat 4 value.toNat

/-- `u16::to_le_bytes`. -/
def ofU16 (value : UInt16) : List UInt8 := ofNat 2 value.toNat

/-- `i32::to_le_bytes`. -/
def ofI32 (value : Int32) : List UInt8 := ofU32 value.toUInt32

/-- A `u16` is two bytes, and they read back as it. -/
theorem exists_ofU16 (value : UInt16) :
    ∃ byte0 byte1, ofU16 value = [byte0, byte1] ∧ u16 byte0 byte1 = value := by
  refine ⟨_, _, rfl, ?_⟩
  have reads := toNat_ofNat 2 value.toNat
  have bound := value.toNat_lt
  apply UInt16.toNat_inj.mp
  rw [u16, UInt16.toNat_ofNat']
  simp only [ofNat] at reads
  rw [reads]
  omega

/-- A `u32` is four bytes, and they read back as it. -/
theorem exists_ofU32 (value : UInt32) :
    ∃ byte0 byte1 byte2 byte3,
      ofU32 value = [byte0, byte1, byte2, byte3] ∧ u32 byte0 byte1 byte2 byte3 = value := by
  refine ⟨_, _, _, _, rfl, ?_⟩
  have reads := toNat_ofNat 4 value.toNat
  have bound := value.toNat_lt
  apply UInt32.toNat_inj.mp
  rw [u32, UInt32.toNat_ofNat']
  simp only [ofNat] at reads
  rw [reads]
  omega

/-- An `i32` is four bytes, and they read back as it. -/
theorem exists_ofI32 (value : Int32) :
    ∃ byte0 byte1 byte2 byte3,
      ofI32 value = [byte0, byte1, byte2, byte3] ∧ i32 byte0 byte1 byte2 byte3 = value := by
  obtain ⟨byte0, byte1, byte2, byte3, bytes, reads⟩ := exists_ofU32 value.toUInt32
  refine ⟨byte0, byte1, byte2, byte3, bytes, ?_⟩
  rw [i32, reads]
  exact Int32.toInt32_toUInt32 value

/-- Four bytes are the encoding of the `u32` they stand for. -/
theorem ofU32_u32 (byte0 byte1 byte2 byte3 : UInt8) :
    ofU32 (u32 byte0 byte1 byte2 byte3) = [byte0, byte1, byte2, byte3] := by
  have bound := toNat_lt [byte0, byte1, byte2, byte3]
  simp only [List.length_cons, List.length_nil] at bound
  rw [ofU32, u32, UInt32.toNat_ofNat', Nat.mod_eq_of_lt (by omega)]
  exact ofNat_toNat [byte0, byte1, byte2, byte3]

/-- Four bytes are the encoding of the `i32` they stand for. -/
theorem ofI32_i32 (byte0 byte1 byte2 byte3 : UInt8) :
    ofI32 (i32 byte0 byte1 byte2 byte3) = [byte0, byte1, byte2, byte3] := by
  rw [ofI32, i32, UInt32.toUInt32_toInt32, ofU32_u32]

end LittleEndian

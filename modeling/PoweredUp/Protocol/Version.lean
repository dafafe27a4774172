import Mathlib.Data.Nat.Digits.Defs
import PoweredUp.Foundation.Checked
import PoweredUp.Foundation.Numerals
import PoweredUp.Protocol.Consts

/-!
# Version numbers

`Version::from_le_i32` prints the raw number as eight hexadecimal digits, cuts
the text at fixed positions and parses the pieces again.  The text is ASCII, so
a string is modelled as its list of characters and byte offsets are positions in
that list.
-/

namespace PoweredUp

open Rust Numerals

/-- The `{:0width$x}` rendering of an unsigned number. -/
def lowerHexPadded (width value : Nat) : List Char :=
  (Nat.toDigits 16 value).leftpad width '0'

/-- `char::to_digit`. -/
def toDigit (radix : Nat) (digit : Char) : Option Nat :=
  let value :=
    if '0' ≤ digit ∧ digit ≤ '9' then some (digit.toNat - '0'.toNat)
    else if 'a' ≤ digit ∧ digit ≤ 'z' then some (digit.toNat - 'a'.toNat + 10)
    else if 'A' ≤ digit ∧ digit ≤ 'Z' then some (digit.toNat - 'A'.toNat + 10)
    else none
  value.filter (· < radix)

/-- The digit loop of `from_str_radix` for an unsigned type with maximum
`max`. -/
def parseDigits (radix max : Nat) (digits : List Char) : Option Nat :=
  digits.foldlM (fun value digit => do
    let next := value * radix + (← toDigit radix digit)
    if next ≤ max then some next else none) 0

/-- `from_str_radix` of an unsigned type with maximum `max`; a leading `+` is
accepted, an empty string is not. -/
def fromStrRadix (text : List Char) (radix max : Nat) : Option Nat :=
  match text with
  | [] => none
  | ['+'] => none
  | '+' :: digits => parseDigits radix max digits
  | digits => parseDigits radix max digits

/-- Decoded version. -/
structure Version where
  major : UInt8
  minor : UInt8
  patch : UInt8
  build : UInt16
  deriving DecidableEq, Repr

/-- `u8::from_str_radix(text, 16).unwrap_or(0)`. -/
def u8FromHex (text : List Char) : UInt8 :=
  UInt8.ofNat ((fromStrRadix text 16 (2 ^ 8 - 1)).getD 0)

/-- `u16::from_str_radix(text, 16).unwrap_or(0)`. -/
def u16FromHex (text : List Char) : UInt16 :=
  UInt16.ofNat ((fromStrRadix text 16 (2 ^ 16 - 1)).getD 0)

/-- `Version::from_le_i32`. -/
def Version.fromLeI32 (raw : Int32) : Checked Version := do
  let hex := lowerHexPadded 8 raw.toUInt32.toNat
  let major := u8FromHex (← slice hex 0 1)
  let minor := u8FromHex (← slice hex 1 2)
  let patch := u8FromHex (← slice hex 2 4)
  let build := u16FromHex (← slice hex 4 8)
  return { major, minor, patch, build }

/-- The `{:0width$}` rendering of an unsigned number. -/
def decimalPadded (width value : Nat) : List Char :=
  (Nat.toDigits 10 value).leftpad width '0'

/-- `Display` for `Version`: the fields as `{}.{}.{:02}.{:04}`. -/
def Version.toString (self : Version) : String :=
  String.ofList (Nat.toDigits 10 self.major.toNat ++ '.' ::
    (Nat.toDigits 10 self.minor.toNat ++ '.' ::
      (decimalPadded 2 self.patch.toNat ++ '.' :: decimalPadded 4 self.build.toNat)))

/-- The reference `decodeVersion`: the padded text, split as `[0],[1],[2..4],[4..]`. -/
def decodeVersion (raw : Int32) : String :=
  let hex := lowerHexPadded 8 raw.toUInt32.toNat
  String.ofList (hex.take 1 ++ '.' ::
    ((hex.take 2).drop 1 ++ '.' :: ((hex.take 4).drop 2 ++ '.' :: hex.drop 4)))

/-- A `u32` has at most eight hexadecimal digits, so padding gives exactly
eight. -/
theorem length_lowerHexPadded (value : UInt32) :
    (lowerHexPadded 8 value.toNat).length = 8 := by
  have digits : (Nat.toDigits 16 value.toNat).length ≤ 8 :=
    Nat.toDigits_length 16 value.toNat 8 (by omega) value.toNat_lt
  rw [lowerHexPadded, List.length_leftpad]
  omega

/-- All four slices are within the text. -/
theorem Version.fromLeI32_returns (raw : Int32) : (Version.fromLeI32 raw).Returns := by
  have length := length_lowerHexPadded raw.toUInt32
  simp (disch := omega) only [Version.fromLeI32, slice_eq_ret, Checked.ret_bind]
  exact Checked.returns_ret _

/-! ## The fields of a version -/

theorem toDigit_digitChar (digit : Fin 16) : toDigit 16 (Nat.digitChar digit) = some digit.val := by
  revert digit
  decide

/-- The digit loop computes the number that the digits stand for. -/
theorem foldlM_toDigit {max width : Nat} (start value : Nat)
    (fits : start * 16 ^ width + value % 16 ^ width ≤ max) :
    (fixedDigits 16 width value).foldlM (fun value digit => do
        let next := value * 16 + (← toDigit 16 digit)
        if next ≤ max then some next else none) start =
      some (start * 16 ^ width + value % 16 ^ width) := by
  induction width generalizing value with
  | zero => simp [fixedDigits, Nat.mod_one]
  | succ width ih =>
      have digits : value % 16 ^ (width + 1) = value % 16 + 16 * (value / 16 % 16 ^ width) := by
        rw [Nat.pow_succ, Nat.mul_comm, Nat.mod_mul]
      have shifted : start * 16 ^ (width + 1) = start * 16 ^ width * 16 := by
        rw [Nat.pow_succ, Nat.mul_assoc]
      rw [digits, shifted] at fits ⊢
      have bound := Nat.mod_lt value (show 0 < 16 by decide)
      have last : toDigit 16 (Nat.digitChar (value % 16)) = some (value % 16) :=
        toDigit_digitChar ⟨value % 16, bound⟩
      rw [fixedDigits, List.foldlM_append, ih (value / 16) (by omega)]
      simp only [List.foldlM_cons, List.foldlM_nil, Option.bind_eq_bind, Option.bind_some, last]
      rw [if_pos (by omega)]
      simp only [Option.bind_some, Option.pure_def]
      congr 1
      omega

/-- Hexadecimal text is read back as the number it stands for. -/
theorem fromStrRadix_fixedDigits {max width : Nat} (value : Nat)
    (fits : 16 ^ (width + 1) ≤ max + 1) :
    fromStrRadix (fixedDigits 16 (width + 1) value) 16 max = some (value % 16 ^ (width + 1)) := by
  have positive : 0 < 16 ^ (width + 1) := Nat.pow_pos (by decide)
  have bound := Nat.mod_lt value positive
  have noSign : '+' ∉ fixedDigits 16 (width + 1) value :=
    notMem_fixedDigits (by decide) (by decide) (Nat.le_refl 16) _ _
  have read := foldlM_toDigit 0 value (show 0 * 16 ^ (width + 1) + value % 16 ^ (width + 1) ≤ max by
    omega)
  rw [Nat.zero_mul, Nat.zero_add] at read
  have length := length_fixedDigits 16 (width + 1) value
  generalize fixedDigits 16 (width + 1) value = text at noSign read length
  unfold fromStrRadix
  split
  · cases length
  · exact absurd List.mem_cons_self noSign
  · exact absurd List.mem_cons_self noSign
  · exact read

theorem u8FromHex_fixedDigits {width : Nat} (value : Nat) (fits : width ≤ 1) :
    u8FromHex (fixedDigits 16 (width + 1) value) = UInt8.ofNat (value % 16 ^ (width + 1)) := by
  have upper : 16 ^ (width + 1) ≤ 2 ^ 8 - 1 + 1 :=
    Nat.pow_le_pow_right (by decide) (Nat.succ_le_succ fits)
  rw [u8FromHex, fromStrRadix_fixedDigits value upper]
  rfl

theorem u16FromHex_fixedDigits (value : Nat) :
    u16FromHex (fixedDigits 16 4 value) = UInt16.ofNat (value % 16 ^ 4) := by
  rw [u16FromHex, fromStrRadix_fixedDigits value (by decide)]
  rfl

/-- The groups of the padded text. -/
theorem lowerHexPadded_groups (value : UInt32) :
    (lowerHexPadded 8 value.toNat).take 1 = fixedDigits 16 1 (value.toNat / 16 ^ 7) ∧
      ((lowerHexPadded 8 value.toNat).take 2).drop 1 = fixedDigits 16 1 (value.toNat / 16 ^ 6) ∧
      ((lowerHexPadded 8 value.toNat).take 4).drop 2 = fixedDigits 16 2 (value.toNat / 16 ^ 4) ∧
      (lowerHexPadded 8 value.toNat).drop 4 = fixedDigits 16 4 value.toNat := by
  have text : lowerHexPadded 8 value.toNat = fixedDigits 16 (1 + 1 + 2 + 4) value.toNat :=
    leftpad_toDigits (by decide) (by decide) value.toNat_lt
  have major := length_fixedDigits 16 1 (value.toNat / 16 ^ 7)
  have minor := length_fixedDigits 16 1 (value.toNat / 16 ^ 6)
  have patch := length_fixedDigits 16 2 (value.toNat / 16 ^ 4)
  rw [text]
  simp only [fixedDigits_add, Nat.div_div_eq_div_mul, ← Nat.pow_add]
  generalize fixedDigits 16 1 (value.toNat / 16 ^ 7) = first at major ⊢
  generalize fixedDigits 16 1 (value.toNat / 16 ^ 6) = second at minor ⊢
  generalize fixedDigits 16 2 (value.toNat / 16 ^ 4) = third at patch ⊢
  obtain ⟨digit0, rfl⟩ := List.length_eq_one_iff.mp major
  obtain ⟨digit1, rfl⟩ := List.length_eq_one_iff.mp minor
  obtain ⟨digit2, digit3, rfl⟩ := List.length_eq_two.mp patch
  exact ⟨rfl, rfl, rfl, rfl⟩

/-- The fields are the digit groups of the number. -/
theorem Version.fromLeI32_eq (raw : Int32) :
    Version.fromLeI32 raw = .ret
      { major := UInt8.ofNat (raw.toUInt32.toNat / 2 ^ 28)
        minor := UInt8.ofNat (raw.toUInt32.toNat / 2 ^ 24 % 16)
        patch := UInt8.ofNat (raw.toUInt32.toNat / 2 ^ 16 % 256)
        build := UInt16.ofNat (raw.toUInt32.toNat % 2 ^ 16) } := by
  obtain ⟨first, second, third, fourth⟩ := lowerHexPadded_groups raw.toUInt32
  have length := length_lowerHexPadded raw.toUInt32
  have bound := raw.toUInt32.toNat_lt
  simp (disch := omega) only [Version.fromLeI32, slice_eq_ret, Checked.ret_bind]
  rw [List.drop_zero, first, second, third, List.take_of_length_le (by omega), fourth,
    u8FromHex_fixedDigits _ (by decide), u8FromHex_fixedDigits _ (by decide),
    u8FromHex_fixedDigits _ (by decide), u16FromHex_fixedDigits]
  have major : raw.toUInt32.toNat / 16 ^ 7 % 16 ^ (0 + 1) = raw.toUInt32.toNat / 2 ^ 28 :=
    Nat.mod_eq_of_lt (by omega)
  rw [major]
  rfl

/-- Every piece of the padded text is a number, so none falls back to 0. -/
def Version.NoFallback (raw : Int32) : Prop :=
  ∃ major minor patch build,
    slice (lowerHexPadded 8 raw.toUInt32.toNat) 0 1 = .ret major ∧
    slice (lowerHexPadded 8 raw.toUInt32.toNat) 1 2 = .ret minor ∧
    slice (lowerHexPadded 8 raw.toUInt32.toNat) 2 4 = .ret patch ∧
    slice (lowerHexPadded 8 raw.toUInt32.toNat) 4 8 = .ret build ∧
    (fromStrRadix major 16 (2 ^ 8 - 1)).isSome ∧ (fromStrRadix minor 16 (2 ^ 8 - 1)).isSome ∧
    (fromStrRadix patch 16 (2 ^ 8 - 1)).isSome ∧ (fromStrRadix build 16 (2 ^ 16 - 1)).isSome

theorem Version.noFallback (raw : Int32) : NoFallback raw := by
  obtain ⟨first, second, third, fourth⟩ := lowerHexPadded_groups raw.toUInt32
  have length := length_lowerHexPadded raw.toUInt32
  refine ⟨_, _, _, _, slice_eq_ret (by omega) (by omega), slice_eq_ret (by omega) (by omega),
    slice_eq_ret (by omega) (by omega), slice_eq_ret (by omega) (by omega), ?_, ?_, ?_, ?_⟩
  · rw [List.drop_zero, first, fromStrRadix_fixedDigits _ (by decide)]
    rfl
  · rw [second, fromStrRadix_fixedDigits _ (by decide)]
    rfl
  · rw [third, fromStrRadix_fixedDigits _ (by decide)]
    rfl
  · rw [List.take_of_length_le (by omega), fourth, fromStrRadix_fixedDigits _ (by decide)]
    rfl

/-- The fields weighted as in the raw number. -/
def Version.toNat (self : Version) : Nat :=
  self.major.toNat * 2 ^ 28 + self.minor.toNat * 2 ^ 24 + self.patch.toNat * 2 ^ 16 +
    self.build.toNat

/-- Versions whose major and minor fields are single hexadecimal digits. -/
abbrev HexVersion := { version : Version // version.major < 16 ∧ version.minor < 16 }

namespace HexVersion

/-- The version that a raw number is decoded to. -/
def ofRaw (raw : Int32) : HexVersion where
  val := {
    major := UInt8.ofNat (raw.toUInt32.toNat / 2 ^ 28)
    minor := UInt8.ofNat (raw.toUInt32.toNat / 2 ^ 24 % 16)
    patch := UInt8.ofNat (raw.toUInt32.toNat / 2 ^ 16 % 256)
    build := UInt16.ofNat (raw.toUInt32.toNat % 2 ^ 16) }
  property := by
    have bound := raw.toUInt32.toNat_lt
    constructor
    all_goals
      rw [UInt8.lt_iff_toNat_lt, UInt8.toNat_ofNat']
      change _ < 16
      omega

theorem toNat_ofRaw (raw : Int32) : (ofRaw raw).val.toNat = raw.toUInt32.toNat := by
  have bound := raw.toUInt32.toNat_lt
  simp only [Version.toNat, ofRaw, UInt8.toNat_ofNat', UInt16.toNat_ofNat']
  omega

theorem toNat_lt (version : HexVersion) : version.val.toNat < 2 ^ 32 := by
  obtain ⟨⟨major, minor, patch, build⟩, majorDigit, minorDigit⟩ := version
  have patchBound := patch.toNat_lt
  have buildBound := build.toNat_lt
  change major.toNat < 16 at majorDigit
  change minor.toNat < 16 at minorDigit
  simp only [Version.toNat]
  omega

/-- The weighted fields determine the version. -/
theorem toNat_injective {left right : HexVersion} (same : left.val.toNat = right.val.toNat) :
    left = right := by
  obtain ⟨⟨major, minor, patch, build⟩, _, minorDigit⟩ := left
  obtain ⟨⟨major', minor', patch', build'⟩, _, minorDigit'⟩ := right
  change minor.toNat < 16 at minorDigit
  change minor'.toNat < 16 at minorDigit'
  have patchBound := patch.toNat_lt
  have patchBound' := patch'.toNat_lt
  have buildBound := build.toNat_lt
  have buildBound' := build'.toNat_lt
  simp only [Version.toNat] at same
  obtain rfl : major = major' := UInt8.toNat_inj.mp (by omega)
  obtain rfl : minor = minor' := UInt8.toNat_inj.mp (by omega)
  obtain rfl : patch = patch' := UInt8.toNat_inj.mp (by omega)
  obtain rfl : build = build' := UInt16.toNat_inj.mp (by omega)
  rfl

theorem ofRaw_injective : Function.Injective ofRaw := by
  intro raw raw' same
  have unsigned : raw.toUInt32.toNat = raw'.toUInt32.toNat := by
    rw [← toNat_ofRaw, same, toNat_ofRaw]
  rw [← Int32.toInt32_toUInt32 raw, UInt32.toNat_inj.mp unsigned, Int32.toInt32_toUInt32]

theorem ofRaw_surjective : Function.Surjective ofRaw := by
  intro version
  refine ⟨(UInt32.ofNat version.val.toNat).toInt32, toNat_injective ?_⟩
  rw [toNat_ofRaw, UInt32.toUInt32_toInt32, UInt32.toNat_ofNat_of_lt' version.toNat_lt]

end HexVersion

/-- Decoding takes no fallback and is a bijection onto the versions with
single-digit major and minor fields. -/
theorem Version.fromLeI32_bijective :
    (∀ raw, NoFallback raw) ∧
    (∃ decode : Int32 → HexVersion,
      (∀ raw, fromLeI32 raw = .ret (decode raw).val ∧
        (decode raw).val.toNat = raw.toUInt32.toNat) ∧
      Function.Bijective decode) ∧
    ∀ raw raw', fromLeI32 raw = fromLeI32 raw' → raw = raw' := by
  have decoded (raw : Int32) : fromLeI32 raw = .ret (HexVersion.ofRaw raw).val := fromLeI32_eq raw
  refine ⟨noFallback, ⟨HexVersion.ofRaw, ?_, HexVersion.ofRaw_injective,
    HexVersion.ofRaw_surjective⟩, ?_⟩
  · intro raw
    exact ⟨decoded raw, HexVersion.toNat_ofRaw raw⟩
  · intro raw raw' same
    rw [decoded, decoded] at same
    exact HexVersion.ofRaw_injective (Subtype.ext (Checked.ret.inj same))

example : Version.fromLeI32 0x10000000 = .ret ⟨1, 0, 0, 0⟩ := by decide

/-! ## The text of a version -/

/-- A padded decimal field is the hexadecimal digit group exactly when it is a
single decimal digit. -/
theorem decimalPadded_eq_iff (width value : Nat) :
    decimalPadded (width + 1) (value % 16 ^ (width + 1)) = fixedDigits 16 (width + 1) value ↔
      value % 16 ^ (width + 1) < 10 := by
  rw [← fixedDigits_mod 16 (width + 1) value]
  exact leftpad_toDigits_eq_iff (by decide) (by decide) (Nat.le_refl 16)

/-- The text of a version is the one of the reference exactly when every field is
at most 9. -/
theorem Version.toString_eq_iff (raw : Int32) :
    (∃ version, Version.fromLeI32 raw = .ret version ∧ version.toString = decodeVersion raw) ↔
      raw.toUInt32.toNat / 2 ^ 28 ≤ 9 ∧ raw.toUInt32.toNat / 2 ^ 24 % 16 ≤ 9 ∧
        raw.toUInt32.toNat / 2 ^ 16 % 256 ≤ 9 ∧ raw.toUInt32.toNat % 2 ^ 16 ≤ 9 := by
  obtain ⟨first, second, third, fourth⟩ := lowerHexPadded_groups raw.toUInt32
  have bound := raw.toUInt32.toNat_lt
  have notDigit : ∀ digit : Fin 16, Nat.digitChar digit ≠ '.' := by decide
  have hexGroup (width value : Nat) : '.' ∉ fixedDigits 16 width value :=
    notMem_fixedDigits notDigit (by decide) (Nat.le_refl 16) width value
  have decimalGroup (width value : Nat) : '.' ∉ decimalPadded width value :=
    notMem_leftpad_toDigits rfl width value
  have single (value : Nat) : Nat.toDigits 10 value = decimalPadded 1 value :=
    (leftpad_one_toDigits 10 value).symm
  have major : (UInt8.ofNat (raw.toUInt32.toNat / 2 ^ 28)).toNat =
      raw.toUInt32.toNat / 16 ^ 7 % 16 ^ (0 + 1) := by
    rw [UInt8.toNat_ofNat']
    omega
  have minor : (UInt8.ofNat (raw.toUInt32.toNat / 2 ^ 24 % 16)).toNat =
      raw.toUInt32.toNat / 16 ^ 6 % 16 ^ (0 + 1) := by
    rw [UInt8.toNat_ofNat']
    omega
  have patch : (UInt8.ofNat (raw.toUInt32.toNat / 2 ^ 16 % 256)).toNat =
      raw.toUInt32.toNat / 16 ^ 4 % 16 ^ (1 + 1) := by
    rw [UInt8.toNat_ofNat']
    omega
  have build : (UInt16.ofNat (raw.toUInt32.toNat % 2 ^ 16)).toNat =
      raw.toUInt32.toNat % 16 ^ (3 + 1) := by
    rw [UInt16.toNat_ofNat']
    omega
  simp only [Version.fromLeI32_eq, Checked.ret.injEq, exists_eq_left', Version.toString,
    decodeVersion, String.ofList_inj, first, second, third, fourth, single, major, minor, patch,
    build]
  rw [append_separator_inj (decimalGroup _ _) (hexGroup _ _),
    append_separator_inj (decimalGroup _ _) (hexGroup _ _),
    append_separator_inj (decimalGroup _ _) (hexGroup _ _),
    decimalPadded_eq_iff, decimalPadded_eq_iff, decimalPadded_eq_iff, decimalPadded_eq_iff]
  omega

/-- A minor version of ten is printed in decimal. -/
theorem Version.toString_decimal :
    ∃ version, Version.fromLeI32 0x1A000000 = .ret version ∧
      version.toString = "1.10.00.0000" ∧ decodeVersion 0x1A000000 = "1.a.00.0000" ∧
      version.toString ≠ decodeVersion 0x1A000000 :=
  ⟨⟨1, 10, 0, 0⟩, by decide, by decide, by decide, by decide⟩

end PoweredUp

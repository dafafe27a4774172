import PoweredUp.Device.Basic
import PoweredUp.Foundation.LittleEndian

/-!
# Lights and audio

Actuators only: port values are consumed without an event.  A pixel of the light
matrix packs a colour index and a brightness into one byte, which leaves four bits
for the index.
-/

namespace PoweredUp

open Rust

/-- The status LED on the hub. -/
structure HubLed where
  portId : UInt8
  deriving DecidableEq, Repr

def HubLed.new (portId : UInt8) : HubLed := { portId }

def HubLed.encodeSetColor (_self : HubLed) (color : Color) : Bytes :=
  [0x51, 0x00, color.asU8]

def HubLed.encodeSetRgb (_self : HubLed) (red green blue : UInt8) : Bytes :=
  [0x51, 0x01, red, green, blue]

/-- External light or LED strip. -/
structure Light where
  portId : UInt8
  deriving DecidableEq, Repr

def Light.new (portId : UInt8) : Light := { portId }

def Light.encodeSetBrightness (_self : Light) (brightness : UInt8) : Bytes :=
  [0x51, 0x00, min brightness 100]

/-- WeDo 2.0 piezo buzzer. -/
structure PiezoBuzzer where
  portId : UInt8
  deriving DecidableEq, Repr

def PiezoBuzzer.new (portId : UInt8) : PiezoBuzzer := { portId }

/-- A tone, for the motor characteristic of the WeDo 2.0 hub. -/
def PiezoBuzzer.encodePlayTone (_self : PiezoBuzzer) (frequency timeMs : UInt16) : Bytes :=
  [0x05, 0x02, 0x04] ++ LittleEndian.ofU16 frequency ++ LittleEndian.ofU16 timeMs

/-- 3×3 colour light matrix. -/
structure ColorLightMatrix where
  portId : UInt8
  deriving DecidableEq, Repr

def ColorLightMatrix.new (portId : UInt8) : ColorLightMatrix := { portId }

instance : Device HubLed where
  deviceTypeId _ := 23
  portId self := self.portId
  receive self _ := return (.ok none, self)

instance : Device Light where
  deviceTypeId _ := 8
  portId self := self.portId
  receive self _ := return (.ok none, self)

instance : Device PiezoBuzzer where
  deviceTypeId _ := 22
  portId self := self.portId
  receive self _ := return (.ok none, self)

instance : Device ColorLightMatrix where
  deviceTypeId _ := 64
  portId self := self.portId
  receive self _ := return (.ok none, self)

instance : LawfulDevice HubLed where
  deviceTypeId_setMode _ _ := rfl
  portId_setMode _ _ := rfl
  setMode_setMode _ _ _ := rfl
  receive_eq _ _ := ⟨none, rfl, by simp⟩

instance : LawfulDevice Light where
  deviceTypeId_setMode _ _ := rfl
  portId_setMode _ _ := rfl
  setMode_setMode _ _ _ := rfl
  receive_eq _ _ := ⟨none, rfl, by simp⟩

instance : LawfulDevice PiezoBuzzer where
  deviceTypeId_setMode _ _ := rfl
  portId_setMode _ _ := rfl
  setMode_setMode _ _ _ := rfl
  receive_eq _ _ := ⟨none, rfl, by simp⟩

instance : LawfulDevice ColorLightMatrix where
  deviceTypeId_setMode _ _ := rfl
  portId_setMode _ _ := rfl
  setMode_setMode _ _ _ := rfl
  receive_eq _ _ := ⟨none, rfl, by simp⟩

/-! ## Pixels -/

/-- A pixel at the maximum brightness, `(color as u8) | (10 << 4)`. -/
def pixel (color : Color) : UInt8 := color.asU8 ||| (10 : UInt8) <<< 4

/-- `encode_set_color` of the light matrix. -/
def ColorLightMatrix.encodeSetColor (_self : ColorLightMatrix) (color : Color) : Bytes :=
  [0x51, 0x02] ++ List.replicate 9 (pixel color)

/-- `encode_set_matrix`.  Excess colours are dropped. -/
def ColorLightMatrix.encodeSetMatrix (_self : ColorLightMatrix) (colors : List Color) : Bytes :=
  [0x51, 0x02] ++ (colors.take 9).map pixel

/-- Two numbers packed by `|` into the halves of a byte are read back exactly when
the lower one fits. -/
theorem unpack_iff {low high : UInt8} (fits : high < 16) :
    (low ||| high <<< 4) &&& 0x0F = low ∧ (low ||| high <<< 4) >>> 4 = high ↔ low < 16 := by
  have shifted : (high <<< 4).toNat = 2 ^ 4 * high.toNat := by
    have bound : high.toNat < 16 := fits
    rw [UInt8.toNat_shiftLeft, Nat.shiftLeft_eq]
    change high.toNat * 2 ^ 4 % 256 = _
    omega
  have mask : ((low ||| high <<< 4) &&& 0x0F).toNat = low.toNat % 2 ^ 4 := by
    rw [UInt8.toNat_and, UInt8.toNat_or, shifted]
    change _ &&& 2 ^ 4 - 1 = _
    rw [Nat.and_two_pow_sub_one_eq_mod, Nat.or_mod_two_pow, Nat.mul_mod_right, Nat.or_zero]
  constructor
  · rintro ⟨lower, _⟩
    rw [lower] at mask
    change low.toNat < 16
    omega
  · intro lower
    have bound : low.toNat < 2 ^ 4 := lower
    refine ⟨UInt8.toNat_inj.mp (by omega), UInt8.toNat_inj.mp ?_⟩
    rw [UInt8.toNat_shiftRight, UInt8.toNat_or, shifted, Nat.or_comm,
      ← Nat.two_pow_add_eq_or_of_lt bound, Nat.shiftRight_eq_div_pow]
    change _ / 2 ^ 4 = _
    omega

/-- A byte shows a colour at the maximum brightness, and the colour is recovered from
it. -/
def Shows (byte : UInt8) (color : Color) : Prop :=
  byte &&& 0x0F = color.asU8 ∧ byte >>> 4 = 10 ∧ WireEnum.tryFrom (byte &&& 0x0F) = .ok color

theorem Color.asU8_lt_sixteen {color : Color} : color.asU8 < 16 ↔ color ≠ .none := by
  cases color <;> decide

/-- Every colour fits except the one that stands for no colour. -/
theorem shows_pixel {color : Color} : Shows (pixel color) color ↔ color ≠ .none := by
  rw [← Color.asU8_lt_sixteen, ← unpack_iff (show (10 : UInt8) < 16 by decide)]
  constructor
  · rintro ⟨lower, upper, _⟩
    exact ⟨lower, upper⟩
  · rintro ⟨lower, upper⟩
    exact ⟨lower, upper, WireEnum.tryFrom_eq_ok.mpr lower.symm⟩

namespace ColorLightMatrix

/-- A message sets nine pixels that show the first nine colours. -/
def ShowsMatrix (message : Bytes) (colors : List Color) : Prop :=
  ∃ pixels, message = [0x51, 0x02] ++ pixels ∧ pixels.length = 9 ∧
    ∀ i < 9, ∃ byte color, pixels[i]? = some byte ∧ colors[i]? = some color ∧ Shows byte color

theorem showsMatrix_iff (self : ColorLightMatrix) {colors : List Color}
    (nine : 9 ≤ colors.length) :
    ShowsMatrix (self.encodeSetMatrix colors) colors ↔ Color.none ∉ colors.take 9 := by
  have nth {i : Nat} (bound : i < 9) : ((colors.take 9).map pixel)[i]? = colors[i]?.map pixel := by
    rw [List.getElem?_map, List.getElem?_take_of_lt bound]
  constructor
  · rintro ⟨pixels, message, _, shows⟩ membership
    obtain rfl := List.append_cancel_left message
    obtain ⟨i, bound, found⟩ := List.mem_take_iff_getElem.mp membership
    obtain ⟨byte, color, isByte, isColor, shown⟩ := shows i (by omega)
    obtain rfl : Color.none = color := by
      rw [List.getElem?_eq_getElem (by omega), found] at isColor
      exact Option.some.inj isColor
    rw [nth (by omega), isColor] at isByte
    cases isByte
    exact shows_pixel.mp shown rfl
  · intro absent
    refine ⟨(colors.take 9).map pixel, rfl, by simp [nine], ?_⟩
    intro i bound
    have isColor : colors[i]? = some colors[i] := List.getElem?_eq_getElem _
    refine ⟨pixel colors[i], colors[i], by rw [nth bound, isColor]; rfl, isColor, ?_⟩
    rw [shows_pixel]
    intro isNone
    exact absent (List.mem_take_iff_getElem.mpr ⟨i, by omega, isNone⟩)

/-- Nine pixels are always sent, they show the colours exactly when none of the first
nine is missing, and a uniform colour is the matrix of nine copies. -/
theorem encodeSetMatrix_shows_iff (self : ColorLightMatrix) {colors : List Color}
    (nine : 9 ≤ colors.length) :
    (ShowsMatrix (self.encodeSetMatrix colors) colors ↔ Color.none ∉ colors.take 9) ∧
    (∃ pixels, self.encodeSetMatrix colors = [0x51, 0x02] ++ pixels ∧ pixels.length = 9) ∧
    ∀ color, self.encodeSetColor color = self.encodeSetMatrix (List.replicate 9 color) := by
  refine ⟨self.showsMatrix_iff nine, ⟨_, rfl, by simp [nine]⟩, ?_⟩
  intro color
  rfl

theorem encodeSetMatrix_shows_iff_red :
    ShowsMatrix ((ColorLightMatrix.new 0).encodeSetMatrix (List.replicate 9 .red))
      (List.replicate 9 .red) :=
  ((ColorLightMatrix.new 0).encodeSetMatrix_shows_iff (by decide)).1.mpr (by decide)

/-- A pixel without a colour is sent at brightness 15. -/
theorem encodeSetMatrix_none :
    (ColorLightMatrix.new 0).encodeSetMatrix (List.replicate 9 .none) =
      [0x51, 0x02] ++ List.replicate 9 0xFF ∧
    ¬ShowsMatrix ((ColorLightMatrix.new 0).encodeSetMatrix (List.replicate 9 .none))
      (List.replicate 9 .none) :=
  ⟨by decide, fun shows =>
    ((ColorLightMatrix.new 0).showsMatrix_iff (by decide)).mp shows (by decide)⟩

end ColorLightMatrix

end PoweredUp

import Mathlib.Algebra.Order.Floor.Semifield
import Mathlib.Data.Nat.Cast.Order.Field
import Mathlib.Data.Rat.Floor
import PoweredUp.Device.Sensor
import PoweredUp.Foundation.Rounding

/-!
# Single-precision scaling

The three scalings in `f32`.  Every intermediate result is rounded to 24 significant
bits, ties to even.  All of them are zero or well inside the normal numbers, so
neither overflow nor subnormal numbers come up.
-/

namespace PoweredUp

open Rust Rounding

/-- The result of an operation on `f32`. -/
def f32 (exact : ℚ) : ℚ := roundTo 24 exact

/-- `raw * factor / divisor`. -/
def f32Quotient (raw factor divisor : ℕ) : ℚ := f32 (f32 (raw * factor) / divisor)

/-- `dist_raw`, or `dist_raw + 1.0 / partial`. -/
def f32Distance (raw : ℕ) : Option ℕ → ℚ
  | none => raw
  | some part => f32 (raw + f32 (1 / part))

/-- Scaling in single precision. -/
@[reducible] def FloatScale.single : FloatScale where
  voltage raw := ⌊f32Quotient raw.toNat 9615 3893⌋₊
  current raw := ⌊f32Quotient raw.toNat 2444 4095⌋₊
  distance raw part := ⌊f32 (f32Distance raw.toNat (part.map UInt8.toNat) * f32 (254 / 10))⌋₊

/-! ## Operations -/

theorem f32_nonneg {x : ℚ} (nonneg : 0 ≤ x) : 0 ≤ f32 x :=
  roundTo_nonneg (by decide) nonneg

theorem f32_mono {x y : ℚ} (nonneg : 0 ≤ x) (le : x ≤ y) : f32 x ≤ f32 y :=
  roundTo_mono (by decide) nonneg le

theorem f32_natCast {n : ℕ} (small : n < 2 ^ 24) : f32 n = n :=
  roundTo_of_representable (representable_natCast small)

/-- The error of an operation, with a margin that adds up. -/
theorem f32_close {x : ℚ} (nonneg : 0 ≤ x) : |x - f32 x| ≤ x / 2 ^ 24 :=
  abs_sub_roundTo_le nonneg

/-! ## Quotients -/

/-- No reading is scaled to a negative number, so the cast keeps its integral part. -/
theorem f32Quotient_nonneg (raw factor divisor : ℕ) : 0 ≤ f32Quotient raw factor divisor :=
  f32_nonneg (div_nonneg (f32_nonneg (by positivity)) (by positivity))

theorem f32Quotient_mono {raw raw' : ℕ} (le : raw ≤ raw') (factor divisor : ℕ) :
    f32Quotient raw factor divisor ≤ f32Quotient raw' factor divisor := by
  have product : (raw * factor : ℚ) ≤ raw' * factor := by gcongr
  have rounded := f32_mono (by positivity) product
  refine f32_mono (div_nonneg (f32_nonneg (by positivity)) (by positivity)) ?_
  exact div_le_div_of_nonneg_right rounded (by positivity)

/-- Two operations are off by less than one as long as the result is below `2 ^ 20`. -/
theorem f32Quotient_close {raw factor divisor : ℕ}
    (small : (raw * factor : ℚ) / divisor ≤ 2 ^ 20) :
    |(raw * factor : ℚ) / divisor - f32Quotient raw factor divisor| < 1 := by
  have divisorNonneg : (0 : ℚ) ≤ divisor := Nat.cast_nonneg divisor
  have productNonneg : (0 : ℚ) ≤ raw * factor := by positivity
  have first : |(raw * factor : ℚ) / divisor - f32 (raw * factor) / divisor| ≤
      (raw * factor : ℚ) / divisor / 2 ^ 24 := by
    rw [← sub_div, abs_div, abs_of_nonneg divisorNonneg, div_right_comm]
    exact div_le_div_of_nonneg_right (f32_close productNonneg) divisorNonneg
  have second := f32_close (div_nonneg (f32_nonneg productNonneg) divisorNonneg)
  rw [abs_le] at first second
  rw [abs_lt, f32Quotient]
  constructor <;> linarith [first.1, first.2, second.1, second.2]

/-- Numbers at a distance of less than one have integral parts that are the same or
neighbours. -/
theorem floor_close {x y : ℚ} (close : |x - y| < 1) : ⌊x⌋₊ ≤ ⌊y⌋₊ + 1 ∧ ⌊y⌋₊ ≤ ⌊x⌋₊ + 1 := by
  rw [abs_lt] at close
  constructor
  · refine Nat.le_of_lt_succ (Nat.floor_lt' (Nat.succ_ne_zero _) |>.mpr ?_)
    have above := Nat.lt_floor_add_one y
    push_cast
    linarith
  · refine Nat.le_of_lt_succ (Nat.floor_lt' (Nat.succ_ne_zero _) |>.mpr ?_)
    have above := Nat.lt_floor_add_one x
    push_cast
    linarith

/-- As long as the product has 24 bits, the integral part is exact. -/
theorem floor_f32Quotient {raw factor divisor : ℕ} (small : raw * factor < 2 ^ 24)
    (positive : 0 < divisor) :
    ⌊f32Quotient raw factor divisor⌋₊ = raw * factor / divisor := by
  have product : f32 (raw * factor : ℚ) = ((raw * factor : ℕ) : ℚ) := by
    rw [← Nat.cast_mul]
    exact f32_natCast small
  rw [f32Quotient, product]
  generalize raw * factor = n at small
  have divisorPos : (0 : ℚ) < divisor := Nat.cast_pos.mpr positive
  have split : (n : ℚ) = divisor * (n / divisor : ℕ) + (n % divisor : ℕ) := by
    exact_mod_cast (Nat.div_add_mod n divisor).symm
  have remainder : ((n % divisor : ℕ) : ℚ) + 1 ≤ divisor := by
    exact_mod_cast Nat.mod_lt n positive
  rw [Nat.floor_eq_iff (f32_nonneg (by positivity))]
  constructor
  · refine le_roundTo (by decide) (Nat.cast_nonneg _) (representable_natCast ?_) Nat.cast_div_le
    exact (Nat.div_le_self n divisor).trans_lt small
  · have close := (abs_le.mp (f32_close (x := (n : ℚ) / divisor) (by positivity))).1
    have error : (n : ℚ) / divisor / 2 ^ 24 < 1 / divisor := by
      rw [div_right_comm]
      refine div_lt_div_of_pos_right ?_ divisorPos
      rw [div_lt_one (by positivity)]
      exact_mod_cast small
    have below : (n : ℚ) / divisor + 1 / divisor ≤ (n / divisor : ℕ) + 1 := by
      rw [← add_div, div_le_iff₀ divisorPos]
      linarith
    linarith

/-! ## Distances -/

/-- The distance that a reading stands for, in units of 25.4 mm. -/
def exactDistance (raw : ℕ) : Option ℕ → ℚ
  | none => raw
  | some part => raw + 1 / part

/-- The reciprocal of a part. -/
theorem f32_reciprocal {part : ℕ} (positive : 0 < part) :
    0 < f32 (1 / part : ℚ) ∧ f32 (1 / part : ℚ) ≤ 1 ∧
      |(1 / part : ℚ) - f32 (1 / part)| ≤ 1 / 2 ^ 24 := by
  have part1 : (1 : ℚ) ≤ part := by exact_mod_cast positive
  have recip : (1 / part : ℚ) ≤ 1 := (div_le_one (by linarith)).mpr part1
  have pos : (0 : ℚ) < 1 / part := by positivity
  have close := f32_close pos.le
  refine ⟨?_, ?_, close.trans (div_le_div_of_nonneg_right recip (by norm_num))⟩
  · have lower := (abs_le.mp close).2
    linarith
  · have one : f32 (1 : ℚ) = 1 := by simpa using f32_natCast (n := 1) (by decide)
    exact (f32_mono pos.le recip).trans one.le

/-- The distance is at least the whole part of the reading. -/
theorem le_f32Distance {raw : ℕ} (small : raw < 256) {part : Option ℕ}
    (positive : ∀ value ∈ part, 0 < value) : (raw : ℚ) ≤ f32Distance raw part := by
  cases part with
  | none => exact le_rfl
  | some part =>
      obtain ⟨pos, _, _⟩ := f32_reciprocal (positive part rfl)
      exact le_roundTo (by decide) (Nat.cast_nonneg raw) (representable_natCast (by omega))
        (by linarith)

/-- The distance is at most one more than the whole part of the reading. -/
theorem f32Distance_le {raw : ℕ} (small : raw < 256) {part : Option ℕ}
    (positive : ∀ value ∈ part, 0 < value) : f32Distance raw part ≤ raw + 1 := by
  cases part with
  | none => exact (lt_add_one _).le
  | some part =>
      obtain ⟨pos, le, _⟩ := f32_reciprocal (positive part rfl)
      have next : Representable 24 ((raw + 1 : ℕ) : ℚ) :=
        representable_natCast (by omega)
      push_cast at next
      exact roundTo_le (by decide) (by positivity) next (by linarith)

/-- Distances keep their order. -/
theorem f32Distance_mono {raw raw' : ℕ} (small : raw < 256) (small' : raw' < 256)
    {part part' : Option ℕ} (positive : ∀ value ∈ part, 0 < value)
    (positive' : ∀ value ∈ part', 0 < value)
    (le : exactDistance raw part ≤ exactDistance raw' part') :
    f32Distance raw part ≤ f32Distance raw' part' := by
  rcases Nat.lt_trichotomy raw raw' with below | rfl | above
  · calc f32Distance raw part ≤ raw + 1 := f32Distance_le small positive
      _ ≤ raw' := by exact_mod_cast below
      _ ≤ f32Distance raw' part' := le_f32Distance small' positive'
  · cases part with
    | none => exact le_f32Distance small' positive'
    | some part =>
        have recip : (0 : ℚ) < 1 / part := by
          have pos : (0 : ℚ) < part := Nat.cast_pos.mpr (positive part rfl)
          positivity
        cases part' with
        | none =>
            simp only [exactDistance] at le
            linarith
        | some part' =>
            have reciprocals : (1 / part : ℚ) ≤ 1 / part' := by
              simpa only [exactDistance, add_le_add_iff_left] using le
            have rounded := f32_mono recip.le reciprocals
            refine f32_mono (add_nonneg (Nat.cast_nonneg raw) (f32_nonneg recip.le)) ?_
            exact (add_le_add_iff_left _).mpr rounded
  · have above' : (raw' + 1 : ℚ) ≤ raw := by exact_mod_cast above
    cases part' with
    | none =>
        cases part with
        | none =>
            simp only [exactDistance] at le
            linarith
        | some part =>
            have recip : (0 : ℚ) ≤ 1 / part := by positivity
            simp only [exactDistance] at le
            linarith
    | some part' =>
        have part1 : (1 : ℚ) ≤ part' := by exact_mod_cast positive' part' rfl
        have recip : (1 / part' : ℚ) ≤ 1 := (div_le_one (by linarith)).mpr part1
        cases part with
        | none =>
            simp only [exactDistance] at le
            have whole : (1 / part' : ℚ) = 1 := by linarith
            have one : f32 (1 : ℚ) = 1 := by simpa using f32_natCast (n := 1) (by decide)
            have next : f32 ((raw' : ℚ) + 1) = raw' + 1 := by
              simpa using f32_natCast (n := raw' + 1) (by omega)
            rw [f32Distance, f32Distance, whole, one, next]
            linarith
        | some part =>
            have pos : (0 : ℚ) < part := Nat.cast_pos.mpr (positive part rfl)
            have recip' : (0 : ℚ) < 1 / part := by positivity
            simp only [exactDistance] at le
            linarith

/-- The rounded distance is close to the exact one. -/
theorem f32Distance_close {raw : ℕ} (small : raw < 256) {part : Option ℕ}
    (positive : ∀ value ∈ part, 0 < value) :
    |exactDistance raw part - f32Distance raw part| ≤ 258 / 2 ^ 24 := by
  cases part with
  | none =>
      rw [exactDistance, f32Distance, sub_self, abs_zero]
      norm_num
  | some part =>
      obtain ⟨pos, le, reciprocal⟩ := f32_reciprocal (positive part rfl)
      have raw255 : (raw : ℚ) ≤ 255 := by exact_mod_cast Nat.le_of_lt_succ small
      have sum := f32_close (x := (raw : ℚ) + f32 (1 / part)) (by positivity)
      have bound : ((raw : ℚ) + f32 (1 / part)) / 2 ^ 24 ≤ 256 / 2 ^ 24 := by
        gcongr
        linarith
      rw [abs_le] at reciprocal sum ⊢
      simp only [exactDistance, f32Distance]
      constructor <;> linarith [reciprocal.1, reciprocal.2, sum.1, sum.2]

/-- The factor from the unit of distance to millimetres. -/
theorem f32_factor : |(254 / 10 : ℚ) - f32 (254 / 10)| ≤ 26 / 2 ^ 24 ∧ 0 ≤ f32 (254 / 10 : ℚ) := by
  have close := f32_close (x := (254 / 10 : ℚ)) (by norm_num)
  refine ⟨close.trans (by norm_num), f32_nonneg (by norm_num)⟩

/-- A distance in millimetres. -/
def f32Millimetres (raw : ℕ) (part : Option ℕ) : ℚ :=
  f32 (f32Distance raw part * f32 (254 / 10))

theorem f32Millimetres_close {raw : ℕ} (small : raw < 256) {part : Option ℕ}
    (positive : ∀ value ∈ part, 0 < value) :
    |exactDistance raw part * (254 / 10) - f32Millimetres raw part| < 1 := by
  have distance := f32Distance_close small positive
  have lower := (Nat.cast_nonneg raw).trans (le_f32Distance small positive)
  have raw255 : (raw : ℚ) ≤ 255 := by exact_mod_cast Nat.le_of_lt_succ small
  have upper := (f32Distance_le small positive).trans (by linarith : (raw : ℚ) + 1 ≤ 256)
  obtain ⟨factor, factorNonneg⟩ := f32_factor
  rw [f32Millimetres]
  generalize f32Distance raw part = distance' at distance lower upper ⊢
  generalize exactDistance raw part = exact' at distance ⊢
  generalize f32 (254 / 10 : ℚ) = factor' at factor factorNonneg ⊢
  rw [abs_le] at factor distance
  have product : 0 ≤ distance' * factor' := mul_nonneg lower factorNonneg
  have productLe : distance' * factor' ≤ 256 * 26 :=
    mul_le_mul upper (by linarith [factor.1]) factorNonneg (by norm_num)
  have last := f32_close product
  have lastLe : distance' * factor' / 2 ^ 24 ≤ 256 * 26 / 2 ^ 24 := by gcongr
  have drift : |distance' * (254 / 10 - factor')| ≤ 256 * (26 / 2 ^ 24) := by
    rw [abs_mul, abs_of_nonneg lower]
    exact mul_le_mul upper (abs_le.mpr factor) (abs_nonneg _) (by norm_num)
  rw [abs_le] at last drift
  rw [abs_lt]
  constructor <;> linarith [last.1, last.2, drift.1, drift.2, distance.1, distance.2]

theorem f32Millimetres_nonneg {raw : ℕ} (small : raw < 256) {part : Option ℕ}
    (positive : ∀ value ∈ part, 0 < value) : 0 ≤ f32Millimetres raw part :=
  f32_nonneg (mul_nonneg ((Nat.cast_nonneg raw).trans (le_f32Distance small positive))
    f32_factor.2)

theorem f32Millimetres_mono {raw raw' : ℕ} (small : raw < 256) (small' : raw' < 256)
    {part part' : Option ℕ} (positive : ∀ value ∈ part, 0 < value)
    (positive' : ∀ value ∈ part', 0 < value)
    (le : exactDistance raw part ≤ exactDistance raw' part') :
    f32Millimetres raw part ≤ f32Millimetres raw' part' := by
  have nonneg := (Nat.cast_nonneg raw).trans (le_f32Distance small positive)
  refine f32_mono (mul_nonneg nonneg f32_factor.2) ?_
  exact mul_le_mul_of_nonneg_right (f32Distance_mono small small' positive positive' le)
    f32_factor.2

theorem f32Millimetres_le {raw : ℕ} (small : raw < 256) {part : Option ℕ}
    (positive : ∀ value ∈ part, 0 < value) : f32Millimetres raw part ≤ 6656 := by
  have lower := (Nat.cast_nonneg raw).trans (le_f32Distance small positive)
  have raw255 : (raw : ℚ) ≤ 255 := by exact_mod_cast Nat.le_of_lt_succ small
  have upper := (f32Distance_le small positive).trans (by linarith : (raw : ℚ) + 1 ≤ 256)
  obtain ⟨factor, factorNonneg⟩ := f32_factor
  have factorLe : f32 (254 / 10 : ℚ) ≤ 26 := by linarith [(abs_le.mp factor).1]
  have product : f32Distance raw part * f32 (254 / 10) ≤ ((6656 : ℕ) : ℚ) := by
    refine (mul_le_mul upper factorLe factorNonneg (by norm_num)).trans ?_
    norm_num
  have rounded : f32Millimetres raw part ≤ ((6656 : ℕ) : ℚ) :=
    roundTo_le (by decide) (mul_nonneg lower factorNonneg) (representable_natCast (by decide))
      product
  exact_mod_cast rounded

/-! ## Normal numbers -/

/-- Zero, or a number in the normal range of `f32`. -/
def Normal (x : ℚ) : Prop := x = 0 ∨ (1 / 2 ^ 126 ≤ x ∧ x ≤ 2 ^ 127)

theorem normal_of_bounds {x : ℚ} (lower : 1 / 2 ^ 40 ≤ x) (upper : x ≤ 2 ^ 40) : Normal x :=
  .inr ⟨le_trans (by norm_num) lower, upper.trans (by norm_num)⟩

/-- Rounding changes a number by less than a factor of two. -/
theorem f32_bounds {x : ℚ} (nonneg : 0 ≤ x) : x / 2 ≤ f32 x ∧ f32 x ≤ 2 * x := by
  have close := abs_le.mp (f32_close nonneg)
  constructor <;> linarith [close.1, close.2]

/-- Both operations of a quotient stay in the normal range. -/
theorem f32Quotient_normal {raw factor divisor : ℕ} (reading : raw < 2 ^ 16)
    (factorPos : 0 < factor) (factorLe : factor < 2 ^ 14) (divisorPos : 0 < divisor)
    (divisorLe : divisor < 2 ^ 14) :
    Normal (raw * factor) ∧ Normal (f32 (raw * factor) / divisor) := by
  rcases Nat.eq_zero_or_pos raw with rfl | positive
  · have zero : f32 0 = 0 := roundTo_zero 24
    exact ⟨.inl (by simp), .inl (by simp [zero])⟩
  · have product1 : (1 : ℚ) ≤ raw * factor := by exact_mod_cast Nat.mul_pos positive factorPos
    have productLe : (raw * factor : ℚ) ≤ 2 ^ 30 := by
      have le : raw * factor ≤ 2 ^ 16 * 2 ^ 14 := Nat.mul_le_mul reading.le factorLe.le
      exact_mod_cast le
    have rounded := f32_bounds (zero_le_one.trans product1)
    have divisor1 : (1 : ℚ) ≤ divisor := by exact_mod_cast divisorPos
    have divisor14 : (divisor : ℚ) ≤ 2 ^ 14 := by exact_mod_cast divisorLe.le
    refine ⟨normal_of_bounds (le_trans (by norm_num) product1) (by linarith),
      normal_of_bounds ?_ ?_⟩
    · rw [le_div_iff₀ (by linarith)]
      linarith [rounded.1]
    · rw [div_le_iff₀ (by linarith)]
      linarith [rounded.2]

/-- So do the operations on a distance. -/
theorem f32Millimetres_normal {raw part : ℕ} (small : raw < 256) (positive : 0 < part)
    (partLe : part < 256) :
    Normal (1 / part) ∧ Normal (raw + f32 (1 / part)) ∧
      Normal (f32Distance raw none * f32 (254 / 10)) ∧
      Normal (f32Distance raw (some part) * f32 (254 / 10)) := by
  have rawNonneg : (0 : ℚ) ≤ raw := Nat.cast_nonneg raw
  have raw255 : (raw : ℚ) ≤ 255 := by exact_mod_cast Nat.le_of_lt_succ small
  have part255 : (part : ℚ) ≤ 255 := by exact_mod_cast Nat.le_of_lt_succ partLe
  have partPos : (0 : ℚ) < part := Nat.cast_pos.mpr positive
  have recip : (1 / 255 : ℚ) ≤ 1 / part := one_div_le_one_div_of_le partPos part255
  obtain ⟨_, le, _⟩ := f32_reciprocal positive
  have rounded := (f32_bounds (one_div_nonneg.mpr partPos.le)).1
  have sum := f32_bounds (x := (raw : ℚ) + f32 (1 / part)) (by linarith)
  have factor := f32_bounds (x := (254 / 10 : ℚ)) (by norm_num)
  refine ⟨normal_of_bounds (by linarith) (by linarith), normal_of_bounds (by linarith)
    (by linarith), ?_, normal_of_bounds ?_ ?_⟩
  · rcases Nat.eq_zero_or_pos raw with rfl | rawPos
    · exact .inl (by simp [f32Distance])
    · have raw1 : (1 : ℚ) ≤ raw := by exact_mod_cast rawPos
      exact normal_of_bounds (by rw [f32Distance]; nlinarith) (by rw [f32Distance]; nlinarith)
  · rw [f32Distance]
    nlinarith
  · rw [f32Distance]
    nlinarith

/-! ## Events -/

/-- Values that are the same or neighbours. -/
def WithinOne (left right : ℕ) : Prop := left ≤ right + 1 ∧ right ≤ left + 1

section Events

local instance : FloatScale := FloatScale.single

/-- A quotient of 16-bit readings is close to the exact one. -/
theorem floor_f32Quotient_close {raw factor divisor : ℕ} (reading : raw < 2 ^ 16)
    (ratio : factor ≤ 16 * divisor) (positive : 0 < divisor) :
    WithinOne ⌊f32Quotient raw factor divisor⌋₊ (raw * factor / divisor) ∧
      ⌊f32Quotient raw factor divisor⌋₊ < 2 ^ 21 := by
  have small : raw * factor / divisor ≤ 2 ^ 20 := by
    rw [Nat.div_le_iff_le_mul_add_pred positive]
    nlinarith
  have smallRat : (raw * factor : ℚ) / divisor ≤ 2 ^ 20 := by
    rw [div_le_iff₀ (Nat.cast_pos.mpr positive)]
    have product : raw * factor ≤ 2 ^ 20 * divisor := by nlinarith
    exact_mod_cast product
  have close := floor_close (f32Quotient_close smallRat)
  have exact' : ⌊(raw * factor : ℚ) / divisor⌋₊ = raw * factor / divisor := by
    rw [← Nat.cast_mul, Nat.floor_div_eq_div]
  rw [exact'] at close
  exact ⟨⟨close.2, close.1⟩, by omega⟩

theorem receiveScaled_cons (scale : UInt16 → ℕ) (emit : UInt32 → Event) (low high : UInt8)
    (rest : Bytes) :
    receiveScaled scale emit (low :: high :: rest) =
      .ret (some (emit (castU32 (scale (LittleEndian.u16 low high))))) := by
  rw [receiveScaled, if_pos (by simp)]
  rfl

/-- The cast does not saturate. -/
theorem castU32_toNat {value : ℕ} (small : value < 2 ^ 32) : (castU32 value).toNat = value := by
  rw [castU32, Nat.min_eq_left (Nat.le_sub_one_of_lt small), UInt32.toNat_ofNat_of_lt' small]

/-- The reading of the first two bytes. -/
def reading (low high : UInt8) : ℕ := (LittleEndian.u16 low high).toNat

/-- What the voltage and the current sensor report. -/
theorem receive_scaled (portId low high : UInt8) (rest : Bytes) :
    ∃ millivolts milliamps : UInt32,
      Device.receive (VoltageSensor.new portId) (low :: high :: rest) =
        .ret (.ok (some (.voltage portId millivolts)), .new portId) ∧
      Device.receive (CurrentSensor.new portId) (low :: high :: rest) =
        .ret (.ok (some (.current portId milliamps)), .new portId) ∧
      millivolts.toNat = ⌊f32Quotient (reading low high) 9615 3893⌋₊ ∧
      milliamps.toNat = ⌊f32Quotient (reading low high) 2444 4095⌋₊ := by
  have bound : reading low high < 2 ^ 16 := UInt16.toNat_lt _
  have voltage := (floor_f32Quotient_close bound (by decide : 9615 ≤ 16 * 3893) (by decide)).2
  have current := (floor_f32Quotient_close bound (by decide : 2444 ≤ 16 * 4095) (by decide)).2
  refine ⟨_, _, ?_, ?_, castU32_toNat (voltage.trans (by decide)),
    castU32_toNat (current.trans (by decide))⟩
  · simp only [Device.receive, receiveScaled_cons, Checked.ret_bind]
    rfl
  · simp only [Device.receive, receiveScaled_cons, Checked.ret_bind]
    rfl

/-- The reported millivolts and milliamperes differ from exact scaling by at most one,
and agree with it up to the reading at which a product takes more than 24 bits. -/
theorem scaled_readings_close (portId low high : UInt8) (rest : Bytes) :
    ∃ millivolts milliamps : UInt32,
      Device.receive (VoltageSensor.new portId) (low :: high :: rest) =
        .ret (.ok (some (.voltage portId millivolts)), .new portId) ∧
      Device.receive (CurrentSensor.new portId) (low :: high :: rest) =
        .ret (.ok (some (.current portId milliamps)), .new portId) ∧
      WithinOne millivolts.toNat (reading low high * 9615 / 3893) ∧
      WithinOne milliamps.toNat (reading low high * 2444 / 4095) ∧
      (reading low high ≤ 1744 → millivolts.toNat = reading low high * 9615 / 3893) ∧
      (reading low high ≤ 6864 → milliamps.toNat = reading low high * 2444 / 4095) := by
  have bound : reading low high < 2 ^ 16 := UInt16.toNat_lt _
  obtain ⟨millivolts, milliamps, voltage, current, volts, amps⟩ :=
    receive_scaled portId low high rest
  refine ⟨millivolts, milliamps, voltage, current, ?_, ?_, fun small => ?_, fun small => ?_⟩
  · rw [volts]
    exact (floor_f32Quotient_close bound (by decide) (by decide)).1
  · rw [amps]
    exact (floor_f32Quotient_close bound (by decide) (by decide)).1
  · rw [volts]
    exact floor_f32Quotient (by omega) (by decide)
  · rw [amps]
    exact floor_f32Quotient (by omega) (by decide)

/-- A higher reading is never reported as a lower voltage or current. -/
theorem scaled_readings_mono {low high low' high' : UInt8}
    (le : reading low high ≤ reading low' high') (portId portId' : UInt8) (rest rest' : Bytes) :
    ∃ millivolts milliamps millivolts' milliamps' : UInt32,
      Device.receive (VoltageSensor.new portId) (low :: high :: rest) =
        .ret (.ok (some (.voltage portId millivolts)), .new portId) ∧
      Device.receive (VoltageSensor.new portId') (low' :: high' :: rest') =
        .ret (.ok (some (.voltage portId' millivolts')), .new portId') ∧
      Device.receive (CurrentSensor.new portId) (low :: high :: rest) =
        .ret (.ok (some (.current portId milliamps)), .new portId) ∧
      Device.receive (CurrentSensor.new portId') (low' :: high' :: rest') =
        .ret (.ok (some (.current portId' milliamps')), .new portId') ∧
      millivolts ≤ millivolts' ∧ milliamps ≤ milliamps' := by
  obtain ⟨millivolts, milliamps, voltage, current, volts, amps⟩ :=
    receive_scaled portId low high rest
  obtain ⟨millivolts', milliamps', voltage', current', volts', amps'⟩ :=
    receive_scaled portId' low' high' rest'
  refine ⟨millivolts, milliamps, millivolts', milliamps', voltage, voltage', current, current',
    ?_, ?_⟩
  · rw [UInt32.le_iff_toNat_le, volts, volts']
    exact Nat.floor_le_floor (f32Quotient_mono le _ _)
  · rw [UInt32.le_iff_toNat_le, amps, amps']
    exact Nat.floor_le_floor (f32Quotient_mono le _ _)

theorem scaled_readings_mono_full :
    ∃ millivolts millivolts' : UInt32,
      Device.receive (VoltageSensor.new 0x3C) [0x34, 0x0F] =
        .ret (.ok (some (.voltage 0x3C millivolts)), .new 0x3C) ∧
      Device.receive (VoltageSensor.new 0x3C) [0x35, 0x0F] =
        .ret (.ok (some (.voltage 0x3C millivolts')), .new 0x3C) ∧ millivolts ≤ millivolts' := by
  have le : reading 0x34 0x0F ≤ reading 0x35 0x0F := by decide
  obtain ⟨millivolts, _, millivolts', _, received, received', _, _, mono, _⟩ :=
    scaled_readings_mono le 0x3C 0x3C [] []
  exact ⟨millivolts, millivolts', received, received', mono⟩

/-! ## Colour and distance -/

/-- The partial distance of a reading, if there is one. -/
def partOf (part : UInt8) : Option ℕ := if part > 0 then some part.toNat else none

theorem partOf_positive (part : UInt8) : ∀ value ∈ partOf part, 0 < value := by
  unfold partOf
  split
  · rename_i positive
    rintro _ ⟨⟩
    exact positive
  · exact fun _ => nofun

/-- The indices up to 10 are colours. -/
theorem exists_color {raw : UInt8} (valid : raw ≤ 10) :
    ∃ color, (WireEnum.tryFrom raw : Result Color) = .ok color := by
  have all : ∀ n : Fin 11, ((WireEnum.tryFrom (UInt8.ofNat n) : Result Color)).isOk = true := by
    decide
  have bound : raw.toNat < 11 := Nat.lt_succ_of_le (UInt8.le_iff_toNat_le.mp valid)
  have ok := all ⟨raw.toNat, bound⟩
  rw [UInt8.ofNat_toNat] at ok
  cases known : (WireEnum.tryFrom raw : Result Color) with
  | ok color => exact ⟨color, rfl⟩
  | error error =>
      rw [known] at ok
      cases ok

/-- What the sensor reports in mode `COLOR_AND_DISTANCE`. -/
theorem receive_colorAndDistance (portId : UInt8) {colorRaw : UInt8} (valid : colorRaw ≤ 10)
    (unused distRaw part : UInt8) (rest : Bytes) :
    ∃ (color : Color) (mm : UInt32),
      (WireEnum.tryFrom colorRaw : Result Color) = .ok color ∧
      Device.receive (⟨portId, ColorDistanceMode.colorAndDistance.asU8⟩ : ColorDistanceSensor)
          (colorRaw :: unused :: distRaw :: part :: rest) =
        .ret (.ok (some (.colorAndDistance portId color mm)),
          ⟨portId, ColorDistanceMode.colorAndDistance.asU8⟩) ∧
      mm.toNat = ⌊f32Millimetres distRaw.toNat (partOf part)⌋₊ - 20 := by
  obtain ⟨color, known⟩ := exists_color valid
  have scaled : (if part > 0 then FloatScale.distance distRaw (some part)
      else FloatScale.distance distRaw none) =
      ⌊f32Millimetres distRaw.toNat (partOf part)⌋₊ := by
    unfold partOf
    split <;> rfl
  have small : ⌊f32Millimetres distRaw.toNat (partOf part)⌋₊ ≤ 6656 :=
    Nat.floor_le_of_le (f32Millimetres_le distRaw.toNat_lt (partOf_positive part))
  generalize ⌊f32Millimetres distRaw.toNat (partOf part)⌋₊ = floor at scaled small
  have cast : castI32 floor = floor := by
    rw [castI32, min_eq_left]
    simp only [IntType.i32]
    omega
  have difference : IntType.i32.fit ((floor : Int) - 20) = .ret ((floor : Int) - 20) := by
    apply IntType.fit_eq_ret <;> simp only [IntType.i32] <;> omega
  have clamped : (max ((floor : Int) - 20) 0).toNat = floor - 20 := by omega
  have decoded : ColorDistanceSensor.receiveColorAndDistance
      ⟨portId, ColorDistanceMode.colorAndDistance.asU8⟩
      (colorRaw :: unused :: distRaw :: part :: rest) =
      .ret (some (.colorAndDistance portId color (UInt32.ofNat (floor - 20)))) := by
    have byte0 : index (colorRaw :: unused :: distRaw :: part :: rest) 0 = .ret colorRaw := rfl
    have byte2 : index (colorRaw :: unused :: distRaw :: part :: rest) 2 = .ret distRaw := rfl
    have byte3 : index (colorRaw :: unused :: distRaw :: part :: rest) 3 = .ret part := rfl
    rw [ColorDistanceSensor.receiveColorAndDistance, if_pos (by simp)]
    simp only [byte0, byte2, byte3, Checked.ret_bind, valid, if_true, scaled, cast,
      difference, clamped, known]
    rfl
  refine ⟨color, UInt32.ofNat (floor - 20), known, ?_, ?_⟩
  · have mode : ColorDistanceSensor.decode ⟨portId, ColorDistanceMode.colorAndDistance.asU8⟩
        (colorRaw :: unused :: distRaw :: part :: rest) =
        ColorDistanceSensor.receiveColorAndDistance
          ⟨portId, ColorDistanceMode.colorAndDistance.asU8⟩
          (colorRaw :: unused :: distRaw :: part :: rest) := rfl
    simp only [Device.receive, mode, decoded, Checked.ret_bind]
    rfl
  · refine UInt32.toNat_ofNat_of_lt' ?_
    have size : UInt32.size = 2 ^ 32 := rfl
    omega

/-- The distance reported with a colour differs from exact scaling by at most one
millimetre, and a larger distance is never reported as a smaller one. -/
theorem colorAndDistance_close (portId : UInt8) {colorRaw colorRaw' : UInt8}
    (valid : colorRaw ≤ 10) (valid' : colorRaw' ≤ 10)
    (unused distRaw part unused' distRaw' part' : UInt8) (rest rest' : Bytes)
    (le : exactDistance distRaw.toNat (partOf part) ≤ exactDistance distRaw'.toNat (partOf part')) :
    ∃ (color color' : Color) (mm mm' : UInt32),
      Device.receive (⟨portId, ColorDistanceMode.colorAndDistance.asU8⟩ : ColorDistanceSensor)
          (colorRaw :: unused :: distRaw :: part :: rest) =
        .ret (.ok (some (.colorAndDistance portId color mm)),
          ⟨portId, ColorDistanceMode.colorAndDistance.asU8⟩) ∧
      Device.receive (⟨portId, ColorDistanceMode.colorAndDistance.asU8⟩ : ColorDistanceSensor)
          (colorRaw' :: unused' :: distRaw' :: part' :: rest') =
        .ret (.ok (some (.colorAndDistance portId color' mm')),
          ⟨portId, ColorDistanceMode.colorAndDistance.asU8⟩) ∧
      color.asU8 = colorRaw ∧ color'.asU8 = colorRaw' ∧
      WithinOne mm.toNat
        (⌊exactDistance distRaw.toNat (partOf part) * (254 / 10)⌋₊ - 20) ∧
      mm ≤ mm' ∧ mm'.toNat ≤ 6636 := by
  obtain ⟨color, mm, known, received, value⟩ :=
    receive_colorAndDistance portId valid unused distRaw part rest
  obtain ⟨color', mm', known', received', value'⟩ :=
    receive_colorAndDistance portId valid' unused' distRaw' part' rest'
  have positive := partOf_positive part
  have positive' := partOf_positive part'
  refine ⟨color, color', mm, mm', received, received', WireEnum.tryFrom_eq_ok.mp known,
    WireEnum.tryFrom_eq_ok.mp known', ?_, ?_, ?_⟩
  · have close := floor_close (f32Millimetres_close distRaw.toNat_lt positive)
    rw [value, WithinOne]
    omega
  · have floors := Nat.floor_le_floor
      (f32Millimetres_mono distRaw.toNat_lt distRaw'.toNat_lt positive positive' le)
    rw [UInt32.le_iff_toNat_le, value, value']
    omega
  · have bound : ⌊f32Millimetres distRaw'.toNat (partOf part')⌋₊ ≤ 6656 :=
      Nat.floor_le_of_le (f32Millimetres_le distRaw'.toNat_lt positive')
    rw [value']
    omega

/-- A part of 1 is more than a part of 127. -/
theorem colorAndDistance_close_parts :
    ∃ mm mm' : UInt32,
      Device.receive (⟨1, ColorDistanceMode.colorAndDistance.asU8⟩ : ColorDistanceSensor)
          [3, 0, 17, 127] =
        .ret (.ok (some (.colorAndDistance 1 .blue mm)),
          ⟨1, ColorDistanceMode.colorAndDistance.asU8⟩) ∧
      Device.receive (⟨1, ColorDistanceMode.colorAndDistance.asU8⟩ : ColorDistanceSensor)
          [9, 0, 17, 1] =
        .ret (.ok (some (.colorAndDistance 1 .red mm')),
          ⟨1, ColorDistanceMode.colorAndDistance.asU8⟩) ∧
      WithinOne mm.toNat 412 ∧ mm ≤ mm' := by
  have le : exactDistance (17 : UInt8).toNat (partOf 127) ≤
      exactDistance (17 : UInt8).toNat (partOf 1) := by
    change ((17 : ℕ) : ℚ) + 1 / ((127 : ℕ) : ℚ) ≤ ((17 : ℕ) : ℚ) + 1 / ((1 : ℕ) : ℚ)
    norm_num
  have exact' : ⌊exactDistance (17 : UInt8).toNat (partOf 127) * (254 / 10)⌋₊ = 432 := by
    change ⌊(((17 : ℕ) : ℚ) + 1 / ((127 : ℕ) : ℚ)) * (254 / 10)⌋₊ = 432
    norm_num [Nat.floor_eq_iff]
  obtain ⟨color, color', mm, mm', received, received', blue, red, close, mono, _⟩ :=
    colorAndDistance_close 1 (by decide : (3 : UInt8) ≤ 10) (by decide : (9 : UInt8) ≤ 10)
      0 17 127 0 17 1 [] [] le
  obtain rfl : color = .blue := WireEnum.asU8_injective (blue.trans rfl)
  obtain rfl : color' = .red := WireEnum.asU8_injective (red.trans rfl)
  rw [exact'] at close
  exact ⟨mm, mm', received, received', close, mono⟩

end Events

end PoweredUp

import Mathlib.Algebra.Order.Floor.Ring
import Mathlib.Algebra.Order.Round
import Mathlib.Algebra.Ring.CharZero
import Mathlib.Data.Int.Log
import Mathlib.Tactic.FieldSimp
import Mathlib.Tactic.Linarith
import Mathlib.Tactic.Positivity
import Mathlib.Tactic.Ring

/-!
# Rounding to binary floating point

Round to nearest, ties to even, to a number of significant bits.  The exponent is not
bounded: a reader who needs overflow or subnormal numbers has to bound the operands.
Only nonnegative numbers are rounded.
-/

namespace Rounding

/-- Numbers with that many significant bits. -/
def Representable {R : Type*} [Field R] (bits : ℕ) (x : R) : Prop :=
  ∃ (mantissa : ℕ) (exponent : ℤ), mantissa < 2 ^ bits ∧ x = mantissa * 2 ^ exponent

theorem representable_natCast {R : Type*} [Field R] {bits n : ℕ} (small : n < 2 ^ bits) :
    Representable bits (n : R) :=
  ⟨n, 0, small, by simp⟩

variable {R : Type*} [Field R] [LinearOrder R] [FloorRing R]

/-! ## Binades -/

/-- The distance of neighbouring numbers with `bits` significant bits around `x`. -/
def spacing (bits : ℕ) (x : R) : R :=
  2 ^ (Int.log 2 x - (bits - 1))

/-- Numbers of the same binade have the same spacing, and there are at most
`2 ^ bits` steps of it below the end of the binade. -/
theorem spacing_mul_two_pow (bits : ℕ) (x : R) :
    (2 : R) ^ bits * spacing bits x = 2 ^ (Int.log 2 x + 1) := by
  rw [spacing, ← zpow_natCast, ← zpow_add₀ two_ne_zero]
  congr 1
  omega

/-! ## To integers -/

/-- The nearest integer, ties to even. -/
def nearestEven (x : R) : ℤ :=
  if Int.fract x < 1 / 2 then ⌊x⌋
  else if 1 / 2 < Int.fract x then ⌊x⌋ + 1
  else if Even ⌊x⌋ then ⌊x⌋
  else ⌊x⌋ + 1

theorem floor_le_nearestEven (x : R) : ⌊x⌋ ≤ nearestEven x := by
  unfold nearestEven
  split_ifs <;> omega

theorem nearestEven_le_floor_add_one (x : R) : nearestEven x ≤ ⌊x⌋ + 1 := by
  unfold nearestEven
  split_ifs <;> omega

variable [IsStrictOrderedRing R]

@[simp] theorem nearestEven_intCast (n : ℤ) : nearestEven (n : R) = n := by
  rw [nearestEven, Int.fract_intCast, Int.floor_intCast]
  exact if_pos (by norm_num)

theorem nearestEven_mono {x y : R} (le : x ≤ y) : nearestEven x ≤ nearestEven y := by
  rcases (Int.floor_le_floor le).lt_or_eq with below | same
  · calc nearestEven x ≤ ⌊x⌋ + 1 := nearestEven_le_floor_add_one x
      _ ≤ ⌊y⌋ := below
      _ ≤ nearestEven y := floor_le_nearestEven y
  · have fract : Int.fract x ≤ Int.fract y := by
      rw [Int.fract, Int.fract, same]
      exact sub_le_sub_right le _
    unfold nearestEven
    rw [same]
    split_ifs <;> first | omega | (exfalso; linarith)

theorem abs_sub_nearestEven_le (x : R) : |x - nearestEven x| ≤ 1 / 2 := by
  have split : x = ⌊x⌋ + Int.fract x := (Int.floor_add_fract x).symm
  have lower := Int.fract_nonneg x
  have upper := Int.fract_lt_one x
  rw [abs_le]
  unfold nearestEven
  split_ifs <;> push_cast <;> constructor <;> linarith

/-! ## To significant bits -/

/-- Round to `bits` significant bits. -/
def roundTo (bits : ℕ) (x : R) : R :=
  nearestEven (x / spacing bits x) * spacing bits x

variable {bits : ℕ} {x y : R}

theorem spacing_pos (bits : ℕ) (x : R) : 0 < spacing bits x :=
  zpow_pos two_pos _

theorem two_zpow_log_le (pos : 0 < x) : (2 : R) ^ Int.log 2 x ≤ x := by
  have le := Int.zpow_log_le_self (b := 2) one_lt_two pos
  rwa [Nat.cast_ofNat] at le

theorem lt_two_zpow_log (x : R) : x < 2 ^ (Int.log 2 x + 1) := by
  have lt := Int.lt_zpow_succ_log_self (b := 2) one_lt_two x
  rwa [Nat.cast_ofNat] at lt

/-- Rounding up goes no further than the end of the binade. -/
theorem roundTo_le_binade (bits : ℕ) (x : R) : roundTo bits x ≤ 2 ^ (Int.log 2 x + 1) := by
  have steps : x / spacing bits x ≤ ((2 ^ bits : ℤ) : R) := by
    rw [div_le_iff₀ (spacing_pos bits x)]
    push_cast
    rw [spacing_mul_two_pow]
    exact (lt_two_zpow_log x).le
  have rounded : nearestEven (x / spacing bits x) ≤ 2 ^ bits := by
    have mono := nearestEven_mono steps
    rwa [nearestEven_intCast] at mono
  rw [roundTo, ← spacing_mul_two_pow]
  refine mul_le_mul_of_nonneg_right ?_ (spacing_pos bits x).le
  exact_mod_cast rounded

/-- Rounding down stays in the binade. -/
theorem binade_le_roundTo (positive : 0 < bits) (pos : 0 < x) :
    2 ^ Int.log 2 x ≤ roundTo bits x := by
  have start : (2 : R) ^ Int.log 2 x = ((2 ^ (bits - 1) : ℤ) : R) * spacing bits x := by
    push_cast
    rw [spacing, ← zpow_natCast, ← zpow_add₀ two_ne_zero]
    congr 1
    omega
  have steps : ((2 ^ (bits - 1) : ℤ) : R) ≤ x / spacing bits x := by
    rw [le_div_iff₀ (spacing_pos bits x), ← start]
    exact two_zpow_log_le pos
  have rounded : 2 ^ (bits - 1) ≤ nearestEven (x / spacing bits x) := by
    have mono := nearestEven_mono steps
    rwa [nearestEven_intCast] at mono
  rw [roundTo, start]
  refine mul_le_mul_of_nonneg_right ?_ (spacing_pos bits x).le
  exact_mod_cast rounded

@[simp] theorem roundTo_zero (bits : ℕ) : roundTo bits (0 : R) = 0 := by
  have zero : nearestEven (0 : R) = 0 := by simpa using nearestEven_intCast (R := R) 0
  rw [roundTo, zero_div, zero, Int.cast_zero, zero_mul]

theorem roundTo_nonneg (positive : 0 < bits) (nonneg : 0 ≤ x) : 0 ≤ roundTo bits x := by
  rcases nonneg.eq_or_lt with rfl | pos
  · rw [roundTo_zero]
  · exact (zpow_pos two_pos _).le.trans (binade_le_roundTo positive pos)

/-- Rounding keeps the order. -/
theorem roundTo_mono (positive : 0 < bits) (nonneg : 0 ≤ x) (le : x ≤ y) :
    roundTo bits x ≤ roundTo bits y := by
  rcases nonneg.eq_or_lt with rfl | pos
  · rw [roundTo_zero]
    exact roundTo_nonneg positive le
  · rcases (Int.log_mono_right (b := 2) pos le).lt_or_eq with below | same
    · calc roundTo bits x ≤ 2 ^ (Int.log 2 x + 1) := roundTo_le_binade bits x
        _ ≤ 2 ^ Int.log 2 y := zpow_le_zpow_right₀ one_le_two below
        _ ≤ roundTo bits y := binade_le_roundTo positive (pos.trans_le le)
    · have spacings : spacing bits x = spacing bits y := by
        rw [spacing, spacing, same]
      rw [roundTo, roundTo, spacings]
      refine mul_le_mul_of_nonneg_right ?_ (spacing_pos bits y).le
      have quotients := div_le_div_of_nonneg_right le (spacing_pos bits y).le
      exact_mod_cast nearestEven_mono quotients

/-- The rounding error is at most half a unit in the last place. -/
theorem abs_sub_roundTo_le (nonneg : 0 ≤ x) : |x - roundTo bits x| ≤ x / 2 ^ bits := by
  rcases nonneg.eq_or_lt with rfl | pos
  · simp
  · have half := abs_sub_nearestEven_le (x / spacing bits x)
    have unit := spacing_pos bits x
    have scaled : x - roundTo bits x =
        (x / spacing bits x - nearestEven (x / spacing bits x)) * spacing bits x := by
      rw [sub_mul, div_mul_cancel₀ _ unit.ne', roundTo]
    have whole : (2 : R) ^ bits * spacing bits x ≤ 2 * x := by
      rw [spacing_mul_two_pow, zpow_add_one₀ two_ne_zero, mul_comm]
      exact mul_le_mul_of_nonneg_left (two_zpow_log_le pos) zero_le_two
    rw [scaled, abs_mul, abs_of_pos unit, le_div_iff₀ (by positivity)]
    calc |x / spacing bits x - nearestEven (x / spacing bits x)| * spacing bits x * 2 ^ bits
        ≤ 1 / 2 * spacing bits x * 2 ^ bits := by gcongr
      _ = 2 ^ bits * spacing bits x / 2 := by ring
      _ ≤ x := by linarith

/-- Representable numbers are not rounded. -/
theorem roundTo_of_representable (representable : Representable bits x) : roundTo bits x = x := by
  obtain ⟨mantissa, exponent, small, rfl⟩ := representable
  rcases Nat.eq_zero_or_pos mantissa with rfl | positive
  · simp
  · generalize value : (mantissa : R) * 2 ^ exponent = x
    have pos : 0 < x := by
      rw [← value]
      exact mul_pos (Nat.cast_pos.mpr positive) (zpow_pos two_pos _)
    have below : (2 : R) ^ Int.log 2 x < 2 ^ (bits + exponent) := by
      calc (2 : R) ^ Int.log 2 x ≤ x := two_zpow_log_le pos
        _ = mantissa * 2 ^ exponent := value.symm
        _ < 2 ^ bits * 2 ^ exponent := by
            refine mul_lt_mul_of_pos_right ?_ (zpow_pos two_pos _)
            exact_mod_cast small
        _ = 2 ^ (bits + exponent) := by
            rw [zpow_add₀ two_ne_zero, zpow_natCast]
    have order := (zpow_lt_zpow_iff_right₀ (one_lt_two (α := R))).mp below
    obtain ⟨shift, exponents⟩ : ∃ shift : ℕ, exponent = Int.log 2 x - (bits - 1) + shift :=
      ⟨(exponent - (Int.log 2 x - (bits - 1))).toNat, by omega⟩
    have steps : x / spacing bits x = ((mantissa * 2 ^ shift : ℤ) : R) := by
      rw [div_eq_iff (spacing_pos bits x).ne']
      calc x = mantissa * 2 ^ exponent := value.symm
        _ = mantissa * (spacing bits x * 2 ^ shift) := by
            rw [exponents, zpow_add₀ two_ne_zero, zpow_natCast, spacing]
        _ = ((mantissa * 2 ^ shift : ℤ) : R) * spacing bits x := by
            push_cast
            ring
    rw [roundTo, steps, nearestEven_intCast, ← steps, div_mul_cancel₀ _ (spacing_pos bits x).ne']

/-- Rounding does not pass a representable number. -/
theorem le_roundTo (positive : 0 < bits) (nonneg : 0 ≤ y) (representable : Representable bits y)
    (le : y ≤ x) : y ≤ roundTo bits x :=
  (roundTo_of_representable representable).symm.le.trans (roundTo_mono positive nonneg le)

theorem roundTo_le (positive : 0 < bits) (nonneg : 0 ≤ x) (representable : Representable bits y)
    (le : x ≤ y) : roundTo bits x ≤ y :=
  (roundTo_mono positive nonneg le).trans (roundTo_of_representable representable).le

end Rounding

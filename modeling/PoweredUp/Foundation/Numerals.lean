import Mathlib.Algebra.Group.Nat.Defs
import Mathlib.Data.List.Basic
import Mathlib.Tactic.Common

/-!
# Numerals of fixed width

The text of a number in a base with a fixed number of digits.  It is what padding
the shortest text gives, it splits at any digit, and two bases write the same
text for the same number only when one digit is enough.
-/

namespace Numerals

/-- The lowest `width` digits of a number, most significant first. -/
def fixedDigits (base : Nat) : (width : Nat) → Nat → List Char
  | 0, _ => []
  | width + 1, value => fixedDigits base width (value / base) ++ [Nat.digitChar (value % base)]

@[simp] theorem length_fixedDigits (base width value : Nat) :
    (fixedDigits base width value).length = width := by
  induction width generalizing value with
  | zero => rfl
  | succ width ih => simp [fixedDigits, ih]

theorem fixedDigits_zero (base width : Nat) :
    fixedDigits base width 0 = List.replicate width '0' := by
  induction width with
  | zero => rfl
  | succ width ih =>
      rw [fixedDigits, Nat.zero_div, Nat.zero_mod, ih, List.replicate_succ']
      rfl

/-- Only the lowest digits of the number are written. -/
theorem fixedDigits_mod (base width value : Nat) :
    fixedDigits base width (value % base ^ width) = fixedDigits base width value := by
  induction width generalizing value with
  | zero => rfl
  | succ width ih =>
      have low : value % base ^ (width + 1) % base = value % base :=
        Nat.mod_mod_of_dvd value (Nat.pow_succ' ▸ Nat.dvd_mul_right base (base ^ width))
      have high : value % base ^ (width + 1) / base = value / base % base ^ width := by
        rw [Nat.pow_succ, Nat.mul_comm, Nat.mod_mul_right_div_self]
      rw [fixedDigits, fixedDigits, low, high, ih]

/-- Leading and trailing digits. -/
theorem fixedDigits_add (base front back value : Nat) :
    fixedDigits base (front + back) value =
      fixedDigits base front (value / base ^ back) ++ fixedDigits base back value := by
  induction back generalizing value with
  | zero => simp [fixedDigits]
  | succ back ih =>
      rw [← Nat.add_assoc, fixedDigits, ih, fixedDigits, Nat.div_div_eq_div_mul,
        Nat.pow_succ, Nat.mul_comm, List.append_assoc]

/-- Fixed-width text has no other characters than digits. -/
theorem notMem_fixedDigits {other : Char} (notDigit : ∀ digit : Fin 16, Nat.digitChar digit ≠ other)
    {base : Nat} (positive : 0 < base) (small : base ≤ 16) (width value : Nat) :
    other ∉ fixedDigits base width value := by
  induction width generalizing value with
  | zero => exact List.not_mem_nil
  | succ width ih =>
      have bound := Nat.mod_lt value positive
      rw [fixedDigits, List.mem_append, List.mem_singleton]
      rintro (front | last)
      · exact ih _ front
      · exact notDigit ⟨value % base, by omega⟩ last.symm

/-- Padded decimal text has no other characters than digits. -/
theorem notMem_leftpad_toDigits {other : Char} (notDigit : other.isDigit = false)
    (width value : Nat) : other ∉ (Nat.toDigits 10 value).leftpad width '0' := by
  rw [List.leftpad, List.mem_append, List.mem_replicate]
  rintro (⟨_, rfl⟩ | membership)
  · cases notDigit
  · have digit := Nat.isDigit_of_mem_toDigits (by decide) (Nat.le_refl 10) membership
    rw [notDigit] at digit
    cases digit

/-- Padding the shortest text of a number gives its text of fixed width. -/
theorem leftpad_toDigits {base width value : Nat} (proper : 1 < base) (positive : 0 < width)
    (bounded : value < base ^ width) :
    (Nat.toDigits base value).leftpad width '0' = fixedDigits base width value := by
  induction width generalizing value with
  | zero => cases positive
  | succ width ih =>
      by_cases single : value < base
      · rw [Nat.toDigits_of_lt_base single, fixedDigits, Nat.div_eq_of_lt single,
          Nat.mod_eq_of_lt single, fixedDigits_zero]
        rfl
      · have large : base ≤ value := Nat.le_of_not_lt single
        have front : value / base < base ^ width := by
          rw [Nat.pow_succ] at bounded
          exact Nat.div_lt_of_lt_mul (Nat.mul_comm _ base ▸ bounded)
        have nonzero : 0 < value / base := Nat.div_pos large (Nat.zero_lt_of_lt proper)
        have widthPositive : 0 < width := by
          cases width with
          | zero =>
              rw [Nat.pow_zero] at front
              omega
          | succ width => exact Nat.succ_pos width
        rw [Nat.toDigits_of_base_le proper large, fixedDigits, ← ih widthPositive front]
        simp [List.leftpad]

/-! ## Reading digits back -/

theorem digitChar_injective {left right : Nat} (leftBound : left < 16) (rightBound : right < 16)
    (equal : Nat.digitChar left = Nat.digitChar right) : left = right := by
  have table : ∀ first second : Fin 16,
      Nat.digitChar first = Nat.digitChar second → first = second := by decide
  exact congrArg Fin.val (table ⟨left, leftBound⟩ ⟨right, rightBound⟩ equal)

/-- In a larger base the same text stands for a number that is no smaller. -/
theorem le_of_fixedDigits_eq {base base' width value value' : Nat} (positive : 0 < base)
    (larger : base < base') (small : base' ≤ 16) (bounded : value < base ^ width)
    (bounded' : value' < base' ^ width)
    (equal : fixedDigits base width value = fixedDigits base' width value') : value ≤ value' := by
  induction width generalizing value value' with
  | zero =>
      rw [Nat.pow_zero] at bounded
      omega
  | succ width ih =>
      rw [fixedDigits, fixedDigits] at equal
      obtain ⟨frontEqual, lastEqual⟩ := List.append_inj equal (by simp)
      rw [Nat.pow_succ] at bounded bounded'
      have front := ih (Nat.div_lt_of_lt_mul (Nat.mul_comm _ base ▸ bounded))
        (Nat.div_lt_of_lt_mul (Nat.mul_comm _ base' ▸ bounded')) frontEqual
      have remainder := Nat.mod_lt value positive
      have remainder' := Nat.mod_lt value' (Nat.zero_lt_of_lt larger)
      have last := digitChar_injective (by omega) (by omega) (List.singleton_inj.mp lastEqual)
      calc value = base * (value / base) + value % base := (Nat.div_add_mod value base).symm
        _ ≤ base' * (value' / base') + value' % base' := by
          rw [last]
          exact Nat.add_le_add_right (Nat.mul_le_mul (Nat.le_of_lt larger) front) _
        _ = value' := Nat.div_add_mod value' base'

/-- Two bases write the same text for the same number exactly when the number is a
digit of the smaller base. -/
theorem fixedDigits_eq_iff {base base' width value : Nat} (positive : 0 < base)
    (larger : base < base') (small : base' ≤ 16) (bounded : value < base ^ (width + 1)) :
    fixedDigits base (width + 1) value = fixedDigits base' (width + 1) value ↔ value < base := by
  have bounded' : value < base' ^ (width + 1) :=
    Nat.lt_of_lt_of_le bounded (Nat.pow_le_pow_left (Nat.le_of_lt larger) _)
  constructor
  · intro equal
    rw [fixedDigits, fixedDigits] at equal
    obtain ⟨frontEqual, lastEqual⟩ := List.append_inj equal (by simp)
    rw [Nat.pow_succ] at bounded bounded'
    have front := le_of_fixedDigits_eq positive larger small
      (Nat.div_lt_of_lt_mul (Nat.mul_comm _ base ▸ bounded))
      (Nat.div_lt_of_lt_mul (Nat.mul_comm _ base' ▸ bounded')) frontEqual
    have remainder := Nat.mod_lt value positive
    have remainder' := Nat.mod_lt value (Nat.zero_lt_of_lt larger)
    have last := digitChar_injective (by omega) (by omega) (List.singleton_inj.mp lastEqual)
    have split := Nat.div_add_mod value base
    have split' := Nat.div_add_mod value base'
    have same : base * (value / base) = base' * (value / base') := by omega
    by_contra large
    have quotient : 0 < value / base' := by
      have nonzero : 0 < value / base := Nat.div_pos (Nat.le_of_not_lt large) positive
      omega
    have less : base * (value / base) < base' * (value / base') :=
      Nat.lt_of_le_of_lt (Nat.mul_le_mul_left base front)
        (Nat.mul_lt_mul_of_pos_right larger quotient)
    omega
  · intro single
    have single' : value < base' := Nat.lt_trans single larger
    rw [fixedDigits, fixedDigits, Nat.div_eq_of_lt single, Nat.div_eq_of_lt single',
      Nat.mod_eq_of_lt single, Nat.mod_eq_of_lt single', fixedDigits_zero, fixedDigits_zero]

/-- A padded text is the text of the same width in a larger base exactly when the
number is a digit. -/
theorem leftpad_toDigits_eq_iff {base base' width value : Nat} (proper : 1 < base)
    (larger : base < base') (small : base' ≤ 16) :
    (Nat.toDigits base value).leftpad (width + 1) '0' = fixedDigits base' (width + 1) value ↔
      value < base := by
  have positive : 0 < base := Nat.zero_lt_of_lt proper
  constructor
  · intro equal
    have short : (Nat.toDigits base value).length ≤ width + 1 := by
      have lengths := congrArg List.length equal
      simp only [List.length_leftpad, length_fixedDigits] at lengths
      omega
    have bounded := (Nat.length_toDigits_le_iff proper (Nat.succ_pos width)).mp short
    rw [leftpad_toDigits proper (Nat.succ_pos width) bounded] at equal
    exact (fixedDigits_eq_iff positive larger small bounded).mp equal
  · intro single
    have bounded : value < base ^ (width + 1) :=
      Nat.lt_of_lt_of_le single (Nat.le_self_pow (Nat.succ_ne_zero width) base)
    rw [leftpad_toDigits proper (Nat.succ_pos width) bounded]
    exact (fixedDigits_eq_iff positive larger small bounded).mpr single

/-- The shortest text needs no padding to one digit. -/
theorem leftpad_one_toDigits (base value : Nat) :
    (Nat.toDigits base value).leftpad 1 '0' = Nat.toDigits base value := by
  have nonempty : 0 < (Nat.toDigits base value).length := Nat.length_toDigits_pos
  have none : 1 - (Nat.toDigits base value).length = 0 := by omega
  rw [List.leftpad, none]
  rfl

/-- Texts that are joined by a separator can be read apart. -/
theorem append_separator_inj {α : Type} {separator : α} {left left' right right' : List α}
    (absent : separator ∉ left) (absent' : separator ∉ left') :
    left ++ separator :: right = left' ++ separator :: right' ↔ left = left' ∧ right = right' := by
  induction left generalizing left' with
  | nil =>
      cases left' with
      | nil => simp
      | cons first rest =>
          have different : separator ≠ first := fun same => absent' (same ▸ List.mem_cons_self)
          simp [different]
  | cons first rest ih =>
      cases left' with
      | nil =>
          have different : first ≠ separator := fun same => absent (same ▸ List.mem_cons_self)
          simp [different]
      | cons first' rest' =>
          have restIff := ih (fun membership => absent (List.mem_cons_of_mem _ membership))
            (fun membership => absent' (List.mem_cons_of_mem _ membership))
          rw [List.cons_append, List.cons_append, List.cons.injEq, List.cons.injEq, restIff,
            and_assoc]

end Numerals

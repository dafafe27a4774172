import Mathlib.Data.List.Basic
import Mathlib.Tactic.Common

/-!
# Text compared loosely

Two texts that are compared without a separator and without regard to the case of
ASCII letters are compared by a key.  The key is not changed by writing or leaving
out separators or by changing case.
-/

namespace Text

/-- Every occurrence of a character replaced. -/
def replace (text : String) (pattern : Char) (replacement : String) : String :=
  String.ofList (text.toList.flatMap fun c => if c = pattern then replacement.toList else [c])

/-- Equality up to the case of ASCII letters. -/
def eqIgnoreAsciiCase (left right : String) : Bool :=
  left.toList.map Char.toLower == right.toList.map Char.toLower

/-- A text without its separators, in lower case. -/
def key (separator : Char) (text : List Char) : List Char :=
  (text.filter (· ≠ separator)).map Char.toLower

theorem key_separator (separator : Char) (text : List Char) :
    key separator (separator :: text) = key separator text := by
  rw [key, List.filter_cons_of_neg (by simp), key]

theorem key_cons {separator c : Char} (other : c ≠ separator) (text : List Char) :
    key separator (c :: text) = c.toLower :: key separator text := by
  rw [key, List.filter_cons_of_pos (by simpa using other), List.map_cons, key]

theorem toList_replace_empty (text : String) (separator : Char) :
    (replace text separator "").toList = text.toList.filter (· ≠ separator) := by
  rw [replace, String.toList_ofList]
  induction text.toList with
  | nil => rfl
  | cons c text ih =>
      rw [List.flatMap_cons, ih]
      by_cases same : c = separator
      · simp [same]
      · simp [same]

/-- Comparing without separators and case is comparing keys. -/
theorem eqIgnoreAsciiCase_replace (separator : Char) (left right : String) :
    eqIgnoreAsciiCase (replace left separator "") (replace right separator "") = true ↔
      key separator left.toList = key separator right.toList := by
  rw [eqIgnoreAsciiCase, toList_replace_empty, toList_replace_empty, beq_iff_eq]
  rfl

/-- The same text up to separators and case. -/
inductive Respelled (separator : Char) : List Char → List Char → Prop where
  | nil : Respelled separator [] []
  | cons {c c' : Char} {left right : List Char} (same : c.toLower = c'.toLower)
      (rest : Respelled separator left right) : Respelled separator (c :: left) (c' :: right)
  | removed {left right : List Char} (rest : Respelled separator left right) :
      Respelled separator (separator :: left) right
  | inserted {left right : List Char} (rest : Respelled separator left right) :
      Respelled separator left (separator :: right)

/-- Respelling keeps the key, given a separator without case. -/
theorem Respelled.key_eq {separator : Char}
    (caseless : ∀ c : Char, c.toLower = separator.toLower → c = separator)
    {left right : List Char} (respelled : Respelled separator left right) :
    key separator left = key separator right := by
  induction respelled with
  | nil => rfl
  | @cons c c' left right same rest ih =>
      by_cases isSeparator : c = separator
      · obtain rfl : c' = separator := caseless c' (by rw [← same, isSeparator])
        rw [isSeparator, key_separator, key_separator, ih]
      · have other : c' ≠ separator := by
          intro equal
          exact isSeparator (caseless c (by rw [same, equal]))
        rw [key_cons isSeparator, key_cons other, ih, same]
  | removed rest ih => rw [key_separator, ih]
  | inserted rest ih => rw [key_separator, ih]

/-- A dash has no case. -/
theorem dash_caseless (c : Char) (lower : c.toLower = '-'.toLower) : c = '-' := by
  by_cases upper : c.val ≥ 'A'.val ∧ c.val ≤ 'Z'.val
  · have lowest : 65 ≤ c.val.toNat := UInt32.le_iff_toNat_le.mp upper.1
    have highest : c.val.toNat ≤ 90 := UInt32.le_iff_toNat_le.mp upper.2
    have shifted : c.toLower.val = c.val + 32 := congrArg Char.val (dif_pos upper)
    have sum : (c.val.toNat + 32) % 2 ^ 32 = 45 := by
      rw [lower] at shifted
      exact (UInt32.toNat_add c.val 32).symm.trans (congrArg UInt32.toNat shifted.symm)
    omega
  · have unchanged : c.toLower = c := dif_neg upper
    rw [← unchanged, lower]
    decide

end Text

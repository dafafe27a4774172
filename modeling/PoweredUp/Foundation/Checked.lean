import Mathlib.Algebra.Group.Int.Defs
import Mathlib.Algebra.Group.Nat.Defs
import Mathlib.Data.List.Basic
import Mathlib.Tactic.Common

/-!
# Code that can panic

Compiled Rust either returns a value or panics.  `Checked` keeps the two apart
from the `Result` values that a program handles itself: a function returning
`Result<T>` becomes a `Checked (Except ε T)`, so an `Err` is an ordinary value
and a panic is not.

The primitives below panic exactly where the language does: indexing, range
slicing and overflowing integer arithmetic.
-/

namespace Rust

universe u v

/-- Why a program panics. -/
inductive Panic where
  | indexOutOfBounds
  | rangeOutOfBounds
  | arithmeticOverflow
  deriving DecidableEq, Repr

/-- The outcome of running code that may panic. -/
inductive Checked (α : Type u) where
  | ret (value : α)
  | panic (reason : Panic)
  deriving DecidableEq, Repr

namespace Checked

variable {α : Type u} {β : Type v}

/-- Sequencing stops at the first panic. -/
def bind (first : Checked α) (next : α → Checked β) : Checked β :=
  match first with
  | .ret value => next value
  | .panic reason => .panic reason

instance : Monad Checked where
  pure := .ret
  bind := Checked.bind

@[simp] theorem pure_eq_ret (value : α) : (pure value : Checked α) = .ret value := rfl

@[simp] theorem ret_bind {β : Type u} (value : α) (next : α → Checked β) :
    (.ret value : Checked α) >>= next = next value := rfl

@[simp] theorem panic_bind {β : Type u} (reason : Panic) (next : α → Checked β) :
    (.panic reason : Checked α) >>= next = .panic reason := rfl

instance : LawfulMonad Checked := LawfulMonad.mk' Checked
  (fun outcome => by cases outcome <;> rfl)
  (fun _ _ => rfl)
  (fun outcome _ _ => by cases outcome <;> rfl)

/-- A returning sequence returns at both steps. -/
theorem bind_eq_ret {β : Type u} {first : Checked α} {next : α → Checked β} {result : β} :
    first >>= next = .ret result ↔
      ∃ value, first = .ret value ∧ next value = .ret result := by
  cases first with
  | ret value => simp
  | panic reason => simp

/-- The code returns, whatever the value. -/
def Returns (outcome : Checked α) : Prop :=
  ∃ value, outcome = .ret value

@[simp] theorem returns_ret (value : α) : Returns (.ret value) := ⟨value, rfl⟩

@[simp] theorem not_returns_panic (reason : Panic) :
    ¬Returns (.panic reason : Checked α) := by
  rintro ⟨value, equality⟩
  cases equality

instance : DecidablePred (@Returns α)
  | .ret value => isTrue ⟨value, rfl⟩
  | .panic reason => isFalse (not_returns_panic reason)

/-- A sequence returns when its first step does and every continuation from
the value reached does. -/
theorem returns_bind {β : Type u} {first : Checked α} {next : α → Checked β} :
    (first >>= next).Returns ↔ ∃ value, first = .ret value ∧ (next value).Returns := by
  cases first with
  | ret value => simp
  | panic reason => simp

end Checked

/-! ## `Result` values -/

section Results

variable {α β : Type u} {ε : Type v}

/-- The `?` operator: an `Err` ends the surrounding function. -/
def propagate (result : Except ε α) (next : α → Checked (Except ε β)) :
    Checked (Except ε β) :=
  match result with
  | .ok value => next value
  | .error error => .ret (.error error)

@[simp] theorem propagate_ok (value : α) (next : α → Checked (Except ε β)) :
    propagate (.ok value) next = next value := rfl

@[simp] theorem propagate_error (error : ε) (next : α → Checked (Except ε β)) :
    propagate (.error error) next = .ret (.error error) := rfl

theorem propagate_returns {result : Except ε α} {next : α → Checked (Except ε β)}
    (continues : ∀ value, result = .ok value → (next value).Returns) :
    (propagate result next).Returns := by
  cases result with
  | ok value => exact continues value rfl
  | error error => exact Checked.returns_ret _

theorem propagate_eq_ok {result : Except ε α} {next : α → Checked (Except ε β)} {final : β} :
    propagate result next = .ret (.ok final) ↔
      ∃ value, result = .ok value ∧ next value = .ret (.ok final) := by
  cases result with
  | ok value => simp
  | error error => simp

/-- `iter.map(f).collect::<Result<Vec<_>>>()`: stops at the first `Err`. -/
def collectResult (f : α → Checked (Except ε β)) : List α → Checked (Except ε (List β))
  | [] => .ret (.ok [])
  | item :: items => do
      match ← f item with
      | .error error => return .error error
      | .ok value =>
          match ← collectResult f items with
          | .error error => return .error error
          | .ok values => return .ok (value :: values)

theorem collectResult_returns {f : α → Checked (Except ε β)} {items : List α}
    (each : ∀ item ∈ items, (f item).Returns) : (collectResult f items).Returns := by
  induction items with
  | nil => exact Checked.returns_ret _
  | cons item items ih =>
      obtain ⟨outcome, called⟩ := each item (by simp)
      obtain ⟨rest, remaining⟩ := ih fun later membership => each later (by simp [membership])
      simp only [collectResult, called, remaining, Checked.ret_bind]
      cases outcome with
      | error error => exact Checked.returns_ret _
      | ok value => cases rest <;> exact Checked.returns_ret _

theorem collectResult_cons_eq_ok {f : α → Checked (Except ε β)} {item : α} {items : List α}
    {values : List β} :
    collectResult f (item :: items) = .ret (.ok values) ↔
      ∃ value rest, f item = .ret (.ok value) ∧ collectResult f items = .ret (.ok rest) ∧
        values = value :: rest := by
  rw [collectResult]
  constructor
  · intro collected
    obtain ⟨outcome, called, continues⟩ := Checked.bind_eq_ret.mp collected
    cases outcome with
    | error error => cases continues
    | ok value =>
        obtain ⟨remaining, rest, ends⟩ := Checked.bind_eq_ret.mp continues
        cases remaining with
        | error error => cases ends
        | ok collectedRest =>
            cases ends
            exact ⟨value, collectedRest, called, rest, rfl⟩
  · rintro ⟨value, rest, called, remaining, rfl⟩
    rw [called, Checked.ret_bind, remaining]
    rfl

end Results

/-! ## Slices -/

section Slices

variable {α : Type u}

/-- `values[position]`. -/
def index (values : List α) (position : Nat) : Checked α :=
  match values[position]? with
  | some value => .ret value
  | none => .panic .indexOutOfBounds

/-- `values[start..stop]`. -/
def slice (values : List α) (start stop : Nat) : Checked (List α) :=
  if start ≤ stop ∧ stop ≤ values.length then
    .ret ((values.take stop).drop start)
  else
    .panic .rangeOutOfBounds

/-- `values[start..]`. -/
def sliceFrom (values : List α) (start : Nat) : Checked (List α) :=
  slice values start values.length

/-- `values.split_to(count)`: the first `count` elements and the remaining
ones. -/
def splitTo (values : List α) (count : Nat) : Checked (List α × List α) :=
  if count ≤ values.length then
    .ret (values.take count, values.drop count)
  else
    .panic .rangeOutOfBounds

@[simp] theorem index_cons_zero (value : α) (rest : List α) :
    index (value :: rest) 0 = .ret value := rfl

@[simp] theorem index_cons_succ (value : α) (rest : List α) (position : Nat) :
    index (value :: rest) (position + 1) = index rest position := rfl

@[simp] theorem sliceFrom_zero (values : List α) : sliceFrom values 0 = .ret values := by
  simp [sliceFrom, slice]

@[simp] theorem sliceFrom_cons_succ (value : α) (rest : List α) (start : Nat) :
    sliceFrom (value :: rest) (start + 1) = sliceFrom rest start := by
  simp [sliceFrom, slice]

theorem index_eq_ret {values : List α} {position : Nat} (inBounds : position < values.length) :
    index values position = .ret values[position] := by
  simp [index, inBounds]

theorem slice_eq_ret {values : List α} {start stop : Nat} (ordered : start ≤ stop)
    (inBounds : stop ≤ values.length) :
    slice values start stop = .ret ((values.take stop).drop start) := by
  simp [slice, ordered, inBounds]

theorem sliceFrom_eq_ret {values : List α} {start : Nat} (inBounds : start ≤ values.length) :
    sliceFrom values start = .ret (values.drop start) := by
  simp [sliceFrom, slice, inBounds]

theorem splitTo_eq_ret {values : List α} {count : Nat} (inBounds : count ≤ values.length) :
    splitTo values count = .ret (values.take count, values.drop count) := by
  simp [splitTo, inBounds]

end Slices

/-! ## Integer arithmetic -/

/-- A fixed-width integer type, given by its range. -/
structure IntType where
  min : Int
  max : Int

namespace IntType

def i32 : IntType := ⟨-2 ^ 31, 2 ^ 31 - 1⟩
def u32 : IntType := ⟨0, 2 ^ 32 - 1⟩

/-- The result of an arithmetic operation of the type, or an overflow. -/
def fit (type : IntType) (value : Int) : Checked Int :=
  if type.min ≤ value ∧ value ≤ type.max then .ret value else .panic .arithmeticOverflow

theorem fit_eq_ret {type : IntType} {value : Int} (lower : type.min ≤ value)
    (upper : value ≤ type.max) : type.fit value = .ret value := by
  simp [fit, lower, upper]

end IntType

end Rust

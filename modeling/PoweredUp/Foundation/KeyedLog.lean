import Mathlib.Data.List.Induction
import Mathlib.Logic.Function.Basic
import Mathlib.Tactic.Common

/-!
# Keyed logs

A store gives every key a slot.  An event is addressed to at most one key; it
inserts a value, removes it, or adjusts a setting of the value in place, where a
later setting replaces an earlier one.  The slot of a key after a log is then
decided by the last insertion or removal for this key and the last setting after
it, and events for different keys commute.  A register is a single slot that holds
what was written last.
-/

namespace KeyedLog

universe u v w x

/-- The last event of a log that a function picks. -/
theorem exists_last_picked {ε : Type u} {π : Type v} {pick : ε → Option π} {log : List ε}
    {last : π} (found : (log.filterMap pick).getLast? = some last) :
    ∃ before event after, log = before ++ event :: after ∧ pick event = some last ∧
      ∀ later ∈ after, pick later = none := by
  induction log with
  | nil => cases found
  | cons first log ih =>
      cases picked : pick first with
      | none =>
          rw [List.filterMap_cons_none picked] at found
          obtain ⟨before, event, after, rfl, isLast, none⟩ := ih found
          exact ⟨first :: before, event, after, rfl, isLast, none⟩
      | some value =>
          rw [List.filterMap_cons_some picked, List.getLast?_cons] at found
          cases rest : (log.filterMap pick).getLast? with
          | none =>
              rw [rest] at found
              cases found
              have none := List.filterMap_eq_nil_iff.mp (List.getLast?_eq_none_iff.mp rest)
              exact ⟨[], first, log, rfl, picked, none⟩
          | some later =>
              rw [rest] at found
              cases found
              obtain ⟨before, event, after, rfl, isLast, none⟩ := ih rest
              exact ⟨first :: before, event, after, rfl, isLast, none⟩

/-- A register keeps what was last written to it. -/
theorem foldl_register {σ : Type u} {ε : Type v} {π : Type w} {ν : Type x} {step : σ → ε → σ}
    {get : σ → ν} {pick : ε → Option π} {value : π → ν}
    (writes : ∀ state event, get (step state event) = (pick event).elim (get state) value)
    (log : List ε) (start : σ) :
    get (log.foldl step start) = ((log.filterMap pick).getLast?).elim (get start) value := by
  induction log generalizing start with
  | nil => rfl
  | cons event log ih =>
      rw [List.foldl_cons, ih, writes]
      cases picked : pick event with
      | none => rw [List.filterMap_cons_none picked, Option.elim_none]
      | some written =>
          rw [List.filterMap_cons_some picked, List.getLast?_cons]
          cases (log.filterMap pick).getLast? <;> rfl

/-- Replacing events changes no state of a run exactly when every replacement does
what the event would have done where it stands. -/
theorem foldl_map_iff {σ : Type u} {ε : Type v} (step : σ → ε → σ) (replace : ε → ε)
    (start : σ) (log : List ε) :
    (∀ shorter, shorter <+: log →
      shorter.foldl step start = (shorter.map replace).foldl step start) ↔
    ∀ before event after, log = before ++ event :: after →
      step (before.foldl step start) event = step (before.foldl step start) (replace event) := by
  constructor
  · rintro same before event after rfl
    have first := same before (List.prefix_append before _)
    have second := same (before ++ [event]) ⟨after, by simp⟩
    rw [List.map_append, List.foldl_append, List.foldl_append, ← first] at second
    exact second
  · intro agrees shorter isPrefix
    induction shorter using List.reverseRecOn with
    | nil => rfl
    | append_singleton before event ih =>
        obtain ⟨after, split⟩ := isPrefix
        have front : before <+: log := ⟨event :: after, by rw [← split]; simp⟩
        have agree := agrees before event after (by rw [← split]; simp)
        rw [List.map_append, List.foldl_append, List.foldl_append, ← ih front]
        exact agree

/-- What an event does to the slot of its key. -/
inductive Action (ν : Type v) (μ : Type w) where
  | insert (value : ν)
  | remove
  | adjust (setting : μ)

/-- The reading of events `ε` as actions on the slots of keys `κ`. -/
structure Reading (ε : Type u) (κ : Type x) (ν : Type v) (μ : Type w) where
  /-- The key and the action of an event, if it has any. -/
  action : ε → Option (κ × Action ν μ)
  /-- Adjust a setting of a stored value. -/
  set : ν → μ → ν
  set_set : ∀ value setting setting', set (set value setting) setting' = set value setting'

namespace Reading

variable {ε : Type u} {κ : Type x} {ν : Type v} {μ : Type w}
variable (reading : Reading ε κ ν μ)

/-- The slot after an action. -/
def run : Action ν μ → Option ν → Option ν
  | .insert value, _ => some value
  | .remove, _ => none
  | .adjust setting, slot => slot.map (reading.set · setting)

variable [DecidableEq κ]

/-- The store after an event. -/
def apply (store : κ → Option ν) (event : ε) : κ → Option ν :=
  match reading.action event with
  | none => store
  | some (key, action) => Function.update store key (reading.run action (store key))

/-- The store after a log. -/
def replay (store : κ → Option ν) (log : List ε) : κ → Option ν :=
  log.foldl reading.apply store

/-- The slot that an event puts in place of the old one of a key. -/
def overwrite (key : κ) (event : ε) : Option (Option ν) :=
  match reading.action event with
  | some (addressed, .insert value) => if addressed = key then some (some value) else none
  | some (addressed, .remove) => if addressed = key then some none else none
  | _ => none

/-- The setting that an event adjusts at a key. -/
def setting (key : κ) (event : ε) : Option μ :=
  match reading.action event with
  | some (addressed, .adjust setting) => if addressed = key then some setting else none
  | _ => none

/-- The last setting of a log is the one in effect. -/
def adjusted (key : κ) (log : List ε) (value : ν) : ν :=
  match (log.filterMap (reading.setting key)).getLast? with
  | some setting => reading.set value setting
  | none => value

/-- A later setting hides an earlier one. -/
theorem adjusted_cons (key : κ) (event : ε) (log : List ε) (value : ν) :
    reading.adjusted key (event :: log) value =
      reading.adjusted key log
        (match reading.setting key event with
          | some setting => reading.set value setting
          | none => value) := by
  unfold adjusted
  cases changed : reading.setting key event with
  | none => rw [List.filterMap_cons_none changed]
  | some setting =>
      rw [List.filterMap_cons_some changed, List.getLast?_cons]
      cases (log.filterMap (reading.setting key)).getLast? with
      | none => rfl
      | some later => exact (reading.set_set value setting later).symm

/-- One slot after one event. -/
theorem apply_at (store : κ → Option ν) (event : ε) (key : κ) :
    reading.apply store event key =
      match reading.overwrite key event with
      | some slot => slot
      | none =>
          match reading.setting key event with
          | some setting => (store key).map (reading.set · setting)
          | none => store key := by
  unfold apply overwrite setting
  cases reading.action event with
  | none => rfl
  | some addressed =>
      obtain ⟨target, action⟩ := addressed
      by_cases same : target = key
      · subst same
        cases action <;> simp [run]
      · cases action <;> simp [same, Function.update_of_ne (Ne.symm same)]

/-- An event changes no slot but the one of its key. -/
theorem apply_other {event : ε} {key : κ}
    (elsewhere : ∀ addressed ∈ reading.action event, addressed.1 ≠ key) (store : κ → Option ν) :
    reading.apply store event key = store key := by
  unfold apply
  cases read : reading.action event with
  | none => rfl
  | some addressed =>
      exact Function.update_of_ne (Ne.symm (elsewhere addressed (by simp [read]))) _ _

/-- Events for different keys commute. -/
theorem apply_comm {left right : ε}
    (different : ∀ first ∈ reading.action left, ∀ second ∈ reading.action right,
      first.1 ≠ second.1) (store : κ → Option ν) :
    reading.apply (reading.apply store left) right =
      reading.apply (reading.apply store right) left := by
  unfold apply
  cases readLeft : reading.action left with
  | none => rfl
  | some first =>
      cases readRight : reading.action right with
      | none => rfl
      | some second =>
          have apart := different first (by simp [readLeft]) second (by simp [readRight])
          simp only [Function.update_of_ne apart, Function.update_of_ne (Ne.symm apart)]
          exact Function.update_comm apart _ _ store

/-! ## Replay -/

theorem replay_append (store : κ → Option ν) (front back : List ε) :
    reading.replay store (front ++ back) = reading.replay (reading.replay store front) back :=
  List.foldl_append

/-- Without insertions and removals the slot keeps its value, up to the last
setting. -/
theorem replay_adjusted {key : κ} {log : List ε}
    (inPlace : ∀ event ∈ log, reading.overwrite key event = none) (store : κ → Option ν) :
    reading.replay store log key = (store key).map (reading.adjusted key log) := by
  induction log generalizing store with
  | nil => cases found : store key <;> simp [replay, found, adjusted]
  | cons event log ih =>
      have step := reading.apply_at store event key
      rw [inPlace event (by simp)] at step
      have rest := ih (fun later membership => inPlace later (by simp [membership]))
        (reading.apply store event)
      simp only [replay, List.foldl_cons] at rest ⊢
      rw [rest, step]
      cases changed : reading.setting key event with
      | none =>
          congr 1
          funext value
          rw [reading.adjusted_cons, changed]
      | some setting =>
          simp only [Option.map_map]
          congr 1
          funext value
          rw [reading.adjusted_cons, changed]
          rfl

/-- The last insertion or removal decides the slot. -/
theorem replay_overwrite {key : κ} {event : ε} {slot : Option ν} {after : List ε}
    (overwritten : reading.overwrite key event = some slot)
    (last : ∀ later ∈ after, reading.overwrite key later = none)
    (before : List ε) (store : κ → Option ν) :
    reading.replay store (before ++ event :: after) key = slot.map (reading.adjusted key after) := by
  have step := reading.apply_at (reading.replay store before) event key
  rw [overwritten] at step
  rw [replay_append]
  exact (reading.replay_adjusted last _).trans (congrArg _ step)

/-- A log has a last insertion or removal for a key, or none at all. -/
theorem last_overwrite (key : κ) (log : List ε) :
    (∀ event ∈ log, reading.overwrite key event = none) ∨
      ∃ before event after slot, log = before ++ event :: after ∧
        reading.overwrite key event = some slot ∧
          ∀ later ∈ after, reading.overwrite key later = none := by
  induction log with
  | nil => exact .inl (by simp)
  | cons first log ih =>
      rcases ih with untouched | ⟨before, event, after, slot, rfl, overwritten, last⟩
      · cases found : reading.overwrite key first with
        | none => exact .inl (by simpa [found] using untouched)
        | some slot => exact .inr ⟨[], first, log, slot, rfl, found, untouched⟩
      · exact .inr ⟨first :: before, event, after, slot, rfl, overwritten, last⟩

/-- Starting from an empty slot, the slot is filled exactly when the last
insertion or removal is an insertion. -/
theorem isSome_replay_iff {key : κ} {store : κ → Option ν} (empty : store key = none)
    (log : List ε) :
    (reading.replay store log key).isSome ↔
      ∃ before event after value, log = before ++ event :: after ∧
        reading.overwrite key event = some (some value) ∧
          ∀ later ∈ after, reading.overwrite key later = none := by
  constructor
  · intro filled
    rcases reading.last_overwrite key log with untouched | ⟨before, event, after, slot, rfl, found⟩
    · rw [reading.replay_adjusted untouched, empty] at filled
      cases filled
    · rw [reading.replay_overwrite found.1 found.2] at filled
      cases slot with
      | none => cases filled
      | some value => exact ⟨before, event, after, value, rfl, found⟩
  · rintro ⟨before, event, after, value, rfl, overwritten, last⟩
    rw [reading.replay_overwrite overwritten last]
    rfl

end Reading

end KeyedLog

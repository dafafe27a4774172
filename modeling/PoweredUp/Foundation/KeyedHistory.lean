import Mathlib.Data.Finset.Card
import Mathlib.Data.List.Nodup
import PoweredUp.Foundation.KeyedLog

/-!
# The history of a keyed log

Which events of a log its store depends on.  A slot depends on the events for its key
alone, so a log may be interleaved in any way that keeps the order for every key; and
an event that a later one hides can be left out.
-/

namespace KeyedLog

namespace Reading

universe u v w x

variable {ε : Type u} {κ : Type x} {ν : Type v} {μ : Type w} [DecidableEq κ]
variable (reading : Reading ε κ ν μ)

/-! ## The events for a key -/

/-- An event acts on the slot of a key. -/
def touches (key : κ) (event : ε) : Bool :=
  (reading.overwrite key event).isSome || (reading.setting key event).isSome

theorem action_of_touches {key : κ} {event : ε} (touched : reading.touches key event = true) :
    ∃ action, reading.action event = some (key, action) := by
  unfold touches overwrite setting at touched
  rcases act : reading.action event with _ | ⟨target, action⟩
  · simp [act] at touched
  · by_cases same : target = key
    · exact ⟨action, by rw [same]⟩
    · cases action <;> simp [act, same] at touched

/-- The slot after an event depends on the slot before it. -/
theorem apply_congr {key : κ} {store store' : κ → Option ν} (same : store key = store' key)
    (event : ε) : reading.apply store event key = reading.apply store' event key := by
  rw [reading.apply_at, reading.apply_at, same]

theorem apply_untouched {key : κ} {event : ε} (untouched : reading.touches key event = false)
    (store : κ → Option ν) : reading.apply store event key = store key := by
  obtain ⟨overwrites, sets⟩ := Bool.or_eq_false_iff.mp untouched
  rw [reading.apply_at, Option.isSome_eq_false_iff.mp overwrites |> Option.isNone_iff_eq_none.mp,
    Option.isSome_eq_false_iff.mp sets |> Option.isNone_iff_eq_none.mp]

theorem replay_congr_store {key : κ} {store store' : κ → Option ν} (same : store key = store' key)
    (log : List ε) : reading.replay store log key = reading.replay store' log key := by
  induction log generalizing store store' with
  | nil => exact same
  | cons event log ih => exact ih (reading.apply_congr same event)

/-- The slot of a key depends on the events for this key. -/
theorem replay_filter (key : κ) (store : κ → Option ν) (log : List ε) :
    reading.replay store (log.filter (reading.touches key)) key = reading.replay store log key := by
  induction log generalizing store with
  | nil => rfl
  | cons event log ih =>
      cases touched : reading.touches key event with
      | true =>
          rw [List.filter_cons_of_pos touched]
          exact ih (reading.apply store event)
      | false =>
          rw [List.filter_cons_of_neg (by simp [touched]), ih]
          exact reading.replay_congr_store (reading.apply_untouched touched store).symm log

/-- Logs with the same events for every key lead to the same store. -/
theorem replay_congr {log log' : List ε}
    (same : ∀ key, log.filter (reading.touches key) = log'.filter (reading.touches key))
    (store : κ → Option ν) : reading.replay store log = reading.replay store log' := by
  funext key
  rw [← reading.replay_filter key store log, same, reading.replay_filter]

/-! ## Hidden events -/

/-- Later events hide what an event does. -/
def hidden (event : ε) (later : List ε) : Bool :=
  match reading.action event with
  | none => true
  | some (key, .adjust _) => later.any (reading.touches key)
  | some (key, _) => later.any fun event => (reading.overwrite key event).isSome

/-- Leave out the hidden events. -/
def compact : List ε → List ε
  | [] => []
  | event :: log => if reading.hidden event log then compact log else event :: compact log

theorem compact_sublist (log : List ε) : (reading.compact log).Sublist log := by
  induction log with
  | nil => exact .refl _
  | cons event log ih =>
      rw [compact]
      split
      · exact ih.cons event
      · exact ih.cons_cons event

/-- After an insertion or a removal, the slot does not depend on the past. -/
theorem replay_overwritten {key : κ} {log : List ε}
    (overwritten : (log.any fun event => (reading.overwrite key event).isSome) = true)
    (store store' : κ → Option ν) :
    reading.replay store log key = reading.replay store' log key := by
  rcases reading.last_overwrite key log with untouched | ⟨before, event, after, slot, rfl, found⟩
  · obtain ⟨event, member, overwrites⟩ := List.any_eq_true.mp overwritten
    rw [untouched event member] at overwrites
    cases overwrites
  · rw [reading.replay_overwrite found.1 found.2, reading.replay_overwrite found.1 found.2]

/-- After a setting, the slot does not depend on earlier settings. -/
theorem adjusted_set {key : κ} {log : List ε}
    (sets : (log.any fun event => (reading.setting key event).isSome) = true) (value : ν)
    (setting : μ) :
    reading.adjusted key log (reading.set value setting) = reading.adjusted key log value := by
  obtain ⟨event, member, isSet⟩ := List.any_eq_true.mp sets
  obtain ⟨last, found⟩ := Option.isSome_iff_exists.mp isSet
  have nonempty : log.filterMap (reading.setting key) ≠ [] :=
    List.ne_nil_of_mem (List.mem_filterMap.mpr ⟨event, member, found⟩)
  rw [adjusted, adjusted, List.getLast?_eq_some_getLast nonempty]
  exact reading.set_set value setting _

/-- A hidden setting makes no difference. -/
theorem replay_hidden_setting {key : κ} {setting : μ} {later : List ε}
    (isHidden : later.any (reading.touches key) = true) {store store' : κ → Option ν}
    (adjusts : store' key = (store key).map (reading.set · setting)) :
    reading.replay store' later key = reading.replay store later key := by
  cases overwritten : later.any fun event => (reading.overwrite key event).isSome with
  | true => exact reading.replay_overwritten overwritten store' store
  | false =>
      have inPlace : ∀ event ∈ later, reading.overwrite key event = none := by
        simpa using overwritten
      have sets : (later.any fun event => (reading.setting key event).isSome) = true := by
        obtain ⟨event, member, touched⟩ := List.any_eq_true.mp isHidden
        rw [touches, inPlace event member] at touched
        exact List.any_eq_true.mpr ⟨event, member, touched⟩
      rw [reading.replay_adjusted inPlace, reading.replay_adjusted inPlace, adjusts, Option.map_map]
      congr 1
      funext value
      exact reading.adjusted_set sets value setting

/-- A hidden event makes no difference. -/
theorem replay_hidden {event : ε} {later : List ε} (isHidden : reading.hidden event later = true)
    (store : κ → Option ν) :
    reading.replay (reading.apply store event) later = reading.replay store later := by
  unfold hidden at isHidden
  cases act : reading.action event with
  | none =>
      have unchanged : reading.apply store event = store := by rw [apply, act]
      rw [unchanged]
  | some addressed =>
      obtain ⟨target, action⟩ := addressed
      funext key
      by_cases same : target = key
      · subst same
        rw [act] at isHidden
        cases action with
        | insert value => exact reading.replay_overwritten isHidden _ _
        | remove => exact reading.replay_overwritten isHidden _ _
        | adjust setting =>
            have adjusts : reading.apply store event target =
                (store target).map (reading.set · setting) := by
              rw [apply, act]
              exact Function.update_self target _ store
            exact reading.replay_hidden_setting isHidden adjusts
      · refine reading.replay_congr_store (reading.apply_other ?_ store) later
        rw [act]
        rintro _ ⟨⟩
        exact same

/-- Without the hidden events the store is the same. -/
theorem replay_compact (log : List ε) (store : κ → Option ν) :
    reading.replay store (reading.compact log) = reading.replay store log := by
  induction log generalizing store with
  | nil => rfl
  | cons event log ih =>
      rw [compact]
      split
      · rename_i isHidden
        exact (ih store).trans (reading.replay_hidden isHidden store).symm
      · exact ih (reading.apply store event)

/-- The key of an event, and whether it adjusts a setting. -/
def tag (event : ε) : Option (κ × Bool) :=
  (reading.action event).map fun addressed =>
    match addressed with
    | (key, .adjust _) => (key, true)
    | (key, _) => (key, false)

/-- An event is hidden by a later one with the same tag. -/
theorem hidden_of_tag {event other : ε} {later : List ε} (member : other ∈ later)
    (same : reading.tag event = reading.tag other) : reading.hidden event later = true := by
  unfold hidden
  cases act : reading.action event with
  | none => rfl
  | some addressed =>
      obtain ⟨key, action⟩ := addressed
      rw [tag, act, Option.map_some] at same
      obtain ⟨⟨key', action'⟩, act', tags⟩ := Option.map_eq_some_iff.mp same.symm
      cases action with
      | adjust setting =>
          cases action' <;> cases tags
          refine List.any_eq_true.mpr ⟨other, member, ?_⟩
          simp [touches, KeyedLog.Reading.setting, act']
      | _ =>
          cases action' <;> cases tags <;>
            exact List.any_eq_true.mpr ⟨other, member, by simp [overwrite, act']⟩

/-- What is left has different tags: at most one event decides whether a slot is filled,
and at most one adjusts it. -/
theorem nodup_tags_compact (log : List ε) :
    ((reading.compact log).filterMap reading.tag).Nodup ∧
      ∀ event ∈ reading.compact log, (reading.tag event).isSome = true := by
  induction log with
  | nil => exact ⟨.nil, fun _ => nofun⟩
  | cons event log ih =>
      rw [compact]
      split
      · exact ih
      · rename_i visible
        cases tagged : reading.tag event with
        | none =>
            refine absurd ?_ visible
            rw [tag, Option.map_eq_none_iff] at tagged
            rw [hidden, tagged]
        | some tag =>
            rw [List.filterMap_cons_some tagged]
            refine ⟨List.nodup_cons.mpr ⟨fun member => visible ?_, ih.1⟩,
              List.forall_mem_cons.mpr ⟨by rw [tagged]; rfl, ih.2⟩⟩
            obtain ⟨other, kept, same⟩ := List.mem_filterMap.mp member
            exact reading.hidden_of_tag ((reading.compact_sublist log).subset kept)
              (tagged.trans same.symm)

/-- The events that are left are at most as many as their possible tags. -/
theorem length_compact_le {tags : Finset (κ × Bool)} {log : List ε}
    (possible : ∀ event ∈ log, ∀ tag ∈ reading.tag event, tag ∈ tags) :
    (reading.compact log).length ≤ tags.card := by
  obtain ⟨nodup, tagged⟩ := reading.nodup_tags_compact log
  rw [← List.filterMap_length_eq_length.mpr tagged, ← List.toFinset_card_of_nodup nodup]
  refine Finset.card_le_card fun tag member => ?_
  obtain ⟨event, kept, found⟩ := List.mem_filterMap.mp (List.mem_toFinset.mp member)
  exact possible event ((reading.compact_sublist log).subset kept) tag found

end Reading

end KeyedLog

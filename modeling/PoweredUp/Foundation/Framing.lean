import Mathlib.Data.List.Basic
import Mathlib.Tactic.Common

/-!
# Incremental framing

A stream is a concatenation of frames that are recognised from the front.  A
`Framer` says which strings are frames and how the first one is split off a
buffer; the two agree exactly, which makes the frames a prefix code.  From this
single law it follows that draining a buffer is the unique decomposition into
frames and an unfinished residual, and hence that the way a stream is cut into
chunks is invisible.
-/

namespace Framing

universe u

/-- Recognition of frames at the front of a buffer. -/
structure Framer (β : Type u) where
  /-- The strings that are frames. -/
  Valid : List β → Prop
  /-- Split off the first frame, if the buffer holds all of it. -/
  next : List β → Option (List β × List β)
  next_eq_some : ∀ {buffer frame rest : List β},
    next buffer = some (frame, rest) ↔ Valid frame ∧ buffer = frame ++ rest
  nil_not_valid : ¬Valid []

namespace Framer

variable {β : Type u} (framer : Framer β)

/-- No frame can be split off. -/
def Exhausted (buffer : List β) : Prop :=
  framer.next buffer = none

/-- Split off at most `fuel` frames. -/
def drainWithin : Nat → List β → List (List β) × List β
  | 0, buffer => ([], buffer)
  | fuel + 1, buffer =>
      match framer.next buffer with
      | none => ([], buffer)
      | some (frame, rest) =>
          let (frames, residual) := drainWithin fuel rest
          (frame :: frames, residual)

/-- Split off every complete frame.  Frames are not empty, so there are at most
as many as the buffer has elements. -/
def drain (buffer : List β) : List (List β) × List β :=
  framer.drainWithin buffer.length buffer

/-- Push chunks one after the other.  The result has the frames completed by
each chunk and the residual left by the last. -/
def feed (residual : List β) : List (List β) → List (List (List β)) × List β
  | [] => ([], residual)
  | chunk :: chunks =>
      let (frames, residual) := framer.drain (residual ++ chunk)
      let (batches, last) := feed residual chunks
      (frames :: batches, last)

theorem ne_nil_of_valid {frame : List β} (valid : framer.Valid frame) : frame ≠ [] := by
  rintro rfl
  exact framer.nil_not_valid valid

theorem next_append {frame : List β} (valid : framer.Valid frame) (rest : List β) :
    framer.next (frame ++ rest) = some (frame, rest) :=
  framer.next_eq_some.mpr ⟨valid, rfl⟩

theorem exhausted_nil : framer.Exhausted [] := by
  cases split : framer.next [] with
  | none => exact split
  | some pair =>
      obtain ⟨valid, equality⟩ := framer.next_eq_some.mp split
      exact (framer.ne_nil_of_valid valid (List.append_eq_nil_iff.mp equality.symm).1).elim

/-! ## Draining is the unique decomposition -/

private theorem drainWithin_spec {fuel : Nat} {buffer : List β} (enough : buffer.length ≤ fuel) :
    (∀ frame ∈ (framer.drainWithin fuel buffer).1, framer.Valid frame) ∧
      (framer.drainWithin fuel buffer).1.flatten ++ (framer.drainWithin fuel buffer).2 = buffer ∧
      framer.Exhausted (framer.drainWithin fuel buffer).2 := by
  induction fuel generalizing buffer with
  | zero =>
      cases List.length_eq_zero_iff.mp (Nat.le_zero.mp enough)
      exact ⟨by simp [drainWithin], by simp [drainWithin], framer.exhausted_nil⟩
  | succ fuel ih =>
      cases split : framer.next buffer with
      | none =>
          simp only [drainWithin, split]
          exact ⟨by simp, by simp, split⟩
      | some pair =>
          obtain ⟨frame, rest⟩ := pair
          obtain ⟨valid, rfl⟩ := framer.next_eq_some.mp split
          have nonempty := List.length_pos_iff.mpr (framer.ne_nil_of_valid valid)
          rw [List.length_append] at enough
          have shorter : rest.length ≤ fuel := by omega
          obtain ⟨restValid, restFlatten, restExhausted⟩ := ih shorter
          simp only [drainWithin, split]
          refine ⟨?_, ?_, restExhausted⟩
          · intro found membership
            rcases List.mem_cons.mp membership with rfl | membership
            · exact valid
            · exact restValid found membership
          · rw [List.flatten_cons, List.append_assoc, restFlatten]

theorem drain_valid (buffer : List β) :
    ∀ frame ∈ (framer.drain buffer).1, framer.Valid frame :=
  (framer.drainWithin_spec (Nat.le_refl buffer.length)).1

/-- No element of the buffer is lost. -/
theorem drain_flatten (buffer : List β) :
    (framer.drain buffer).1.flatten ++ (framer.drain buffer).2 = buffer :=
  (framer.drainWithin_spec (Nat.le_refl buffer.length)).2.1

theorem drain_exhausted (buffer : List β) : framer.Exhausted (framer.drain buffer).2 :=
  (framer.drainWithin_spec (Nat.le_refl buffer.length)).2.2

/-- Frames form a prefix code: two decompositions with exhausted residuals of
one buffer are equal. -/
theorem decomposition_unique {frames frames' : List (List β)} {residual residual' : List β}
    (valid : ∀ frame ∈ frames, framer.Valid frame)
    (valid' : ∀ frame ∈ frames', framer.Valid frame)
    (exhausted : framer.Exhausted residual) (exhausted' : framer.Exhausted residual')
    (equality : frames.flatten ++ residual = frames'.flatten ++ residual') :
    frames = frames' ∧ residual = residual' := by
  induction frames generalizing frames' with
  | nil =>
      cases frames' with
      | nil => exact ⟨rfl, by simpa using equality⟩
      | cons frame rest =>
          have split := framer.next_append (valid' frame (by simp)) (rest.flatten ++ residual')
          rw [← List.append_assoc, ← List.flatten_cons, ← equality] at split
          rw [List.flatten_nil, List.nil_append, exhausted] at split
          cases split
  | cons frame rest ih =>
      have split := framer.next_append (valid frame (by simp)) (rest.flatten ++ residual)
      rw [← List.append_assoc, ← List.flatten_cons, equality] at split
      cases frames' with
      | nil =>
          rw [List.flatten_nil, List.nil_append, exhausted'] at split
          cases split
      | cons frame' rest' =>
          have split' := framer.next_append (valid' frame' (by simp)) (rest'.flatten ++ residual')
          rw [← List.append_assoc, ← List.flatten_cons, split, Option.some.injEq,
            Prod.mk.injEq] at split'
          obtain ⟨rfl, tailEqual⟩ := split'
          obtain ⟨framesEqual, residualEqual⟩ := ih
            (fun found membership => valid found (by simp [membership]))
            (fun found membership => valid' found (by simp [membership])) tailEqual
          exact ⟨congrArg _ framesEqual, residualEqual⟩

/-- Draining is characterised by its result: valid frames, then a residual that
holds no complete frame. -/
theorem drain_eq_iff {buffer residual : List β} {frames : List (List β)} :
    framer.drain buffer = (frames, residual) ↔
      (∀ frame ∈ frames, framer.Valid frame) ∧ frames.flatten ++ residual = buffer ∧
        framer.Exhausted residual := by
  constructor
  · intro equality
    have valid := framer.drain_valid buffer
    have flattened := framer.drain_flatten buffer
    have exhausted := framer.drain_exhausted buffer
    rw [equality] at valid flattened exhausted
    exact ⟨valid, flattened, exhausted⟩
  · rintro ⟨valid, flattened, exhausted⟩
    obtain ⟨framesEqual, residualEqual⟩ := framer.decomposition_unique
      (framer.drain_valid buffer) valid (framer.drain_exhausted buffer) exhausted
      ((framer.drain_flatten buffer).trans flattened.symm)
    exact Prod.ext framesEqual residualEqual

theorem drain_of_exhausted {residual : List β} (exhausted : framer.Exhausted residual) :
    framer.drain residual = ([], residual) :=
  framer.drain_eq_iff.mpr ⟨by simp, by simp, exhausted⟩

/-- Complete frames in front of a buffer come out first. -/
theorem drain_flatten_append {frames : List (List β)}
    (valid : ∀ frame ∈ frames, framer.Valid frame) (tail : List β) :
    framer.drain (frames.flatten ++ tail) =
      (frames ++ (framer.drain tail).1, (framer.drain tail).2) := by
  refine framer.drain_eq_iff.mpr ⟨?_, ?_, framer.drain_exhausted tail⟩
  · intro frame membership
    rcases List.mem_append.mp membership with front | back
    · exact valid frame front
    · exact framer.drain_valid tail frame back
  · rw [List.flatten_append, List.append_assoc, drain_flatten]

/-- A greedy drain of a prefix never splits a frame of the whole buffer. -/
theorem drain_append (front back : List β) :
    framer.drain (front ++ back) =
      ((framer.drain front).1 ++ (framer.drain ((framer.drain front).2 ++ back)).1,
        (framer.drain ((framer.drain front).2 ++ back)).2) := by
  conv_lhs => rw [← framer.drain_flatten front, List.append_assoc]
  exact framer.drain_flatten_append (framer.drain_valid front) _

/-- The frames split off are the ones that stand behind complete frames only. -/
theorem mem_drain_iff {buffer frame : List β} :
    frame ∈ (framer.drain buffer).1 ↔
      framer.Valid frame ∧ ∃ (before : List (List β)) (tail : List β),
        (∀ earlier ∈ before, framer.Valid earlier) ∧
          buffer = before.flatten ++ frame ++ tail := by
  constructor
  · intro membership
    obtain ⟨before, after, split⟩ := List.append_of_mem membership
    refine ⟨framer.drain_valid buffer frame membership, before,
      after.flatten ++ (framer.drain buffer).2, ?_, ?_⟩
    · intro earlier earlierMem
      exact framer.drain_valid buffer earlier (split ▸ List.mem_append_left _ earlierMem)
    · conv_lhs => rw [← framer.drain_flatten buffer, split]
      simp
  · rintro ⟨valid, before, tail, beforeValid, rfl⟩
    have complete : ∀ found ∈ before ++ [frame], framer.Valid found := by
      intro found membership
      rcases List.mem_append.mp membership with front | last
      · exact beforeValid found front
      · exact List.mem_singleton.mp last ▸ valid
    have drained := framer.drain_flatten_append complete tail
    rw [List.flatten_append, List.flatten_singleton] at drained
    rw [drained]
    simp

/-! ## Chunks -/

theorem feed_exhausted {residual : List β} (exhausted : framer.Exhausted residual)
    (chunks : List (List β)) : framer.Exhausted (framer.feed residual chunks).2 := by
  induction chunks generalizing residual with
  | nil => exact exhausted
  | cons chunk chunks ih => exact ih (framer.drain_exhausted _)

/-- The frames of a chunked stream are those of the whole stream. -/
theorem feed_eq_drain {residual : List β} (exhausted : framer.Exhausted residual)
    (chunks : List (List β)) :
    ((framer.feed residual chunks).1.flatten, (framer.feed residual chunks).2) =
      framer.drain (residual ++ chunks.flatten) := by
  induction chunks generalizing residual with
  | nil =>
      rw [List.flatten_nil, List.append_nil, framer.drain_of_exhausted exhausted]
      rfl
  | cons chunk chunks ih =>
      have rest := ih (framer.drain_exhausted (residual ++ chunk))
      rw [List.flatten_cons, ← List.append_assoc, drain_append, ← rest]
      rfl

theorem feed_append (residual : List β) (front back : List (List β)) :
    framer.feed residual (front ++ back) =
      ((framer.feed residual front).1 ++ (framer.feed (framer.feed residual front).2 back).1,
        (framer.feed (framer.feed residual front).2 back).2) := by
  induction front generalizing residual with
  | nil => rfl
  | cons chunk front ih =>
      simp only [List.cons_append, feed]
      rw [ih]

end Framer

end Framing

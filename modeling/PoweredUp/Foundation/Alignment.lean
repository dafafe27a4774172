import Mathlib.Data.List.Flatten
import PoweredUp.Foundation.Framing

/-!
# Streams in step

Where a frame ends depends on nothing but its own beginning.  Two streams whose frames
are equally long, one by one, therefore complete their frames in step, as long as they
are cut into chunks at the same places.
-/

namespace Framing

universe u

/-- A list in two parts, and in two others: the shorter front is a prefix. -/
theorem exists_append_of_length_le {α : Type u} {front back front' back' : List α}
    (cut : front ++ back = front' ++ back') (le : front.length ≤ front'.length) :
    ∃ more, front' = front ++ more ∧ back = more ++ back' := by
  obtain ⟨more, rfl⟩ : front <+: front' :=
    List.prefix_of_prefix_length_le ⟨back, rfl⟩ ⟨back', cut.symm⟩ le
  rw [List.append_assoc] at cut
  exact ⟨more, rfl, List.append_cancel_left cut⟩

namespace Framer

variable {β : Type u} (framer : Framer β)

/-- The frames of the streams, and what is left of them, are equally long. -/
def Aligned (stream stream' : List β) : Prop :=
  (framer.drain stream).1.map List.length = (framer.drain stream').1.map List.length ∧
    (framer.drain stream).2.length = (framer.drain stream').2.length

/-- More input does not make a frame disappear. -/
theorem exhausted_of_append {front back : List β} (exhausted : framer.Exhausted (front ++ back)) :
    framer.Exhausted front := by
  cases split : framer.next front with
  | none => exact split
  | some pair =>
      obtain ⟨frame, rest⟩ := pair
      obtain ⟨valid, rfl⟩ := framer.next_eq_some.mp split
      rw [List.append_assoc, Exhausted, framer.next_append valid] at exhausted
      cases exhausted

/-- The proper front of a frame holds no frame. -/
theorem exhausted_of_valid {front back : List β} (valid : framer.Valid (front ++ back))
    (proper : back ≠ []) : framer.Exhausted front := by
  cases split : framer.next front with
  | none => exact split
  | some pair =>
      obtain ⟨frame, rest⟩ := pair
      obtain ⟨inner, rfl⟩ := framer.next_eq_some.mp split
      have whole := framer.next_append valid []
      rw [List.append_nil, List.append_assoc, framer.next_append inner, Option.some.injEq,
        Prod.mk.injEq] at whole
      exact (proper (List.append_eq_nil_iff.mp whole.2).2).elim

theorem drain_cons {frame : List β} (valid : framer.Valid frame) (tail : List β) :
    framer.drain (frame ++ tail) =
      (frame :: (framer.drain tail).1, (framer.drain tail).2) := by
  have drained := framer.drain_flatten_append (List.forall_mem_singleton.mpr valid) tail
  rwa [List.flatten_singleton] at drained

/-- A stream of whole frames is cut into them again, however it arrives. -/
theorem feed_frames {frames chunks : List (List β)} (valid : ∀ frame ∈ frames, framer.Valid frame)
    (cut : chunks.flatten = frames.flatten) :
    (framer.feed [] chunks).1.flatten = frames ∧ (framer.feed [] chunks).2 = [] := by
  have whole := framer.drain_flatten_append valid []
  rw [framer.drain_of_exhausted framer.exhausted_nil, List.append_nil, List.append_nil, ← cut,
    ← List.nil_append chunks.flatten, ← framer.feed_eq_drain framer.exhausted_nil] at whole
  exact Prod.mk.inj whole

/-- A frame may be replaced by one of the same length. -/
theorem aligned_of_replaced {before : List (List β)} {frame frame' : List β}
    (valid : ∀ found ∈ before, framer.Valid found) (isFrame : framer.Valid frame)
    (isFrame' : framer.Valid frame') (same : frame.length = frame'.length) (after : List β) :
    framer.Aligned (before.flatten ++ (frame ++ after)) (before.flatten ++ (frame' ++ after)) := by
  rw [Aligned, framer.drain_flatten_append valid, framer.drain_flatten_append valid,
    framer.drain_cons isFrame, framer.drain_cons isFrame']
  simp [same]

/-- The streams are drained in step up to where they are cut, and stay aligned from
there on. -/
def CutAlike (front back front' back' : List β) : Prop :=
  framer.Aligned front front' ∧
    framer.Aligned ((framer.drain front).2 ++ back) ((framer.drain front').2 ++ back')

variable {framer} {front back front' back' : List β}

/-- Nothing is drained from fronts that hold no frame. -/
theorem Aligned.cut_exhausted (aligned : framer.Aligned (front ++ back) (front' ++ back'))
    (same : front.length = front'.length) (stops : framer.Exhausted front)
    (stops' : framer.Exhausted front') : framer.CutAlike front back front' back' := by
  rw [CutAlike, Aligned, framer.drain_of_exhausted stops, framer.drain_of_exhausted stops']
  exact ⟨⟨rfl, same⟩, aligned⟩

/-- A frame in front of both streams is drained from both. -/
theorem CutAlike.cons {frame frame' : List β} (valid : framer.Valid frame)
    (valid' : framer.Valid frame') (same : frame.length = frame'.length)
    (alike : framer.CutAlike front back front' back') :
    framer.CutAlike (frame ++ front) back (frame' ++ front') back' := by
  obtain ⟨⟨lengths, rest⟩, aligned⟩ := alike
  rw [CutAlike, Aligned, framer.drain_cons valid, framer.drain_cons valid', List.map_cons,
    List.map_cons, same, lengths]
  exact ⟨⟨rfl, rest⟩, aligned⟩

private theorem cut_frames {frames frames' : List (List β)} {residual residual' : List β}
    (lengths : frames.map List.length = frames'.map List.length)
    (valid : ∀ frame ∈ frames, framer.Valid frame) (valid' : ∀ frame ∈ frames', framer.Valid frame)
    (exhausted : framer.Exhausted residual) (exhausted' : framer.Exhausted residual')
    (cut : frames.flatten ++ residual = front ++ back)
    (cut' : frames'.flatten ++ residual' = front' ++ back') (same : front.length = front'.length)
    (aligned : framer.Aligned (front ++ back) (front' ++ back')) :
    framer.CutAlike front back front' back' := by
  induction frames generalizing frames' front front' with
  | nil =>
      cases List.map_eq_nil_iff.mp lengths.symm
      rw [List.flatten_nil, List.nil_append] at cut cut'
      rw [cut] at exhausted
      rw [cut'] at exhausted'
      exact aligned.cut_exhausted same (framer.exhausted_of_append exhausted)
        (framer.exhausted_of_append exhausted')
  | cons frame frames ih =>
      cases frames' with
      | nil => cases lengths
      | cons frame' frames' =>
          obtain ⟨first, lengths⟩ := List.cons.inj lengths
          obtain ⟨head, valid⟩ := List.forall_mem_cons.mp valid
          obtain ⟨head', valid'⟩ := List.forall_mem_cons.mp valid'
          rw [List.flatten_cons, List.append_assoc] at cut cut'
          rcases Nat.lt_or_ge front.length frame.length with short | long
          · obtain ⟨missing, rfl, _⟩ := exists_append_of_length_le cut.symm (Nat.le_of_lt short)
            obtain ⟨missing', rfl, _⟩ := exists_append_of_length_le cut'.symm (by omega)
            rw [List.length_append] at short first
            rw [List.length_append] at first
            have proper : missing ≠ [] := List.ne_nil_of_length_pos (by omega)
            have proper' : missing' ≠ [] := List.ne_nil_of_length_pos (by omega)
            exact aligned.cut_exhausted same (framer.exhausted_of_valid head proper)
              (framer.exhausted_of_valid head' proper')
          · obtain ⟨more, rfl, tail⟩ := exists_append_of_length_le cut long
            obtain ⟨more', rfl, tail'⟩ := exists_append_of_length_le cut' (by omega)
            rw [List.length_append, List.length_append] at same
            refine .cons head head' first (ih lengths valid valid' tail tail' (by omega) ?_)
            rw [List.append_assoc, List.append_assoc, Aligned, framer.drain_cons head,
              framer.drain_cons head'] at aligned
            exact ⟨(List.cons.inj aligned.1).2, aligned.2⟩

/-- Aligned streams that are cut at the same place are cut alike. -/
theorem Aligned.cut (aligned : framer.Aligned (front ++ back) (front' ++ back'))
    (same : front.length = front'.length) : framer.CutAlike front back front' back' :=
  cut_frames aligned.1 (framer.drain_valid _) (framer.drain_valid _) (framer.drain_exhausted _)
    (framer.drain_exhausted _) (framer.drain_flatten _) (framer.drain_flatten _) same aligned

/-- Cut into chunks at the same places, aligned streams complete their frames in step. -/
theorem Aligned.feed {residual residual' : List β} {chunks chunks' : List (List β)}
    (aligned : framer.Aligned (residual ++ chunks.flatten) (residual' ++ chunks'.flatten))
    (same : residual.length = residual'.length)
    (cuts : chunks.map List.length = chunks'.map List.length) :
    (framer.feed residual chunks).1.map List.length =
      (framer.feed residual' chunks').1.map List.length := by
  induction chunks generalizing residual residual' chunks' with
  | nil =>
      cases List.map_eq_nil_iff.mp cuts.symm
      rfl
  | cons chunk chunks ih =>
      cases chunks' with
      | nil => cases cuts
      | cons chunk' chunks' =>
          obtain ⟨first, cuts⟩ := List.cons.inj cuts
          rw [List.flatten_cons, List.flatten_cons, ← List.append_assoc,
            ← List.append_assoc] at aligned
          obtain ⟨⟨lengths, rest⟩, aligned⟩ := aligned.cut
            (by rw [List.length_append, List.length_append, same, first])
          have sizes := congrArg List.length lengths
          rw [List.length_map, List.length_map] at sizes
          exact List.cons_eq_cons.mpr ⟨sizes, ih aligned rest cuts⟩

end Framer

/-- Of lists of the same sizes that differ in one element, one list differs. -/
theorem exists_differing {α : Type u} {batches batches' : List (List α)} {before after : List α}
    {item item' : α} (sizes : batches.map List.length = batches'.map List.length)
    (items : batches.flatten = before ++ item :: after)
    (items' : batches'.flatten = before ++ item' :: after) :
    ∃ front batch batch' back, batches = front ++ batch :: back ∧
      batches' = front ++ batch' :: back := by
  induction batches generalizing batches' before with
  | nil => simp at items
  | cons batch batches ih =>
      cases batches' with
      | nil => cases sizes
      | cons batch' batches' =>
          obtain ⟨first, others⟩ := List.cons.inj sizes
          rw [List.flatten_cons] at items items'
          rcases Nat.lt_or_ge before.length batch.length with holds | passes
          · rw [List.append_cons] at items items'
            have short : (before ++ [item]).length ≤ batch.length := by
              rw [List.length_append]
              exact holds
            have short' : (before ++ [item']).length ≤ batch'.length := by
              rw [List.length_append, ← first]
              exact holds
            obtain ⟨more, rfl, rest⟩ := exists_append_of_length_le items.symm short
            obtain ⟨more', rfl, rest'⟩ := exists_append_of_length_le items'.symm short'
            have same : more.length = more'.length := by simpa using first
            have tails := (List.append_inj (rest.symm.trans rest') same).2
            rw [List.eq_iff_flatten_eq.mpr ⟨tails, others⟩]
            exact ⟨[], _, _, batches', rfl, rfl⟩
          · obtain ⟨more, rfl, rest⟩ := exists_append_of_length_le items passes
            rw [List.append_assoc] at items'
            obtain ⟨rfl, rest'⟩ := List.append_inj items' first.symm
            obtain ⟨front, changed, changed', back, rfl, rfl⟩ := ih others rest rest'
            exact ⟨batch' :: front, changed, changed', back, rfl, rfl⟩

end Framing

import PoweredUp.Protocol.FrameBuffer

/-!
# What reassembly guarantees

Over whole runs of a `FrameBuffer`: the way a stream is cut into notifications is
invisible, no byte is lost, and the retained bytes can be completed to a frame as
long as no zero byte stands where a length byte is expected.  A zero length byte
stops the drain loop for good.
-/

namespace PoweredUp

open Rust Framing

namespace FrameBuffer

/-- Pushing the chunks of a stream and pushing it whole give the same frames and
the same residual, every push is a terminating run of the drain loop, every frame
is counted by its first byte, and the frames and the residual are all the bytes
there were. -/
theorem push_fragmentation (self : FrameBuffer) (reachable : self.Reachable)
    (chunks : List Bytes) :
    (∃ batches frames last,
      self.pushAll chunks = .ret (batches, last) ∧
      self.push chunks.flatten = .ret (frames, last) ∧
      batches.flatten = frames ∧
      (∀ frame ∈ frames, frame ≠ [] ∧ frame.head?.map UInt8.toNat = some frame.length) ∧
      self.buf ++ chunks.flatten = frames.flatten ++ last.buf) ∧
    ∀ (buffer : FrameBuffer) (chunk : Bytes), ∃ frames last,
      buffer.push chunk = .ret (frames, last) ∧
      Drains nextFrame ⟨buffer.buf ++ chunk⟩ frames last := by
  have whole := framing.feed_eq_drain reachable.exhausted chunks
  constructor
  · refine ⟨_, _, _, pushAll_eq self chunks, ?_, rfl, ?_, ?_⟩
    · rw [push_eq, ← whole]
    · intro frame membership
      have valid : IsFrame frame := by
        apply framing.drain_valid (self.buf ++ chunks.flatten)
        rw [← whole]
        exact membership
      cases frame with
      | nil => exact valid.elim
      | cons first rest => exact ⟨by simp, by simpa using valid⟩
    · have lossless := framing.drain_flatten (self.buf ++ chunks.flatten)
      rw [← whole] at lossless
      exact lossless.symm
  · intro buffer chunk
    exact ⟨_, _, push_eq buffer chunk, push_drains (push_eq buffer chunk)⟩

/-- A frame arriving in three pieces, the first of which is already buffered. -/
theorem push_fragmentation_buffered :
    (∃ batches frames last,
      (⟨[4, 0]⟩ : FrameBuffer).pushAll [[2], [], [1, 3]] = .ret (batches, last) ∧
      (⟨[4, 0]⟩ : FrameBuffer).push [2, 1, 3] = .ret (frames, last) ∧
      batches.flatten = frames ∧
      (∀ frame ∈ frames, frame ≠ [] ∧ frame.head?.map UInt8.toNat = some frame.length) ∧
      [4, 0] ++ [2, 1, 3] = frames.flatten ++ last.buf) ∧
    ∀ (buffer : FrameBuffer) (chunk : Bytes), ∃ frames last,
      buffer.push chunk = .ret (frames, last) ∧
      Drains nextFrame ⟨buffer.buf ++ chunk⟩ frames last :=
  push_fragmentation ⟨[4, 0]⟩ ⟨[[4, 0]], [[]], by decide⟩ [[2], [], [1, 3]]

/-! ## Wedging -/

/-- The retained bytes are the proper front of an announced frame, or there are
none. -/
def Completable (self : FrameBuffer) : Prop :=
  self.buf = [] ∨ ∃ first rest, self.buf = first :: rest ∧ self.buf.length < first.toNat

/-- A residual that cannot be completed starts with a zero length byte. -/
theorem completable_iff {self : FrameBuffer} (exhausted : framing.Exhausted self.buf) :
    self.Completable ↔ ∀ rest, self.buf ≠ 0 :: rest := by
  obtain ⟨buf⟩ := self
  cases buf with
  | nil => exact iff_of_true (.inl rfl) (by simp)
  | cons first rest =>
      have stops := framing_exhausted_cons.mp exhausted
      constructor
      · rintro (empty | ⟨first', rest', equality, short⟩) tail zero
        · cases empty
        · cases equality
          cases zero
          simp at short
      · intro nonzero
        refine .inr ⟨first, rest, rfl, stops.resolve_left fun zero => ?_⟩
        have isZero : first = 0 := UInt8.toNat_inj.mp zero
        exact nonzero rest (isZero ▸ rfl)

theorem Completable.length_le {self : FrameBuffer} (completable : self.Completable) :
    self.buf.length ≤ 254 := by
  rcases completable with empty | ⟨first, rest, equality, short⟩
  · simp [empty]
  · have bound := first.toNat_lt
    omega

/-- Input exists that turns the retained bytes into one frame. -/
theorem Completable.exists_push {self : FrameBuffer} (completable : self.Completable) :
    ∃ more, self.push more = .ret ([self.buf ++ more], new) := by
  have completes : ∃ more, IsFrame (self.buf ++ more) := by
    rcases completable with empty | ⟨first, rest, equality, short⟩
    · exact ⟨[1], by simp [empty, IsFrame]⟩
    · refine ⟨List.replicate (first.toNat - self.buf.length) 0, ?_⟩
      simp only [equality, List.length_cons] at short ⊢
      simp only [List.cons_append, IsFrame, List.length_append, List.length_replicate]
      omega
  obtain ⟨more, valid⟩ := completes
  exact ⟨more, (self.push_eq_frame_iff more).mpr valid⟩

/-- A buffer that starts with a zero byte emits nothing ever again and keeps
every byte it is given. -/
theorem push_wedged (rest chunk : Bytes) :
    (⟨0 :: rest⟩ : FrameBuffer).push chunk = .ret ([], ⟨0 :: (rest ++ chunk)⟩) := by
  have wedged : framing.Exhausted (0 :: (rest ++ chunk)) :=
    framing_exhausted_cons.mpr (.inl rfl)
  rw [push_eq, List.cons_append, framing.drain_of_exhausted wedged]

end FrameBuffer

/-- A zero byte stands where the length byte of a frame is expected. -/
def ZeroAtBoundary (stream : Bytes) : Prop :=
  ∃ (frames : List Bytes) (rest : Bytes),
    (∀ frame ∈ frames, IsFrame frame) ∧ stream = frames.flatten ++ 0 :: rest

theorem zeroAtBoundary_iff {stream : Bytes} :
    ZeroAtBoundary stream ↔ ∃ rest, (framing.drain stream).2 = 0 :: rest := by
  constructor
  · rintro ⟨frames, rest, valid, rfl⟩
    have wedged : framing.Exhausted (0 :: rest) := framing_exhausted_cons.mpr (.inl rfl)
    rw [framing.drain_flatten_append valid, framing.drain_of_exhausted wedged]
    exact ⟨rest, rfl⟩
  · rintro ⟨rest, residual⟩
    refine ⟨(framing.drain stream).1, rest, framing.drain_valid stream, ?_⟩
    rw [← residual]
    exact (framing.drain_flatten stream).symm

theorem ZeroAtBoundary.append {stream : Bytes} (zero : ZeroAtBoundary stream) (more : Bytes) :
    ZeroAtBoundary (stream ++ more) := by
  obtain ⟨frames, rest, valid, rfl⟩ := zero
  exact ⟨frames, rest ++ more, valid, by simp⟩

namespace FrameBuffer

/-- After every push of a run the retained bytes can be completed, are fewer than
255, and some input completes them, exactly when the stream has no zero byte at a
frame boundary. -/
theorem completable_iff_not_zeroAtBoundary (chunks : List Bytes) :
    (∀ pushed, pushed <+: chunks → ∃ batches self,
      new.pushAll pushed = .ret (batches, self) ∧ self.Completable ∧
      self.buf.length ≤ 254 ∧ ∃ more, self.push more = .ret ([self.buf ++ more], new)) ↔
    ¬ZeroAtBoundary chunks.flatten := by
  have residual (pushed : List Bytes) :
      (framing.feed [] pushed).2 = (framing.drain pushed.flatten).2 := by
    exact congrArg Prod.snd (framing.feed_eq_drain framing.exhausted_nil pushed)
  constructor
  · intro completes zero
    obtain ⟨batches, self, pushed, completable, -⟩ := completes chunks List.prefix_rfl
    rw [pushAll_eq] at pushed
    cases pushed
    obtain ⟨rest, starts⟩ := zeroAtBoundary_iff.mp zero
    have exhausted := framing.feed_exhausted framing.exhausted_nil chunks
    exact (completable_iff exhausted).mp completable rest ((residual chunks).trans starts)
  · rintro nonzero pushed ⟨later, rfl⟩
    refine ⟨_, _, pushAll_eq new pushed, ?_⟩
    have completable : Completable ⟨(framing.feed [] pushed).2⟩ := by
      refine (completable_iff (framing.feed_exhausted framing.exhausted_nil pushed)).mpr ?_
      intro rest starts
      apply nonzero
      rw [List.flatten_append]
      exact (zeroAtBoundary_iff.mpr ⟨rest, (residual pushed).symm.trans starts⟩).append _
    exact ⟨completable, completable.length_le, completable.exists_push⟩

/-- One zero byte is retained, cannot be completed, and the well-formed frame
pushed after it is not emitted. -/
theorem zero_byte_wedges :
    ∃ batches self, new.pushAll [[0x00]] = .ret (batches, self) ∧ ¬self.Completable ∧
      self.push [0x04, 0x00, 0x02, 0x01] = .ret ([], ⟨[0x00, 0x04, 0x00, 0x02, 0x01]⟩) := by
  refine ⟨[[]], ⟨[0]⟩, by decide, ?_, by decide⟩
  rw [completable_iff (framing_exhausted_cons.mpr (.inl rfl))]
  simp

end FrameBuffer

end PoweredUp

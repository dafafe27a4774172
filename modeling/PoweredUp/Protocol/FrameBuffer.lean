import PoweredUp.Foundation.Drain
import PoweredUp.Foundation.Framing
import PoweredUp.Protocol.Consts

/-!
# Reassembly of frames

`FrameBuffer::push` appends a notification to the buffer and drains the complete
frames with `std::iter::from_fn(..).collect()`.  The frames of the wire format
are the byte strings counted by their own first byte; they form a `Framer`, and
`push` is its drain.
-/

namespace PoweredUp

open Rust Framing

/-- Accumulation buffer for fragmented BLE notifications. -/
structure FrameBuffer where
  buf : Bytes
  deriving DecidableEq, Repr

namespace FrameBuffer

def new : FrameBuffer := ⟨[]⟩

/-- The closure that `push` hands to `std::iter::from_fn`. -/
def nextFrame (self : FrameBuffer) : Checked (Option Bytes × FrameBuffer) :=
  match self.buf.head? with
  | none => return (none, self)
  | some first =>
      let len := first.toNat
      if len = 0 ∨ self.buf.length < len then
        return (none, self)
      else do
        let (frame, buf) ← splitTo self.buf len
        return (some frame, ⟨buf⟩)

/-- Append `chunk` and drain any complete frames, returning them in order.  Each
frame takes at least one byte, which bounds the number of calls. -/
def push (self : FrameBuffer) (chunk : Bytes) : Checked (List Bytes × FrameBuffer) :=
  let buf := self.buf ++ chunk
  drain nextFrame (buf.length + 1) ⟨buf⟩

/-- Push notifications in order; one batch of frames for each of them. -/
def pushAll (self : FrameBuffer) : List Bytes → Checked (List (List Bytes) × FrameBuffer)
  | [] => return ([], self)
  | chunk :: chunks => do
      let (frames, self) ← self.push chunk
      let (batches, self) ← pushAll self chunks
      return (frames :: batches, self)

/-- The buffers that arise in use. -/
def Reachable (self : FrameBuffer) : Prop :=
  ∃ chunks batches, new.pushAll chunks = .ret (batches, self)

end FrameBuffer

/-! ## Frames as a prefix code -/

/-- A frame is nonempty and its first byte is its length. -/
def IsFrame : Bytes → Prop
  | [] => False
  | first :: rest => first.toNat = rest.length + 1

instance : DecidablePred IsFrame
  | [] => inferInstanceAs (Decidable False)
  | first :: rest => inferInstanceAs (Decidable (first.toNat = rest.length + 1))

/-- Length-byte framing. -/
def framing : Framer UInt8 where
  Valid := IsFrame
  next buffer :=
    match buffer with
    | [] => none
    | first :: rest =>
        if first.toNat = 0 ∨ rest.length + 1 < first.toNat then
          none
        else
          some ((first :: rest).take first.toNat, (first :: rest).drop first.toNat)
  next_eq_some := by
    intro buffer frame tail
    cases buffer with
    | nil =>
        constructor
        · intro impossible
          cases impossible
        · rintro ⟨valid, equality⟩
          cases (List.append_eq_nil_iff.mp equality.symm).1
          exact valid.elim
    | cons first rest =>
        simp only [Option.ite_none_left_eq_some, Option.some.injEq, Prod.mk.injEq]
        constructor
        · rintro ⟨fits, rfl, rfl⟩
          refine ⟨?_, (List.take_append_drop _ _).symm⟩
          obtain ⟨count, positive⟩ := Nat.exists_eq_succ_of_ne_zero (fun zero => fits (.inl zero))
          simp only [positive, List.take_succ_cons, IsFrame, List.length_take]
          omega
        · rintro ⟨valid, equality⟩
          cases frame with
          | nil => exact valid.elim
          | cons length body =>
              rw [List.cons_append, List.cons.injEq] at equality
              obtain ⟨rfl, rfl⟩ := equality
              rw [IsFrame] at valid
              simp [valid]
  nil_not_valid := id

theorem IsFrame.ne_nil {frame : Bytes} (valid : IsFrame frame) : frame ≠ [] :=
  framing.ne_nil_of_valid valid

@[simp] theorem isFrame_cons {first : UInt8} {rest : Bytes} :
    IsFrame (first :: rest) ↔ first.toNat = rest.length + 1 := Iff.rfl

/-- The length byte counts at most 255. -/
theorem IsFrame.length_le {frame : Bytes} (valid : IsFrame frame) : frame.length ≤ 255 := by
  cases frame with
  | nil => exact valid.elim
  | cons first rest =>
      have bound := first.toNat_lt
      rw [isFrame_cons] at valid
      simp only [List.length_cons]
      omega

@[simp] theorem framing_valid (frame : Bytes) : framing.Valid frame ↔ IsFrame frame := Iff.rfl

/-- The drain loop stops on an empty buffer, on a zero length byte and on an
unfinished frame. -/
theorem framing_exhausted_cons {first : UInt8} {rest : Bytes} :
    framing.Exhausted (first :: rest) ↔ first.toNat = 0 ∨ (first :: rest).length < first.toNat := by
  simp only [Framer.Exhausted, framing, List.length_cons]
  split
  · simp [*]
  · simp [*]

namespace FrameBuffer

theorem nextFrame_eq (self : FrameBuffer) :
    self.nextFrame = .ret
      (match framing.next self.buf with
        | none => (none, self)
        | some (frame, rest) => (some frame, ⟨rest⟩)) := by
  obtain ⟨buf⟩ := self
  cases buf with
  | nil => rfl
  | cons first rest =>
      by_cases stops : first.toNat = 0 ∨ rest.length + 1 < first.toNat
      · simp [nextFrame, framing, stops]
      · have inBounds : first.toNat ≤ (first :: rest).length := by
          simp only [List.length_cons]
          omega
        simp [nextFrame, framing, stops, splitTo_eq_ret inBounds]

private theorem drain_nextFrame {fuel : Nat} {buf : Bytes} (enough : buf.length < fuel) :
    drain nextFrame fuel ⟨buf⟩ = .ret ((framing.drain buf).1, ⟨(framing.drain buf).2⟩) := by
  induction fuel generalizing buf with
  | zero => omega
  | succ fuel ih =>
      simp only [drain, nextFrame_eq, Checked.ret_bind]
      cases split : framing.next buf with
      | none => simp [framing.drain_of_exhausted split]
      | some pair =>
          obtain ⟨frame, rest⟩ := pair
          obtain ⟨valid, rfl⟩ := framing.next_eq_some.mp split
          have nonempty := List.length_pos_iff.mpr (IsFrame.ne_nil valid)
          have alone : ∀ found ∈ [frame], framing.Valid found := by simpa using valid
          have drained := framing.drain_flatten_append alone rest
          rw [List.flatten_singleton] at drained
          rw [List.length_append] at enough
          simp [ih (show rest.length < fuel by omega), drained]

/-- `push` never panics and drains exactly the complete frames. -/
theorem push_eq (self : FrameBuffer) (chunk : Bytes) :
    self.push chunk = .ret ((framing.drain (self.buf ++ chunk)).1,
      ⟨(framing.drain (self.buf ++ chunk)).2⟩) :=
  drain_nextFrame (Nat.lt_succ_self _)

/-- A chunk makes the buffer one frame exactly when it completes a frame. -/
theorem push_eq_frame_iff (self : FrameBuffer) (chunk : Bytes) :
    self.push chunk = .ret ([self.buf ++ chunk], new) ↔ IsFrame (self.buf ++ chunk) := by
  rw [push_eq, Checked.ret.injEq, Prod.mk.injEq]
  constructor
  · rintro ⟨emitted, _⟩
    exact framing.drain_valid _ _ (emitted ▸ List.mem_singleton_self _)
  · intro valid
    have alone : ∀ found ∈ [self.buf ++ chunk], framing.Valid found := by simpa using valid
    have drained := framing.drain_flatten_append alone []
    rw [List.flatten_singleton, List.append_nil,
      framing.drain_of_exhausted framing.exhausted_nil] at drained
    simp [new, drained]

/-- The bound on the calls is no restriction: `push` is a terminating run of the
unbounded loop. -/
theorem push_drains {self self' : FrameBuffer} {chunk : Bytes} {frames : List Bytes}
    (pushed : self.push chunk = .ret (frames, self')) :
    Drains nextFrame ⟨self.buf ++ chunk⟩ frames self' := by
  refine drains_of_drain (fun state : FrameBuffer => state.buf.length) ?_
    (Nat.lt_succ_self (self.buf ++ chunk).length) pushed
  intro state state' frame delivered
  rw [nextFrame_eq] at delivered
  cases split : framing.next state.buf with
  | none => simp [split] at delivered
  | some pair =>
      obtain ⟨front, rest⟩ := pair
      obtain ⟨valid, equality⟩ := framing.next_eq_some.mp split
      have nonempty := List.length_pos_iff.mpr (IsFrame.ne_nil valid)
      simp only [split, Checked.ret.injEq, Prod.mk.injEq] at delivered
      obtain ⟨-, rfl⟩ := delivered
      simp only [equality, List.length_append]
      omega

theorem pushAll_eq (self : FrameBuffer) (chunks : List Bytes) :
    self.pushAll chunks = .ret ((framing.feed self.buf chunks).1,
      ⟨(framing.feed self.buf chunks).2⟩) := by
  induction chunks generalizing self with
  | nil => rfl
  | cons chunk chunks ih => simp [pushAll, push_eq, ih, Framer.feed]

theorem Reachable.exhausted {self : FrameBuffer} (reachable : self.Reachable) :
    framing.Exhausted self.buf := by
  obtain ⟨chunks, batches, pushed⟩ := reachable
  rw [pushAll_eq] at pushed
  cases pushed
  exact framing.feed_exhausted framing.exhausted_nil chunks

end FrameBuffer

end PoweredUp

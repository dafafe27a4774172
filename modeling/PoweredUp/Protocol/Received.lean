import PoweredUp.Protocol.FrameBuffer
import PoweredUp.Protocol.ParseSafety

/-!
# Received messages

What a run of notifications delivers: the frames it completes, the messages they
parse to and the bytes left in the buffer.  Both message loops of a hub work
through the frames of a notification in order and skip those that do not parse.
-/

namespace PoweredUp

open Rust Framing

/-- The message of a frame that `parse` accepts. -/
def parsed? (frame : Bytes) : Option LpfMessage :=
  match parse frame with
  | .ret (.ok message) => some message
  | _ => none

theorem parsed?_eq_some {frame : Bytes} {message : LpfMessage} :
    parsed? frame = some message ↔ parse frame = .ret (.ok message) := by
  unfold parsed?
  rcases parse frame with (_ | _) | _ <;> simp

theorem parsed?_of_error {frame : Bytes} {error : Error}
    (parsed : parse frame = .ret (.error error)) : parsed? frame = none := by
  rw [parsed?, parsed]

/-- One pass of a loop over frames: a message is handled, an unparsable frame is
skipped. -/
def onFrame {σ : Type} (handle : σ → LpfMessage → Checked σ) (state : σ) (frame : Bytes) :
    Checked σ := do
  match ← parse frame with
  | .ok message => handle state message
  | .error _ => return state

/-- One pass of a loop over notifications. -/
def onNotification {σ : Type} (handle : σ → LpfMessage → Checked σ)
    (state : FrameBuffer × σ) (raw : Bytes) : Checked (FrameBuffer × σ) := do
  let (frames, frameBuf) ← state.1.push raw
  let state ← frames.foldlM (onFrame handle) state.2
  return (frameBuf, state)

/-! ## Frames -/

/-- A loop over frames that returns has parsed all of them. -/
theorem parse_returns_of_foldlM_onFrame {σ : Type} {handle : σ → LpfMessage → Checked σ}
    {frames : List Bytes} {state final : σ}
    (looped : frames.foldlM (onFrame handle) state = .ret final) :
    ∀ frame ∈ frames, (parse frame).Returns := by
  induction frames generalizing state with
  | nil => simp
  | cons frame frames ih =>
      rw [List.foldlM_cons] at looped
      obtain ⟨next, passed, rest⟩ := Checked.bind_eq_ret.mp looped
      obtain ⟨result, parsed, _⟩ := Checked.bind_eq_ret.mp passed
      intro found membership
      rcases List.mem_cons.mp membership with rfl | membership
      · exact ⟨result, parsed⟩
      · exact ih rest found membership

/-- The loop over frames handles the messages, when no frame makes `parse`
panic. -/
theorem foldlM_onFrame {σ : Type} (handle : σ → LpfMessage → Checked σ) {frames : List Bytes}
    (safe : ∀ frame ∈ frames, (parse frame).Returns) (state : σ) :
    frames.foldlM (onFrame handle) state = (frames.filterMap parsed?).foldlM handle state := by
  induction frames generalizing state with
  | nil => rfl
  | cons frame frames ih =>
      obtain ⟨result, parsed⟩ := safe frame (by simp)
      have rest := ih fun later membership => safe later (by simp [membership])
      rw [List.foldlM_cons]
      cases result with
      | error error =>
          rw [List.filterMap_cons_none (parsed?_of_error parsed)]
          simp only [onFrame, parsed, Checked.ret_bind, Checked.pure_eq_ret]
          exact rest state
      | ok message =>
          rw [List.filterMap_cons_some (parsed?_eq_some.mpr parsed), List.foldlM_cons]
          simp only [onFrame, parsed, Checked.ret_bind]
          congr 1
          funext next
          exact rest next

/-! ## Notifications -/

namespace FrameBuffer

/-- The frames completed by each of the notifications. -/
def batches (self : FrameBuffer) (notifications : List Bytes) : List (List Bytes) :=
  match self.pushAll notifications with
  | .ret (batches, _) => batches
  | .panic _ => []

/-- The frames completed by notifications. -/
def frames (self : FrameBuffer) (notifications : List Bytes) : List Bytes :=
  (self.batches notifications).flatten

/-- The messages completed by notifications. -/
def messages (self : FrameBuffer) (notifications : List Bytes) : List LpfMessage :=
  (self.frames notifications).filterMap parsed?

/-- The buffer after notifications. -/
def residual (self : FrameBuffer) (notifications : List Bytes) : FrameBuffer :=
  match self.pushAll notifications with
  | .ret (_, last) => last
  | .panic _ => self

@[simp] theorem frames_nil (self : FrameBuffer) : self.frames [] = [] := rfl

@[simp] theorem messages_nil (self : FrameBuffer) : self.messages [] = [] := rfl

@[simp] theorem residual_nil (self : FrameBuffer) : self.residual [] = self := rfl

theorem exists_push (self : FrameBuffer) (chunk : Bytes) :
    ∃ batch next, self.push chunk = .ret (batch, next) :=
  ⟨_, _, push_eq self chunk⟩

section Cons

variable {self next : FrameBuffer} {chunk : Bytes} {batch : List Bytes}

theorem batches_cons (pushed : self.push chunk = .ret (batch, next)) (rest : List Bytes) :
    self.batches (chunk :: rest) = batch :: next.batches rest := by
  simp [batches, pushAll, pushed, pushAll_eq]

theorem frames_cons (pushed : self.push chunk = .ret (batch, next)) (rest : List Bytes) :
    self.frames (chunk :: rest) = batch ++ next.frames rest := by
  rw [frames, batches_cons pushed, List.flatten_cons]
  rfl

theorem messages_cons (pushed : self.push chunk = .ret (batch, next)) (rest : List Bytes) :
    self.messages (chunk :: rest) = batch.filterMap parsed? ++ next.messages rest := by
  rw [messages, frames_cons pushed, List.filterMap_append]
  rfl

theorem residual_cons (pushed : self.push chunk = .ret (batch, next)) (rest : List Bytes) :
    self.residual (chunk :: rest) = next.residual rest := by
  simp [residual, pushAll, pushed, pushAll_eq]

end Cons

theorem frames_append (self : FrameBuffer) (front back : List Bytes) :
    self.frames (front ++ back) = self.frames front ++ (self.residual front).frames back := by
  simp only [frames, batches, residual, pushAll_eq, framing.feed_append, List.flatten_append]

theorem residual_append (self : FrameBuffer) (front back : List Bytes) :
    self.residual (front ++ back) = (self.residual front).residual back := by
  simp only [residual, pushAll_eq, framing.feed_append]

/-- Fewer notifications complete no other frames. -/
theorem mem_frames_of_prefix {self : FrameBuffer} {shorter notifications : List Bytes}
    (isPrefix : shorter <+: notifications) {frame : Bytes}
    (membership : frame ∈ self.frames shorter) : frame ∈ self.frames notifications := by
  obtain ⟨rest, rfl⟩ := isPrefix
  rw [frames_append]
  exact List.mem_append_left _ membership

/-- In a buffer that arises in use, the frames and the residual are those of the
whole stream. -/
theorem frames_eq_drain {self : FrameBuffer} (exhausted : framing.Exhausted self.buf)
    (notifications : List Bytes) :
    (self.frames notifications, (self.residual notifications).buf) =
      framing.drain (self.buf ++ notifications.flatten) := by
  rw [← framing.feed_eq_drain exhausted]
  simp only [frames, batches, residual, pushAll_eq]

/-- Messages and residual of a buffer that arises in use do not depend on how the
stream is cut. -/
theorem messages_of_flatten_eq {self : FrameBuffer} (exhausted : framing.Exhausted self.buf)
    {chunks notifications : List Bytes} (cut : chunks.flatten = notifications.flatten) :
    self.messages chunks = self.messages notifications ∧
      self.residual chunks = self.residual notifications := by
  have same := frames_eq_drain exhausted chunks
  rw [cut, ← frames_eq_drain exhausted notifications, Prod.mk.injEq] at same
  exact ⟨congrArg (List.filterMap parsed?) same.1, congrArg FrameBuffer.mk same.2⟩

end FrameBuffer

variable {σ : Type} {handle : σ → LpfMessage → Checked σ}

/-- A loop over notifications that returns has parsed every frame they
complete. -/
theorem parse_returns_of_foldlM_onNotification {notifications : List Bytes}
    {start final : FrameBuffer × σ}
    (looped : notifications.foldlM (onNotification handle) start = .ret final) :
    ∀ frame ∈ start.1.frames notifications, (parse frame).Returns := by
  induction notifications generalizing start with
  | nil => simp
  | cons raw notifications ih =>
      rw [List.foldlM_cons] at looped
      obtain ⟨next, passed, rest⟩ := Checked.bind_eq_ret.mp looped
      obtain ⟨⟨batch, frameBuf⟩, pushed, framesLooped⟩ := Checked.bind_eq_ret.mp passed
      obtain ⟨state, batchLooped, equality⟩ := Checked.bind_eq_ret.mp framesLooped
      cases equality
      rw [FrameBuffer.frames_cons pushed]
      intro frame membership
      rcases List.mem_append.mp membership with front | back
      · exact parse_returns_of_foldlM_onFrame batchLooped frame front
      · exact ih rest frame back

/-- The loop over notifications handles the messages they complete, in order. -/
theorem foldlM_onNotification {notifications : List Bytes} {frameBuf : FrameBuffer}
    (safe : ∀ frame ∈ frameBuf.frames notifications, (parse frame).Returns) (state : σ) :
    notifications.foldlM (onNotification handle) (frameBuf, state) = do
      let final ← (frameBuf.messages notifications).foldlM handle state
      return (frameBuf.residual notifications, final) := by
  induction notifications generalizing frameBuf state with
  | nil => rfl
  | cons raw notifications ih =>
      obtain ⟨batch, next, pushed⟩ := frameBuf.exists_push raw
      rw [FrameBuffer.frames_cons pushed] at safe
      have batchSafe : ∀ frame ∈ batch, (parse frame).Returns :=
        fun frame membership => safe frame (List.mem_append_left _ membership)
      have restSafe : ∀ frame ∈ next.frames notifications, (parse frame).Returns :=
        fun frame membership => safe frame (List.mem_append_right _ membership)
      rw [List.foldlM_cons, FrameBuffer.messages_cons pushed, FrameBuffer.residual_cons pushed,
        List.foldlM_append]
      simp only [onNotification, pushed, Checked.ret_bind, foldlM_onFrame handle batchSafe,
        bind_assoc, Checked.pure_eq_ret]
      congr 1
      funext middle
      exact ih restSafe middle

end PoweredUp

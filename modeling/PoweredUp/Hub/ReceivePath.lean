import PoweredUp.Hub.Initialized
import PoweredUp.Hub.NextMessage

/-!
# The receive path

Notifications pass through the frame buffer, the parser and one of two message
handlers.  The handlers never panic, so the path panics only where the parser
does: on a complete attachment frame that ends behind its port.
-/

namespace PoweredUp

open Rust Framing

/-- An attachment frame of four bytes stands where a frame is expected. -/
def ShortAttachment (stream : Bytes) : Prop :=
  ∃ (frames : List Bytes) (reserved portId : UInt8) (rest : Bytes),
    (∀ frame ∈ frames, IsFrame frame) ∧
    stream = frames.flatten ++ [4, reserved, 0x04, portId] ++ rest

/-- The parser panics on no frame but a short attachment frame. -/
theorem parse_frame_returns_iff {frame : Bytes} (valid : IsFrame frame) :
    (parse frame).Returns ↔ ¬∃ reserved portId, frame = [4, reserved, 0x04, portId] := by
  match frame with
  | [] => exact valid.elim
  | [first] => exact iff_of_true (Checked.returns_ret _) (by simp)
  | [first, reserved] => exact iff_of_true (Checked.returns_ret _) (by simp)
  | first :: reserved :: msgTypeByte :: payload =>
      rw [isFrame_cons] at valid
      rw [parse_frame (by simpa using valid), parsePayload_returns_iff, not_iff_not]
      constructor
      · rintro ⟨rfl, single⟩
        obtain ⟨portId, rfl⟩ := List.length_eq_one_iff.mp single
        have isFour : first = 4 := UInt8.toNat_inj.mp valid
        exact ⟨reserved, portId, by rw [isFour]⟩
      · rintro ⟨reserved', portId, equality⟩
        cases equality
        exact ⟨rfl, rfl⟩

/-- Every frame of a stream is parsed without a panic exactly when the stream has
no short attachment frame. -/
theorem frames_parse_iff (chunks : List Bytes) :
    (∀ frame ∈ FrameBuffer.new.frames chunks, (parse frame).Returns) ↔
      ¬ShortAttachment chunks.flatten := by
  have frames : FrameBuffer.new.frames chunks = (framing.drain chunks.flatten).1 :=
    congrArg Prod.fst (FrameBuffer.frames_eq_drain framing.exhausted_nil chunks)
  rw [frames]
  constructor
  · rintro safe ⟨before, reserved, portId, rest, valid, split⟩
    have isFrame : IsFrame [4, reserved, 0x04, portId] := by simp
    have emitted : [4, reserved, 0x04, portId] ∈ (framing.drain chunks.flatten).1 :=
      framing.mem_drain_iff.mpr ⟨isFrame, before, rest, valid, split⟩
    exact (parse_frame_returns_iff isFrame).mp (safe _ emitted) ⟨reserved, portId, rfl⟩
  · intro absent frame emitted
    obtain ⟨isFrame, before, rest, valid, split⟩ := framing.mem_drain_iff.mp emitted
    refine (parse_frame_returns_iff isFrame).mpr ?_
    rintro ⟨reserved, portId, rfl⟩
    exact absent ⟨before, reserved, portId, rest, valid, split⟩

/-- A loop over notifications whose handler always returns panics only in the
parser. -/
theorem foldlM_onNotification_returns_iff {σ : Type} {handle : σ → LpfMessage → Checked σ}
    (total : ∀ (messages : List LpfMessage) (state : σ), (messages.foldlM handle state).Returns)
    (frameBuf : FrameBuffer) (notifications : List Bytes) (state : σ) :
    (notifications.foldlM (onNotification handle) (frameBuf, state)).Returns ↔
      ∀ frame ∈ frameBuf.frames notifications, (parse frame).Returns := by
  constructor
  · rintro ⟨final, looped⟩
    exact parse_returns_of_foldlM_onNotification looped
  · intro safe
    obtain ⟨final, handled⟩ := total (frameBuf.messages notifications) state
    rw [foldlM_onNotification safe, handled]
    exact Checked.returns_ret _

/-- From a fresh buffer, both message loops run over a stream without a panic, and
every frame is parsed to a message or an error, exactly when the stream has no
short attachment frame. -/
theorem receive_path_returns_iff {T : Type} [FloatScale] (chunks : List Bytes) :
    (∀ progress : Progress,
      (chunks.foldlM (onNotification initMessage) (FrameBuffer.new, progress)).Returns ↔
        ¬ShortAttachment chunks.flatten) ∧
    (∀ hub : Hub Ready T,
      (chunks.foldlM (onNotification Hub.handleMessage) (FrameBuffer.new, hub)).Returns ↔
        ¬ShortAttachment chunks.flatten) ∧
    ((∀ frame ∈ FrameBuffer.new.frames chunks, (parse frame).Returns) ↔
      ¬ShortAttachment chunks.flatten) := by
  have initTotal (messages : List LpfMessage) (progress : Progress) :
      (messages.foldlM initMessage progress).Returns := by
    obtain ⟨final, handled, _⟩ := foldlM_initMessage messages progress
    exact ⟨final, handled⟩
  have readyTotal (messages : List LpfMessage) (hub : Hub Ready T) :
      (messages.foldlM Hub.handleMessage hub).Returns :=
    ⟨_, Hub.foldlM_handleMessage hub messages⟩
  refine ⟨fun progress => ?_, fun hub => ?_, frames_parse_iff chunks⟩
  · rw [foldlM_onNotification_returns_iff initTotal, frames_parse_iff]
  · rw [foldlM_onNotification_returns_iff readyTotal, frames_parse_iff]

/-- Awaiting the answers does not panic on a stream without a short attachment
frame. -/
theorem Hub.becomeReady_returns {T : Type} {self : Hub Connected T}
    (fresh : self.state.frameBuf = .new) (absent : ¬ShortAttachment self.state.rx.flatten) :
    self.becomeReady.Returns := by
  have safe := (frames_parse_iff self.state.rx).mpr absent
  rw [← fresh] at safe
  rcases self.becomeReady_complete safe with ⟨ready, initialized⟩ | ⟨_, failed⟩
  · exact ⟨_, initialized⟩
  · exact ⟨_, failed⟩

/-- Nor does polling for the next message. -/
theorem Hub.nextMessage_returns {T : Type} [FloatScale] {self : Hub Ready T}
    (fresh : self.state.frameBuf = .new) (absent : ¬ShortAttachment self.state.rx.flatten) :
    self.nextMessage.Returns := by
  have safe := (frames_parse_iff self.state.rx).mpr absent
  rw [← fresh] at safe
  exact (self.nextMessage_drains safe).returns

/-- An attachment frame that ends behind its port makes both loops panic. -/
theorem receive_path_panics :
    parse [4, 0, 0x04, 0] = .panic .indexOutOfBounds ∧
    [[4, 0, 0x04, 0]].foldlM (onNotification initMessage)
      (FrameBuffer.new, { props := {}, pending := mandatoryProperties }) =
        .panic .indexOutOfBounds ∧
    [[4, 0, 0x04, 0]].foldlM (onNotification (@Hub.handleMessage Scripted .exact))
      (FrameBuffer.new, Hub.readyWith []) = .panic .indexOutOfBounds :=
  ⟨rfl, rfl, rfl⟩

end PoweredUp

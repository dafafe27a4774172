import PoweredUp.Hub.State
import PoweredUp.Protocol.RoundTrip

/-!
# Writing messages

`Hub<Ready>::write` encodes a message and hands the bytes to the transport in one
write.  Whether these bytes are the message that was meant is decided by the
encoder: it has no arm for the six upstream kinds, and it truncates the length
byte.
-/

namespace PoweredUp

open Rust

/-- The kinds of messages with an encoder arm. -/
def LpfMessage.HasEncoder : LpfMessage → Prop
  | .hubProperty _ | .hubAction _ | .portInputFormatSetupSingle _ | .portOutputCommand _
  | .unknown _ _ => True
  | _ => False

/-- Without an encoder arm only the header is left. -/
theorem encode_of_not_hasEncoder {message : LpfMessage} (upstream : ¬message.HasEncoder) :
    encode message = [0x02, 0x00] := by
  cases message with
  | hubProperty m => exact absurd trivial upstream
  | hubAction action => exact absurd trivial upstream
  | portInputFormatSetupSingle m => exact absurd trivial upstream
  | portOutputCommand m => exact absurd trivial upstream
  | unknown messageType payload => exact absurd trivial upstream
  | _ => rfl

namespace Hub

/-- An accepted write transmits the encoding of the message and nothing else.  The
bytes are one frame that a receiver reads back as the message exactly when the
host can encode the message in at most 255 bytes; a message without an encoder
arm is transmitted as a bare header. -/
theorem write_transmits {T : Type} [BleTransport T] (hub : Hub Ready (Traced T))
    (message : LpfMessage)
    (accepts : (BleTransport.write hub.transport.inner hub.lpf2Char (encode message)).1 = .ok ()) :
    (hub.write message).1 = .ok () ∧
    (hub.write message).2.calls =
      hub.transport.calls ++ [.write hub.lpf2Char (encode message)] ∧
    (((encode message).head?.map UInt8.toNat = some (encode message).length ∧
        FrameBuffer.new.push (encode message) = .ret ([encode message], .new) ∧
        parse (encode message) = .ret (.ok message)) ↔
      message.HostEncodable ∧ (encode message).length ≤ 255) ∧
    (¬message.HasEncoder → encode message = [0x02, 0x00]) := by
  refine ⟨accepts, rfl, ?_, encode_of_not_hasEncoder⟩
  have emits : FrameBuffer.new.push (encode message) = .ret ([encode message], .new) ↔
      IsFrame (encode message) := FrameBuffer.new.push_eq_frame_iff (encode message)
  rw [emits, ← encode_round_trip_iff]
  constructor
  · rintro ⟨_, frame, parses⟩
    exact ⟨frame, parses⟩
  · rintro ⟨frame, parses⟩
    exact ⟨by simpa [encode] using frame, frame, parses⟩

/-- A ready hub whose calls to the transport are recorded. -/
def tracedReady : Hub Ready (Traced Scripted) :=
  { readyWith [] with transport := { inner := { connected := true }, calls := [] } }

theorem write_transmits_disconnect :
    (tracedReady.write (.hubAction .disconnect)).2.calls = [.write lpf2All [4, 0, 2, 2]] ∧
    parse [4, 0, 2, 2] = .ret (.ok (.hubAction .disconnect)) := by
  obtain ⟨_, transmitted, readBack, _⟩ :=
    write_transmits tracedReady (.hubAction .disconnect) rfl
  exact ⟨transmitted, (readBack.mpr ⟨trivial, by decide⟩).2.2⟩

/-- An alert is written as a bare header that no receiver can parse, and an unknown
message with a decoded type byte is read back as another message. -/
theorem write_garbles :
    (tracedReady.write (.hubAlert ⟨.lowVoltage, .alert⟩)).1 = .ok () ∧
    (tracedReady.write (.hubAlert ⟨.lowVoltage, .alert⟩)).2.calls = [.write lpf2All [2, 0]] ∧
    (∀ message, parse [2, 0] ≠ .ret (.ok message)) ∧
    (tracedReady.write (.unknown 0x02 [1])).1 = .ok () ∧
    (tracedReady.write (.unknown 0x02 [1])).2.calls = [.write lpf2All [4, 0, 2, 1]] ∧
    parse [4, 0, 2, 1] = .ret (.ok (.hubAction .switchOffHub)) := by
  refine ⟨rfl, rfl, ?_, rfl, rfl, rfl⟩
  intro message parses
  cases parses

end Hub

end PoweredUp

import PoweredUp.Protocol.PayloadGrammar

/-!
# Encoding what was parsed

For the five kinds of messages that the host can encode, encoding undoes parsing
up to a canonical form: bytes behind an action and behind an input format setup
are dropped, and the enable byte becomes 0 or 1.
-/

namespace PoweredUp

open Rust WireEnum Checked

/-- The canonical form of the frame that a message was parsed from. -/
def canonicalFrame (frame : Bytes) : LpfMessage → Option Bytes
  | .hubProperty _ | .portOutputCommand _ | .unknown _ _ => some frame
  | .hubAction _ => some ((frame.take 4).set 0 4)
  | .portInputFormatSetupSingle _ =>
      some (((frame.take 10).set 0 10).modify 9 fun enable => if enable = 0 then 0 else 1)
  | _ => none

/-- The length byte of a message with a body of a given length. -/
theorem encode_eq {message : LpfMessage} {first : UInt8} {body : Bytes}
    (inner : encodeInner message = body) (declared : first.toNat = body.length + 2) :
    encode message = first :: 0x00 :: body := by
  have byte : UInt8.ofNat (body.length + 2) = first := by
    rw [← declared]
    exact UInt8.ofNat_toNat
  simp only [encode, inner, byte, List.cons_append, List.nil_append]

/-- The payload part of re-encoding. -/
theorem encode_of_denotes {first msgTypeByte : UInt8} {payload : Bytes} {message : LpfMessage}
    (declared : first.toNat = payload.length + 3) (denotes : Denotes msgTypeByte payload message)
    {canonical : Bytes}
    (isCanonical : canonicalFrame (first :: 0x00 :: msgTypeByte :: payload) message =
      some canonical) :
    encode message = canonical := by
  cases denotes with
  | hubProperty property operation rest =>
      cases isCanonical
      exact encode_eq rfl declared
  | hubAction action rest =>
      cases isCanonical
      rfl
  | portInputFormatSetupSingle portId mode delta0 delta1 delta2 delta3 enable rest =>
      cases isCanonical
      have normalised : (if enable != 0 then (1 : UInt8) else 0) =
          if enable = 0 then 0 else 1 := by
        by_cases zero : enable = 0
        · simp [zero]
        · simp [zero]
      simp only [encode, encodeInner, LittleEndian.ofU32_u32, normalised]
      rfl
  | portOutputCommand portId startupAndCompletion rest =>
      cases isCanonical
      exact encode_eq rfl declared
  | unknown undecoded payload =>
      cases isCanonical
      exact encode_eq rfl declared
  | hubAlert => cases isCanonical
  | hubAttachedIo => cases isCanonical
  | genericError => cases isCanonical
  | portValueSingle => cases isCanonical
  | portInputFormatSingle => cases isCanonical
  | portOutputCommandFeedback => cases isCanonical

/-- Encoding a message parsed from a frame gives the canonical form of the frame,
which parses to the same message. -/
theorem encode_parse {frame : Bytes} {message : LpfMessage} (valid : IsFrame frame)
    (long : 3 ≤ frame.length) (reserved : frame[1]? = some 0x00)
    (parsed : parse frame = .ret (.ok message)) {canonical : Bytes}
    (isCanonical : canonicalFrame frame message = some canonical) :
    encode message = canonical ∧ parse (encode message) = .ret (.ok message) := by
  match frame with
  | first :: second :: msgTypeByte :: payload =>
      obtain rfl : second = 0x00 := Option.some.inj reserved
      have declared : first.toNat = payload.length + 3 := valid
      have denotes := parsePayload_eq_ok.mp ((parse_frame declared).symm.trans parsed)
      have encoded := encode_of_denotes declared denotes isCanonical
      refine ⟨encoded, ?_⟩
      cases message with
      | hubProperty m =>
          cases isCanonical
          rw [encoded, parsed]
      | hubAction action => exact parse_encode trivial (by simp [encode, encodeInner])
      | portInputFormatSetupSingle m =>
          have length : (LittleEndian.ofU32 m.delta).length = 4 := LittleEndian.length_ofNat 4 _
          exact parse_encode trivial (by simp [encode, encodeInner, length])
      | portOutputCommand m =>
          cases isCanonical
          rw [encoded, parsed]
      | unknown messageType data =>
          cases isCanonical
          rw [encoded, parsed]
      | _ => cases isCanonical

/-- A setup frame with a trailing byte and an enable byte other than 1. -/
theorem encode_parse_setup :
    encode (.portInputFormatSetupSingle ⟨1, 2, 258, true⟩) =
        [10, 0, 0x41, 1, 2, 2, 1, 0, 0, 1] ∧
      parse (encode (.portInputFormatSetupSingle ⟨1, 2, 258, true⟩)) =
        .ret (.ok (.portInputFormatSetupSingle ⟨1, 2, 258, true⟩)) :=
  encode_parse (show IsFrame [11, 0, 0x41, 1, 2, 2, 1, 0, 0, 7, 9] by decide) (by decide) rfl
    (by decide) rfl

end PoweredUp

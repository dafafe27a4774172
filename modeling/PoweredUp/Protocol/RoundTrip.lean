import PoweredUp.Protocol.FrameBuffer
import PoweredUp.Protocol.Grammar
import PoweredUp.Protocol.ParseSafety

/-!
# Encoding and parsing

The host can encode five kinds of messages.  As long as the length byte is not
truncated, and a message of unknown type does not use the type byte of a decoded
one, the encoding is one frame that parses to the message; a stream of such
encodings therefore survives any fragmentation.
-/

namespace PoweredUp

open Rust WireEnum Framing Checked

/-- The type bytes that `parse` decodes. -/
def decodedTypeBytes : List UInt8 :=
  [0x01, 0x02, 0x03, 0x04, 0x05, 0x41, 0x45, 0x47, 0x81, 0x82]

/-- Messages with an encoder arm; an unknown type must really be undecoded. -/
def LpfMessage.HostEncodable : LpfMessage → Prop
  | .hubProperty _ | .hubAction _ | .portInputFormatSetupSingle _ | .portOutputCommand _ => True
  | .unknown messageType _ => messageType ∉ decodedTypeBytes
  | _ => False

instance : DecidablePred LpfMessage.HostEncodable := fun message => by
  unfold LpfMessage.HostEncodable
  cases message <;> infer_instance

/-! ## Parsing by parts -/

/-- The type bytes outside the ten decoded ones give `Unknown`. -/
theorem parsePayload_unknown {msgTypeByte : UInt8} (undecoded : msgTypeByte ∉ decodedTypeBytes)
    (payload : Bytes) :
    parsePayload msgTypeByte payload = .ret (.ok (.unknown msgTypeByte payload)) := by
  unfold parsePayload
  cases known : (tryFrom msgTypeByte : Result MessageType) with
  | error error => rfl
  | ok messageType =>
      have discriminant := tryFrom_eq_ok.mp known
      subst discriminant
      cases messageType <;> first | rfl | exact absurd (by decide) undecoded

/-- A decoded type byte is a discriminant. -/
theorem exists_of_decoded {msgTypeByte : UInt8} (decoded : msgTypeByte ∈ decodedTypeBytes) :
    ∃ kind : MessageType, msgTypeByte = kind.asU8 := by
  cases known : (tryFrom msgTypeByte : Result MessageType) with
  | ok kind => exact ⟨kind, (tryFrom_eq_ok.mp known).symm⟩
  | error error =>
      simp only [decodedTypeBytes, List.mem_cons, List.not_mem_nil, or_false] at decoded
      rcases decoded with rfl | rfl | rfl | rfl | rfl | rfl | rfl | rfl | rfl | rfl <;>
        cases known

/-- A decoded type never gives `Unknown`: every payload parser makes a message of
its own kind. -/
theorem parsePayload_ne_unknown {kind : MessageType} (decoded : kind.asU8 ∈ decodedTypeBytes)
    (payload : Bytes) (messageType : UInt8) (data : Bytes) :
    parsePayload kind.asU8 payload ≠ .ret (.ok (.unknown messageType data)) := by
  intro parsed
  have known : tryFrom kind.asU8 = .ok kind := tryFrom_asU8 kind
  simp only [parsePayload, known] at parsed
  cases kind with
  | hubProperties =>
      obtain ⟨_, _, _, _, equality⟩ := parseHubProperty_eq_ok.mp parsed
      cases equality
  | hubActions =>
      obtain ⟨_, _, _, equality⟩ := parseHubAction_eq_ok.mp parsed
      cases equality
  | hubAlerts =>
      obtain ⟨_, _, _, _, equality⟩ := parseHubAlert_eq_ok.mp parsed
      cases equality
  | hubAttachedIo =>
      obtain ⟨_, _, _, _, _, _, _, equality⟩ := parseHubAttachedIo_eq_ok.mp parsed
      cases equality
  | genericErrorMessages =>
      obtain ⟨_, _, _, _, equality⟩ := parseGenericError_eq_ok.mp parsed
      cases equality
  | portInputFormatSetupSingle =>
      obtain ⟨_, _, _, _, _, _, _, _, _, equality⟩ := parsePortInputFormatSetup_eq_ok.mp parsed
      cases equality
  | portValueSingle =>
      obtain ⟨_, _, _, equality⟩ := parsePortValueSingle_eq_ok.mp parsed
      cases equality
  | portInputFormatSingle =>
      obtain ⟨_, _, _, _, equality⟩ := parsePortInputFormatSingle_eq_ok.mp parsed
      cases equality
  | portOutputCommand =>
      obtain ⟨_, _, _, _, equality⟩ := parsePortOutputCommand_eq_ok.mp parsed
      cases equality
  | portOutputCommandFeedback =>
      obtain ⟨_, _, _, _, equality⟩ := parsePortOutputFeedback_eq_ok.mp parsed
      cases equality
  | _ => exact absurd decoded (by decide)

/-- Only the undecoded type bytes give `Unknown`. -/
theorem parsePayload_eq_unknown {msgTypeByte messageType : UInt8} {payload data : Bytes} :
    parsePayload msgTypeByte payload = .ret (.ok (.unknown messageType data)) ↔
      msgTypeByte ∉ decodedTypeBytes ∧ messageType = msgTypeByte ∧ data = payload := by
  constructor
  · intro parsed
    have undecoded : msgTypeByte ∉ decodedTypeBytes := by
      intro decoded
      obtain ⟨kind, rfl⟩ := exists_of_decoded decoded
      exact parsePayload_ne_unknown decoded payload messageType data parsed
    rw [parsePayload_unknown undecoded] at parsed
    cases parsed
    exact ⟨undecoded, rfl, rfl⟩
  · rintro ⟨undecoded, rfl, rfl⟩
    exact parsePayload_unknown undecoded data

theorem parsePayload_hubProperty (m : HubPropertyMessage) :
    parsePayload MessageType.hubProperties.asU8
        ([m.property.asU8, m.operation.asU8] ++ m.payload) =
      .ret (.ok (.hubProperty m)) := by
  have known : tryFrom MessageType.hubProperties.asU8 = .ok MessageType.hubProperties :=
    tryFrom_asU8 _
  have property : tryFrom m.property.asU8 = .ok m.property := tryFrom_asU8 m.property
  have operation : tryFrom m.operation.asU8 = .ok m.operation := tryFrom_asU8 m.operation
  simp only [parsePayload, known]
  simp [parseHubProperty, property, operation, sliceFrom_eq_ret]

theorem parsePayload_hubAction (action : ActionType) :
    parsePayload MessageType.hubActions.asU8 [action.asU8] = .ret (.ok (.hubAction action)) := by
  have known : tryFrom MessageType.hubActions.asU8 = .ok MessageType.hubActions :=
    tryFrom_asU8 _
  have discriminant : tryFrom action.asU8 = .ok action := tryFrom_asU8 action
  simp only [parsePayload, known]
  simp [parseHubAction, discriminant]

theorem parsePayload_portInputFormatSetup (m : PortInputFormatSetupSingle) :
    parsePayload MessageType.portInputFormatSetupSingle.asU8
        ([m.portId, m.mode] ++ LittleEndian.ofU32 m.delta ++
          [if m.enableNotifications then 1 else 0]) =
      .ret (.ok (.portInputFormatSetupSingle m)) := by
  have known : tryFrom MessageType.portInputFormatSetupSingle.asU8 =
      .ok MessageType.portInputFormatSetupSingle := tryFrom_asU8 _
  obtain ⟨byte0, byte1, byte2, byte3, bytes, reads⟩ := LittleEndian.exists_ofU32 m.delta
  obtain ⟨portId, mode, delta, enableNotifications⟩ := m
  simp only [parsePayload, known]
  cases enableNotifications <;>
    simp_all [parsePortInputFormatSetup]

theorem parsePayload_portOutputCommand (m : PortOutputCommand) :
    parsePayload MessageType.portOutputCommand.asU8
        ([m.portId, m.startupAndCompletion] ++ m.payload) =
      .ret (.ok (.portOutputCommand m)) := by
  have known : tryFrom MessageType.portOutputCommand.asU8 = .ok MessageType.portOutputCommand :=
    tryFrom_asU8 _
  simp only [parsePayload, known]
  simp [parsePortOutputCommand, sliceFrom_eq_ret]

/-! ## Messages -/

/-- The body of an encodable message is a type byte and the payload from which
`parsePayload` recovers the message. -/
theorem encodeInner_spec {message : LpfMessage} (encodable : message.HostEncodable) :
    ∃ msgTypeByte payload, encodeInner message = msgTypeByte :: payload ∧
      parsePayload msgTypeByte payload = .ret (.ok message) := by
  cases message with
  | hubProperty m => exact ⟨_, _, rfl, parsePayload_hubProperty m⟩
  | hubAction action => exact ⟨_, _, rfl, parsePayload_hubAction action⟩
  | portInputFormatSetupSingle m => exact ⟨_, _, rfl, parsePayload_portInputFormatSetup m⟩
  | portOutputCommand m => exact ⟨_, _, rfl, parsePayload_portOutputCommand m⟩
  | unknown messageType payload => exact ⟨_, _, rfl, parsePayload_unknown encodable payload⟩
  | _ => exact encodable.elim

theorem length_encode (message : LpfMessage) :
    (encode message).length = (encodeInner message).length + 2 := by
  simp [encode]

/-- An encoding whose length fits the length byte is a frame. -/
theorem isFrame_encode {message : LpfMessage} (fits : (encode message).length ≤ 255) :
    IsFrame (encode message) := by
  rw [length_encode] at fits
  simp only [encode, List.cons_append, List.nil_append, isFrame_cons, List.length_cons]
  rw [UInt8.toNat_ofNat']
  omega

theorem parse_encode {message : LpfMessage} (encodable : message.HostEncodable)
    (fits : (encode message).length ≤ 255) : parse (encode message) = .ret (.ok message) := by
  have frame := isFrame_encode fits
  obtain ⟨msgTypeByte, payload, body, parses⟩ := encodeInner_spec encodable
  simp only [encode, body, List.cons_append, List.nil_append] at frame ⊢
  rw [isFrame_cons] at frame
  rw [parse_frame (by simpa using frame), parses]

/-- Frame and round trip hold for no other messages. -/
theorem encode_round_trip_iff {message : LpfMessage} :
    (IsFrame (encode message) ∧ parse (encode message) = .ret (.ok message)) ↔
      message.HostEncodable ∧ (encode message).length ≤ 255 := by
  constructor
  · rintro ⟨frame, parses⟩
    refine ⟨?_, frame.length_le⟩
    cases message with
    | hubProperty m => trivial
    | hubAction action => trivial
    | portInputFormatSetupSingle m => trivial
    | portOutputCommand m => trivial
    | unknown messageType payload =>
        have declared := frame
        simp only [encode, encodeInner, List.cons_append, List.nil_append, isFrame_cons]
          at declared
        simp only [encode, encodeInner, List.cons_append, List.nil_append] at parses
        rw [parse_frame declared] at parses
        exact (parsePayload_eq_unknown.mp parses).1
    | _ => cases parses
  · rintro ⟨encodable, fits⟩
    exact ⟨isFrame_encode fits, parse_encode encodable fits⟩

/-! ## Streams -/

/-- Any cutting of the concatenated encodings of encodable messages is
reassembled and parsed to the same messages, and nothing is left over. -/
theorem stream_round_trip (messages : List LpfMessage)
    (encodable : ∀ message ∈ messages,
      message.HostEncodable ∧ (encode message).length ≤ 255)
    (chunks : List Bytes) (cut : chunks.flatten = (messages.map encode).flatten) :
    ∃ batches, FrameBuffer.new.pushAll chunks = .ret (batches, FrameBuffer.new) ∧
      batches.flatten.map parse = messages.map fun message => .ret (.ok message) := by
  have valid : ∀ frame ∈ messages.map encode, framing.Valid frame := by
    intro frame membership
    obtain ⟨message, messageMem, rfl⟩ := List.mem_map.mp membership
    exact isFrame_encode (encodable message messageMem).2
  have drained := framing.drain_flatten_append valid []
  rw [List.append_nil, ← cut, framing.drain_of_exhausted framing.exhausted_nil, List.append_nil,
    ← List.nil_append chunks.flatten, ← framing.feed_eq_drain framing.exhausted_nil] at drained
  obtain ⟨framesEqual, residualEqual⟩ := Prod.mk.inj drained
  refine ⟨(framing.feed [] chunks).1, ?_, ?_⟩
  · rw [FrameBuffer.pushAll_eq]
    exact congrArg (fun residual => Checked.ret (_, FrameBuffer.mk residual)) residualEqual
  · rw [framesEqual, List.map_map]
    apply List.map_congr_left
    intro message membership
    obtain ⟨hostEncodable, fits⟩ := encodable message membership
    exact parse_encode hostEncodable fits

/-- An action and a raw message cut inside the length byte's frame. -/
theorem stream_round_trip_two_messages :
    ∃ batches, FrameBuffer.new.pushAll [[4], [0, 2, 1, 4, 0], [], [8, 7]] =
        .ret (batches, FrameBuffer.new) ∧
      batches.flatten.map parse =
        [.hubAction .switchOffHub, .unknown 0x08 [7]].map fun message => .ret (.ok message) :=
  stream_round_trip [.hubAction .switchOffHub, .unknown 0x08 [7]] (by decide)
    [[4], [0, 2, 1, 4, 0], [], [8, 7]] (by decide)

end PoweredUp

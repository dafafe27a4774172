import PoweredUp.Protocol.RoundTrip

/-!
# The grammar of frames

What `parse` accepts, twice: as a table of length and discriminant conditions for
each type byte, and as the relation between a payload and the message it denotes.
The outcome depends on nothing but the type byte and the payload.
-/

namespace PoweredUp

open Rust WireEnum Checked

/-- The byte is the discriminant of a variant. -/
def IsVariant (α : Type) [WireEnum α] (byte : UInt8) : Prop :=
  ∃ variant : α, asU8 variant = byte

/-- The conditions on a payload, by type byte.  Other types have none. -/
structure Accepts (msgTypeByte : UInt8) (payload : Bytes) : Prop where
  hubProperty : msgTypeByte = 0x01 → 2 ≤ payload.length ∧
    IsVariant HubPropertyReference (payload.getD 0 0) ∧
    IsVariant HubPropertyOperation (payload.getD 1 0)
  hubAction : msgTypeByte = 0x02 → 1 ≤ payload.length ∧ IsVariant ActionType (payload.getD 0 0)
  hubAlert : msgTypeByte = 0x03 → 2 ≤ payload.length ∧ IsVariant AlertType (payload.getD 0 0) ∧
    IsVariant AlertPayload (payload.getD 1 0)
  hubAttachedIo : msgTypeByte = 0x04 → 2 ≤ payload.length ∧ IsVariant IoEvent (payload.getD 1 0)
  twoBytes : msgTypeByte ∈ [0x05, 0x47, 0x81] → 2 ≤ payload.length
  portInputFormatSetup : msgTypeByte = 0x41 → 7 ≤ payload.length
  portValueSingle : msgTypeByte = 0x45 → 1 ≤ payload.length
  portOutputFeedback : msgTypeByte = 0x82 → 2 ≤ payload.length ∧ payload.length % 2 = 0 ∧
    ∀ index, 2 * index + 1 < payload.length →
      IsVariant CommandFeedback (payload.getD (2 * index + 1) 0)

/-- The message that a payload denotes, by type byte. -/
inductive Denotes : UInt8 → Bytes → LpfMessage → Prop where
  | hubProperty (property : HubPropertyReference) (operation : HubPropertyOperation)
      (rest : Bytes) :
      Denotes 0x01 (property.asU8 :: operation.asU8 :: rest)
        (.hubProperty ⟨property, operation, rest⟩)
  | hubAction (action : ActionType) (rest : Bytes) :
      Denotes 0x02 (action.asU8 :: rest) (.hubAction action)
  | hubAlert (alertType : AlertType) (alertPayload : AlertPayload) (rest : Bytes) :
      Denotes 0x03 (alertType.asU8 :: alertPayload.asU8 :: rest)
        (.hubAlert ⟨alertType, alertPayload⟩)
  | hubAttachedIo {portId : UInt8} {event : IoEvent} {rest : Bytes}
      {attached : Option AttachedIoInfo} {virtualAttached : Option VirtualIoInfo} :
      parseAttachment (portId :: event.asU8 :: rest) event = .ret (attached, virtualAttached) →
      Denotes 0x04 (portId :: event.asU8 :: rest)
        (.hubAttachedIo ⟨portId, event, attached, virtualAttached⟩)
  | genericError (command code : UInt8) (rest : Bytes) :
      Denotes 0x05 (command :: code :: rest) (.genericError command code)
  | portInputFormatSetupSingle (portId mode delta0 delta1 delta2 delta3 enable : UInt8)
      (rest : Bytes) :
      Denotes 0x41 (portId :: mode :: delta0 :: delta1 :: delta2 :: delta3 :: enable :: rest)
        (.portInputFormatSetupSingle
          ⟨portId, mode, LittleEndian.u32 delta0 delta1 delta2 delta3, enable != 0⟩)
  | portValueSingle (portId : UInt8) (data : Bytes) :
      Denotes 0x45 (portId :: data) (.portValueSingle ⟨portId, data⟩)
  | portInputFormatSingle (portId mode : UInt8) (rest : Bytes) :
      Denotes 0x47 (portId :: mode :: rest) (.portInputFormatSingle ⟨portId, mode⟩)
  | portOutputCommand (portId startupAndCompletion : UInt8) (rest : Bytes) :
      Denotes 0x81 (portId :: startupAndCompletion :: rest)
        (.portOutputCommand ⟨portId, startupAndCompletion, rest⟩)
  | portOutputCommandFeedback {entries : List (UInt8 × CommandFeedback)} :
      entries ≠ [] →
      Denotes 0x82 (entries.flatMap fun entry => [entry.1, entry.2.asU8])
        (.portOutputCommandFeedback ⟨entries⟩)
  | unknown {msgTypeByte : UInt8} (undecoded : msgTypeByte ∉ decodedTypeBytes)
      (payload : Bytes) :
      Denotes msgTypeByte payload (.unknown msgTypeByte payload)

/-! ## Denotation -/

theorem length_feedback (entries : List (UInt8 × CommandFeedback)) :
    (entries.flatMap fun entry => [entry.1, entry.2.asU8]).length = 2 * entries.length := by
  induction entries with
  | nil => rfl
  | cons entry entries ih =>
      simp only [List.flatMap_cons, List.length_append, List.length_cons, List.length_nil, ih]
      omega

/-- A decoded type denotes what its payload parser returns. -/
theorem denotes_of_decoded {kind : MessageType} (decoded : kind.asU8 ∈ decodedTypeBytes)
    {payload : Bytes} {message : LpfMessage}
    (parsed : parsePayload kind.asU8 payload = .ret (.ok message)) :
    Denotes kind.asU8 payload message := by
  have known : tryFrom kind.asU8 = .ok kind := tryFrom_asU8 kind
  simp only [parsePayload, known] at parsed
  cases kind with
  | hubProperties =>
      obtain ⟨property, operation, rest, rfl, rfl⟩ := parseHubProperty_eq_ok.mp parsed
      exact .hubProperty property operation rest
  | hubActions =>
      obtain ⟨action, rest, rfl, rfl⟩ := parseHubAction_eq_ok.mp parsed
      exact .hubAction action rest
  | hubAlerts =>
      obtain ⟨alertType, alertPayload, rest, rfl, rfl⟩ := parseHubAlert_eq_ok.mp parsed
      exact .hubAlert alertType alertPayload rest
  | hubAttachedIo =>
      obtain ⟨portId, event, rest, _, _, rfl, read, rfl⟩ := parseHubAttachedIo_eq_ok.mp parsed
      exact .hubAttachedIo read
  | genericErrorMessages =>
      obtain ⟨command, code, rest, rfl, rfl⟩ := parseGenericError_eq_ok.mp parsed
      exact .genericError command code rest
  | portInputFormatSetupSingle =>
      obtain ⟨portId, mode, delta0, delta1, delta2, delta3, enable, rest, rfl, rfl⟩ :=
        parsePortInputFormatSetup_eq_ok.mp parsed
      exact .portInputFormatSetupSingle portId mode delta0 delta1 delta2 delta3 enable rest
  | portValueSingle =>
      obtain ⟨portId, data, rfl, rfl⟩ := parsePortValueSingle_eq_ok.mp parsed
      exact .portValueSingle portId data
  | portInputFormatSingle =>
      obtain ⟨portId, mode, rest, rfl, rfl⟩ := parsePortInputFormatSingle_eq_ok.mp parsed
      exact .portInputFormatSingle portId mode rest
  | portOutputCommand =>
      obtain ⟨portId, startupAndCompletion, rest, rfl, rfl⟩ :=
        parsePortOutputCommand_eq_ok.mp parsed
      exact .portOutputCommand portId startupAndCompletion rest
  | portOutputCommandFeedback =>
      obtain ⟨long, even, entries, collected, rfl⟩ := parsePortOutputFeedback_eq_ok.mp parsed
      obtain rfl := (collectResult_feedback_eq_ok even).mp collected
      refine .portOutputCommandFeedback ?_
      rintro rfl
      cases long
  | _ => exact absurd decoded (by decide)

/-- The parser computes the denotation. -/
theorem parsePayload_eq_ok {msgTypeByte : UInt8} {payload : Bytes} {message : LpfMessage} :
    parsePayload msgTypeByte payload = .ret (.ok message) ↔
      Denotes msgTypeByte payload message := by
  constructor
  · intro parsed
    by_cases decoded : msgTypeByte ∈ decodedTypeBytes
    · obtain ⟨kind, rfl⟩ := exists_of_decoded decoded
      exact denotes_of_decoded decoded parsed
    · rw [parsePayload_unknown decoded] at parsed
      cases parsed
      exact .unknown decoded payload
  · intro denotes
    cases denotes with
    | hubProperty property operation rest =>
        exact parseHubProperty_eq_ok.mpr ⟨property, operation, rest, rfl, rfl⟩
    | hubAction action rest => exact parseHubAction_eq_ok.mpr ⟨action, rest, rfl, rfl⟩
    | hubAlert alertType alertPayload rest =>
        exact parseHubAlert_eq_ok.mpr ⟨alertType, alertPayload, rest, rfl, rfl⟩
    | hubAttachedIo read =>
        exact parseHubAttachedIo_eq_ok.mpr ⟨_, _, _, _, _, rfl, read, rfl⟩
    | genericError command code rest =>
        exact parseGenericError_eq_ok.mpr ⟨command, code, rest, rfl, rfl⟩
    | portInputFormatSetupSingle portId mode delta0 delta1 delta2 delta3 enable rest =>
        exact parsePortInputFormatSetup_eq_ok.mpr
          ⟨portId, mode, delta0, delta1, delta2, delta3, enable, rest, rfl, rfl⟩
    | portValueSingle portId data => exact parsePortValueSingle_eq_ok.mpr ⟨portId, data, rfl, rfl⟩
    | portInputFormatSingle portId mode rest =>
        exact parsePortInputFormatSingle_eq_ok.mpr ⟨portId, mode, rest, rfl, rfl⟩
    | portOutputCommand portId startupAndCompletion rest =>
        exact parsePortOutputCommand_eq_ok.mpr ⟨portId, startupAndCompletion, rest, rfl, rfl⟩
    | @portOutputCommandFeedback entries nonempty =>
        have positive := List.length_pos_iff.mpr nonempty
        have even : (entries.flatMap fun entry => [entry.1, entry.2.asU8]).length % 2 = 0 := by
          rw [length_feedback]
          omega
        refine parsePortOutputFeedback_eq_ok.mpr ⟨?_, even, entries, ?_, rfl⟩
        · rw [length_feedback]
          omega
        · exact (collectResult_feedback_eq_ok even).mpr rfl
    | unknown undecoded payload => exact parsePayload_unknown undecoded payload

/-- Attachment data is present exactly when the payload holds it. -/
theorem isSome_attachment {msgTypeByte : UInt8} {payload : Bytes} {m : HubAttachedIoMessage}
    (denotes : Denotes msgTypeByte payload (.hubAttachedIo m)) :
    (m.attached.isSome ↔ m.event = .attachedIo ∧ 12 ≤ payload.length) ∧
      (m.virtualAttached.isSome ↔ m.event = .attachedVirtualIo ∧ 6 ≤ payload.length) := by
  cases denotes with
  | hubAttachedIo read => exact isSome_parseAttachment read

/-! ## Acceptance -/

theorem exists_two {payload : Bytes} (long : 2 ≤ payload.length) :
    ∃ first second rest, payload = first :: second :: rest := by
  match payload with
  | first :: second :: rest => exact ⟨first, second, rest, rfl⟩

/-- Pairs with a discriminant in second place are the bytes of feedback entries. -/
theorem exists_entries {payload : Bytes} (even : payload.length % 2 = 0)
    (feedbacks : ∀ index, 2 * index + 1 < payload.length →
      IsVariant CommandFeedback (payload.getD (2 * index + 1) 0)) :
    ∃ entries : List (UInt8 × CommandFeedback),
      payload = entries.flatMap fun entry => [entry.1, entry.2.asU8] := by
  induction payload using chunksExact2.induct with
  | case1 first second rest ih =>
      simp only [List.length_cons] at even feedbacks
      obtain ⟨feedback, rfl⟩ := feedbacks 0 (by omega)
      obtain ⟨entries, rfl⟩ := ih (by omega) fun index inBounds => by
        have shifted := feedbacks (index + 1) (by omega)
        have position : 2 * (index + 1) + 1 = 2 * index + 1 + 1 + 1 := by omega
        rw [position] at shifted
        simpa only [List.getD_cons_succ] using shifted
      exact ⟨(first, feedback) :: entries, rfl⟩
  | case2 payload short =>
      cases payload with
      | nil => exact ⟨[], rfl⟩
      | cons first rest =>
          cases rest with
          | nil => cases even
          | cons second rest => exact (short first second rest rfl).elim

/-- The second byte of every entry is a discriminant. -/
theorem isVariant_feedback (entries : List (UInt8 × CommandFeedback)) (index : Nat)
    (inBounds : 2 * index + 1 < (entries.flatMap fun entry => [entry.1, entry.2.asU8]).length) :
    IsVariant CommandFeedback
      ((entries.flatMap fun entry => [entry.1, entry.2.asU8]).getD (2 * index + 1) 0) := by
  induction entries generalizing index with
  | nil => cases inBounds
  | cons entry entries ih =>
      cases index with
      | zero => exact ⟨entry.2, rfl⟩
      | succ index =>
          have position : 2 * (index + 1) + 1 = 2 * index + 1 + 1 + 1 := by omega
          simp only [List.flatMap_cons, List.cons_append, List.nil_append, List.length_cons,
            position, List.getD_cons_succ] at inBounds ⊢
          exact ih index (by omega)

theorem accepts_of_denotes {msgTypeByte : UInt8} {payload : Bytes} {message : LpfMessage}
    (denotes : Denotes msgTypeByte payload message) : Accepts msgTypeByte payload := by
  cases denotes with
  | hubProperty property operation rest =>
      constructor
      case hubProperty =>
        intro _
        exact ⟨Nat.le_add_left 2 _, ⟨property, rfl⟩, ⟨operation, rfl⟩⟩
      all_goals exact fun mismatch => absurd mismatch (by decide)
  | hubAction action rest =>
      constructor
      case hubAction =>
        intro _
        exact ⟨Nat.le_add_left 1 _, ⟨action, rfl⟩⟩
      all_goals exact fun mismatch => absurd mismatch (by decide)
  | hubAlert alertType alertPayload rest =>
      constructor
      case hubAlert =>
        intro _
        exact ⟨Nat.le_add_left 2 _, ⟨alertType, rfl⟩, ⟨alertPayload, rfl⟩⟩
      all_goals exact fun mismatch => absurd mismatch (by decide)
  | @hubAttachedIo portId event rest _ _ read =>
      constructor
      case hubAttachedIo =>
        intro _
        exact ⟨Nat.le_add_left 2 _, ⟨event, rfl⟩⟩
      all_goals exact fun mismatch => absurd mismatch (by decide)
  | genericError command code rest =>
      constructor
      case twoBytes => exact fun _ => Nat.le_add_left 2 _
      all_goals exact fun mismatch => absurd mismatch (by decide)
  | portInputFormatSetupSingle =>
      constructor
      case portInputFormatSetup => exact fun _ => Nat.le_add_left 7 _
      all_goals exact fun mismatch => absurd mismatch (by decide)
  | portValueSingle portId data =>
      constructor
      case portValueSingle => exact fun _ => Nat.le_add_left 1 _
      all_goals exact fun mismatch => absurd mismatch (by decide)
  | portInputFormatSingle portId mode rest =>
      constructor
      case twoBytes => exact fun _ => Nat.le_add_left 2 _
      all_goals exact fun mismatch => absurd mismatch (by decide)
  | portOutputCommand portId startupAndCompletion rest =>
      constructor
      case twoBytes => exact fun _ => Nat.le_add_left 2 _
      all_goals exact fun mismatch => absurd mismatch (by decide)
  | @portOutputCommandFeedback entries nonempty =>
      have positive := List.length_pos_iff.mpr nonempty
      constructor
      case portOutputFeedback =>
        intro _
        refine ⟨?_, ?_, isVariant_feedback entries⟩
        · rw [length_feedback]
          omega
        · rw [length_feedback]
          omega
      all_goals exact fun mismatch => absurd mismatch (by decide)
  | unknown undecoded payload =>
      have twoBytes : [0x05, 0x47, 0x81] ⊆ decodedTypeBytes := by decide
      constructor
      case twoBytes => exact fun membership => absurd (twoBytes membership) undecoded
      all_goals
        rintro rfl
        exact absurd (by decide) undecoded

theorem exists_denotes {msgTypeByte : UInt8} {payload : Bytes}
    (accepts : Accepts msgTypeByte payload) : ∃ message, Denotes msgTypeByte payload message := by
  by_cases decoded : msgTypeByte ∈ decodedTypeBytes
  · obtain ⟨kind, rfl⟩ := exists_of_decoded decoded
    cases kind with
    | hubProperties =>
        obtain ⟨long, ⟨property, isProperty⟩, ⟨operation, isOperation⟩⟩ := accepts.hubProperty rfl
        obtain ⟨first, second, rest, rfl⟩ := exists_two long
        cases isProperty
        cases isOperation
        exact ⟨_, .hubProperty property operation rest⟩
    | hubActions =>
        obtain ⟨long, ⟨action, isAction⟩⟩ := accepts.hubAction rfl
        match payload with
        | first :: rest =>
            cases isAction
            exact ⟨_, .hubAction action rest⟩
    | hubAlerts =>
        obtain ⟨long, ⟨alertType, isType⟩, ⟨alertPayload, isPayload⟩⟩ := accepts.hubAlert rfl
        obtain ⟨first, second, rest, rfl⟩ := exists_two long
        cases isType
        cases isPayload
        exact ⟨_, .hubAlert alertType alertPayload rest⟩
    | hubAttachedIo =>
        obtain ⟨long, ⟨event, isEvent⟩⟩ := accepts.hubAttachedIo rfl
        obtain ⟨portId, second, rest, rfl⟩ := exists_two long
        cases isEvent
        obtain ⟨⟨attached, virtualAttached⟩, read⟩ :=
          parseAttachment_returns (portId :: event.asU8 :: rest) event
        exact ⟨_, .hubAttachedIo read⟩
    | genericErrorMessages =>
        obtain ⟨command, code, rest, rfl⟩ := exists_two (accepts.twoBytes (by decide))
        exact ⟨_, .genericError command code rest⟩
    | portInputFormatSetupSingle =>
        have long := accepts.portInputFormatSetup rfl
        match payload with
        | portId :: mode :: delta0 :: delta1 :: delta2 :: delta3 :: enable :: rest =>
            exact ⟨_, .portInputFormatSetupSingle portId mode delta0 delta1 delta2 delta3 enable
              rest⟩
    | portValueSingle =>
        have long := accepts.portValueSingle rfl
        match payload with
        | portId :: data => exact ⟨_, .portValueSingle portId data⟩
    | portInputFormatSingle =>
        obtain ⟨portId, mode, rest, rfl⟩ := exists_two (accepts.twoBytes (by decide))
        exact ⟨_, .portInputFormatSingle portId mode rest⟩
    | portOutputCommand =>
        obtain ⟨portId, startupAndCompletion, rest, rfl⟩ :=
          exists_two (accepts.twoBytes (by decide))
        exact ⟨_, .portOutputCommand portId startupAndCompletion rest⟩
    | portOutputCommandFeedback =>
        obtain ⟨long, even, feedbacks⟩ := accepts.portOutputFeedback rfl
        obtain ⟨entries, rfl⟩ := exists_entries even feedbacks
        refine ⟨_, .portOutputCommandFeedback ?_⟩
        rintro rfl
        cases long
    | _ => exact absurd decoded (by decide)
  · exact ⟨_, .unknown decoded payload⟩

/-! ## Frames -/

/-- Another reserved byte, or other bytes behind the declared end, make the same
type byte and payload. -/
theorem header_of_same {buf : Bytes} (declared : 3 ≤ declaredLength buf)
    (fits : declaredLength buf ≤ buf.length) (reserved : UInt8) (more : Bytes) :
    declaredLength ((buf.take (declaredLength buf) ++ more).set 1 reserved) = declaredLength buf ∧
      typeByte ((buf.take (declaredLength buf) ++ more).set 1 reserved) = typeByte buf ∧
      payloadOf ((buf.take (declaredLength buf) ++ more).set 1 reserved) = payloadOf buf ∧
      declaredLength buf ≤ ((buf.take (declaredLength buf) ++ more).set 1 reserved).length := by
  match buf with
  | [] => cases declared
  | [first] => exact absurd (declared.trans fits) (by simp)
  | [first, reserved'] => exact absurd (declared.trans fits) (by simp)
  | first :: reserved' :: msgTypeByte :: rest =>
      obtain ⟨count, length⟩ := Nat.exists_eq_add_of_le' declared
      have enough : count ≤ rest.length := by
        rw [length] at fits
        simp only [List.length_cons] at fits
        omega
      have same : ((first :: reserved' :: msgTypeByte :: rest).take (count + 3) ++ more).set 1
          reserved = first :: reserved :: msgTypeByte :: (rest.take count ++ more) := rfl
      have declares : first.toNat = count + 3 := length
      rw [length, same]
      refine ⟨length, rfl, ?_, ?_⟩
      · simp [payloadOf, declaredLength, declares, enough]
      · simp only [List.length_cons, List.length_append, List.length_take, Nat.min_eq_left enough]
        omega

/-- A slice with a well-formed header is accepted exactly when its payload meets the
conditions of its type byte, and it is parsed to the message that the payload
denotes.  Attachment data is present exactly when the payload holds it.  The
outcome depends on the type byte and the payload alone. -/
theorem parse_grammar {buf : Bytes} (declared : 3 ≤ declaredLength buf)
    (fits : declaredLength buf ≤ buf.length) :
    ((∃ message, parse buf = .ret (.ok message)) ↔ Accepts (typeByte buf) (payloadOf buf)) ∧
    (∀ message, parse buf = .ret (.ok message) ↔
      Denotes (typeByte buf) (payloadOf buf) message) ∧
    (typeByte buf ∉ decodedTypeBytes →
      parse buf = .ret (.ok (.unknown (typeByte buf) (payloadOf buf)))) ∧
    (∀ m, parse buf = .ret (.ok (.hubAttachedIo m)) →
      (m.attached.isSome ↔ m.event = .attachedIo ∧ 12 ≤ (payloadOf buf).length) ∧
      (m.virtualAttached.isSome ↔ m.event = .attachedVirtualIo ∧ 6 ≤ (payloadOf buf).length)) ∧
    (∀ other, 3 ≤ declaredLength other → declaredLength other ≤ other.length →
      typeByte other = typeByte buf → payloadOf other = payloadOf buf → parse other = parse buf) ∧
    ∀ (reserved : UInt8) (more : Bytes),
      parse ((buf.take (declaredLength buf) ++ more).set 1 reserved) = parse buf := by
  have parses := parse_of_declared declared fits
  have depends : ∀ other, 3 ≤ declaredLength other → declaredLength other ≤ other.length →
      typeByte other = typeByte buf → payloadOf other = payloadOf buf →
      parse other = parse buf := by
    intro other otherDeclared otherFits sameType samePayload
    rw [parse_of_declared otherDeclared otherFits, sameType, samePayload, parses]
  refine ⟨?_, ?_, ?_, ?_, depends, ?_⟩
  · constructor
    · rintro ⟨message, parsed⟩
      rw [parses] at parsed
      exact accepts_of_denotes (parsePayload_eq_ok.mp parsed)
    · intro accepts
      obtain ⟨message, denotes⟩ := exists_denotes accepts
      rw [parses]
      exact ⟨message, parsePayload_eq_ok.mpr denotes⟩
  · intro message
    rw [parses, parsePayload_eq_ok]
  · intro undecoded
    rw [parses, parsePayload_unknown undecoded]
  · intro m parsed
    rw [parses, parsePayload_eq_ok] at parsed
    exact isSome_attachment parsed
  · intro reserved more
    obtain ⟨sameLength, sameType, samePayload, enough⟩ :=
      header_of_same declared fits reserved more
    refine depends _ ?_ ?_ sameType samePayload
    · rw [sameLength]
      exact declared
    · rw [sameLength]
      exact enough

/-- One feedback entry, with a reserved byte and a trailing byte that do not
matter. -/
theorem parse_grammar_feedback :
    parse [5, 7, 0x82, 1, 0x20, 9] =
      .ret (.ok (.portOutputCommandFeedback ⟨[(1, .executionPending)]⟩)) ∧
    parse [5, 0, 0x82, 1, 0x20] = parse [5, 7, 0x82, 1, 0x20, 9] := by
  obtain ⟨_, denoted, _, _, _, same⟩ :=
    parse_grammar (show 3 ≤ declaredLength [5, 7, 0x82, 1, 0x20, 9] by decide) (by decide)
  have nonempty : [((1 : UInt8), CommandFeedback.executionPending)] ≠ [] := by decide
  exact ⟨(denoted _).mpr (.portOutputCommandFeedback nonempty), same 0 []⟩

end PoweredUp

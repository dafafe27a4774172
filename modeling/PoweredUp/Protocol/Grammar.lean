import PoweredUp.Protocol.Message

/-!
# What the payload parsers accept

One specification for each payload parser: the payloads it accepts, written as
patterns, and the message it makes of them.
-/

namespace PoweredUp

open Rust WireEnum Checked

variable {payload : Bytes} {message : LpfMessage}

theorem parseHubProperty_eq_ok :
    parseHubProperty payload = .ret (.ok message) ↔
      ∃ (property : HubPropertyReference) (operation : HubPropertyOperation) (rest : Bytes),
        payload = property.asU8 :: operation.asU8 :: rest ∧
        message = .hubProperty ⟨property, operation, rest⟩ := by
  rcases payload with _ | ⟨first, _ | ⟨second, rest⟩⟩
  · simp [parseHubProperty]
  · simp [parseHubProperty]
  · simp only [parseHubProperty, List.length_cons, Nat.not_lt.mpr (Nat.le_add_left 2 _), if_false,
      index_cons_zero, index_cons_succ, sliceFrom_cons_succ, sliceFrom_zero, ret_bind,
      propagate_eq_ok, tryFrom_eq_ok]
    constructor
    · rintro ⟨property, rfl, operation, rfl, equality⟩
      cases equality
      exact ⟨property, operation, rest, rfl, rfl⟩
    · rintro ⟨property, operation, tail, equality, rfl⟩
      cases equality
      exact ⟨property, rfl, operation, rfl, rfl⟩

theorem parseHubAction_eq_ok :
    parseHubAction payload = .ret (.ok message) ↔
      ∃ (action : ActionType) (rest : Bytes),
        payload = action.asU8 :: rest ∧ message = .hubAction action := by
  cases payload with
  | nil => simp [parseHubAction]
  | cons first rest =>
      simp only [parseHubAction, List.isEmpty_cons, Bool.false_eq_true, if_false,
        index_cons_zero, ret_bind, propagate_eq_ok, tryFrom_eq_ok]
      constructor
      · rintro ⟨action, rfl, equality⟩
        cases equality
        exact ⟨action, rest, rfl, rfl⟩
      · rintro ⟨action, tail, equality, rfl⟩
        cases equality
        exact ⟨action, rfl, rfl⟩

theorem parseHubAlert_eq_ok :
    parseHubAlert payload = .ret (.ok message) ↔
      ∃ (alertType : AlertType) (alertPayload : AlertPayload) (rest : Bytes),
        payload = alertType.asU8 :: alertPayload.asU8 :: rest ∧
        message = .hubAlert ⟨alertType, alertPayload⟩ := by
  rcases payload with _ | ⟨first, _ | ⟨second, rest⟩⟩
  · simp [parseHubAlert]
  · simp [parseHubAlert]
  · simp only [parseHubAlert, List.length_cons, Nat.not_lt.mpr (Nat.le_add_left 2 _), if_false,
      index_cons_zero, index_cons_succ, ret_bind, propagate_eq_ok, tryFrom_eq_ok]
    constructor
    · rintro ⟨alertType, rfl, alertPayload, rfl, equality⟩
      cases equality
      exact ⟨alertType, alertPayload, rest, rfl, rfl⟩
    · rintro ⟨alertType, alertPayload, tail, equality, rfl⟩
      cases equality
      exact ⟨alertType, rfl, alertPayload, rfl, rfl⟩

theorem parseHubAttachedIo_eq_ok :
    parseHubAttachedIo payload = .ret (.ok message) ↔
      ∃ (portId : UInt8) (event : IoEvent) (rest : Bytes) (attached : Option AttachedIoInfo)
        (virtualAttached : Option VirtualIoInfo),
        payload = portId :: event.asU8 :: rest ∧
        parseAttachment payload event = .ret (attached, virtualAttached) ∧
        message = .hubAttachedIo ⟨portId, event, attached, virtualAttached⟩ := by
  rcases payload with _ | ⟨first, _ | ⟨second, rest⟩⟩
  · simp [parseHubAttachedIo]
  · have outOfBounds : index [first] 1 = .panic .indexOutOfBounds := rfl
    simp [parseHubAttachedIo, outOfBounds]
  · simp only [parseHubAttachedIo, List.isEmpty_cons, Bool.false_eq_true, if_false,
      index_cons_zero, index_cons_succ, ret_bind, propagate_eq_ok, tryFrom_eq_ok]
    constructor
    · rintro ⟨event, rfl, decoded⟩
      obtain ⟨⟨attached, virtualAttached⟩, read, equality⟩ := bind_eq_ret.mp decoded
      cases equality
      exact ⟨first, event, rest, attached, virtualAttached, rfl, read, rfl⟩
    · rintro ⟨portId, event, tail, attached, virtualAttached, equality, read, rfl⟩
      cases equality
      exact ⟨event, rfl, bind_eq_ret.mpr ⟨_, read, rfl⟩⟩

/-- Attachment data is present exactly for an event whose payload holds it. -/
theorem isSome_parseAttachment {event : IoEvent} {attached : Option AttachedIoInfo}
    {virtualAttached : Option VirtualIoInfo}
    (read : parseAttachment payload event = .ret (attached, virtualAttached)) :
    (attached.isSome ↔ event = .attachedIo ∧ 12 ≤ payload.length) ∧
      (virtualAttached.isSome ↔ event = .attachedVirtualIo ∧ 6 ≤ payload.length) := by
  cases event with
  | detachedIo =>
      cases read
      simp
  | attachedIo =>
      simp only [parseAttachment] at read
      split at read
      case isTrue long =>
        simp (disch := omega) only [index_eq_ret, ret_bind] at read
        obtain ⟨hwVersion, _, continues⟩ := bind_eq_ret.mp read
        obtain ⟨swVersion, _, equality⟩ := bind_eq_ret.mp continues
        cases equality
        simpa using long
      case isFalse short =>
        cases read
        simpa using short
  | attachedVirtualIo =>
      simp only [parseAttachment] at read
      split at read
      case isTrue long =>
        simp (disch := omega) only [index_eq_ret, ret_bind] at read
        cases read
        simpa using long
      case isFalse short =>
        cases read
        simpa using short

theorem parseGenericError_eq_ok :
    parseGenericError payload = .ret (.ok message) ↔
      ∃ (command code : UInt8) (rest : Bytes),
        payload = command :: code :: rest ∧ message = .genericError command code := by
  rcases payload with _ | ⟨first, _ | ⟨second, rest⟩⟩
  · simp [parseGenericError]
  · simp [parseGenericError]
  · have long : ¬rest.length + 1 + 1 < 2 := by omega
    simp [parseGenericError, long, @eq_comm _ message]

theorem parsePortInputFormatSetup_eq_ok :
    parsePortInputFormatSetup payload = .ret (.ok message) ↔
      ∃ (portId mode delta0 delta1 delta2 delta3 enable : UInt8) (rest : Bytes),
        payload = portId :: mode :: delta0 :: delta1 :: delta2 :: delta3 :: enable :: rest ∧
        message = .portInputFormatSetupSingle
          ⟨portId, mode, LittleEndian.u32 delta0 delta1 delta2 delta3, enable != 0⟩ := by
  rcases payload with
    _ | ⟨b0, _ | ⟨b1, _ | ⟨b2, _ | ⟨b3, _ | ⟨b4, _ | ⟨b5, _ | ⟨b6, rest⟩⟩⟩⟩⟩⟩⟩
  case cons.cons.cons.cons.cons.cons.cons =>
    have long : ¬rest.length + 1 + 1 + 1 + 1 + 1 + 1 + 1 < 7 := by omega
    simp [parsePortInputFormatSetup, long, @eq_comm _ message]
  all_goals simp [parsePortInputFormatSetup]

theorem parsePortValueSingle_eq_ok :
    parsePortValueSingle payload = .ret (.ok message) ↔
      ∃ (portId : UInt8) (data : Bytes),
        payload = portId :: data ∧ message = .portValueSingle ⟨portId, data⟩ := by
  cases payload with
  | nil => simp [parsePortValueSingle]
  | cons first rest => simp [parsePortValueSingle, @eq_comm _ message]

theorem parsePortInputFormatSingle_eq_ok :
    parsePortInputFormatSingle payload = .ret (.ok message) ↔
      ∃ (portId mode : UInt8) (rest : Bytes),
        payload = portId :: mode :: rest ∧ message = .portInputFormatSingle ⟨portId, mode⟩ := by
  rcases payload with _ | ⟨first, _ | ⟨second, rest⟩⟩
  · simp [parsePortInputFormatSingle]
  · simp [parsePortInputFormatSingle]
  · have long : ¬rest.length + 1 + 1 < 2 := by omega
    simp [parsePortInputFormatSingle, long, @eq_comm _ message]

theorem parsePortOutputCommand_eq_ok :
    parsePortOutputCommand payload = .ret (.ok message) ↔
      ∃ (portId startupAndCompletion : UInt8) (rest : Bytes),
        payload = portId :: startupAndCompletion :: rest ∧
        message = .portOutputCommand ⟨portId, startupAndCompletion, rest⟩ := by
  rcases payload with _ | ⟨first, _ | ⟨second, rest⟩⟩
  · simp [parsePortOutputCommand]
  · simp [parsePortOutputCommand]
  · have long : ¬rest.length + 1 + 1 < 2 := by omega
    simp [parsePortOutputCommand, long, @eq_comm _ message]

/-- The feedback entries of a payload are its consecutive pairs. -/
theorem collectResult_feedback_eq_ok {entries : List (UInt8 × CommandFeedback)}
    (even : payload.length % 2 = 0) :
    collectResult parseFeedbackEntry (chunksExact2 payload) = .ret (.ok entries) ↔
      payload = entries.flatMap fun entry => [entry.1, entry.2.asU8] := by
  induction payload using chunksExact2.induct generalizing entries with
  | case1 first second rest ih =>
      have restEven : rest.length % 2 = 0 := by
        simp only [List.length_cons] at even
        omega
      have parsed (entry : UInt8 × CommandFeedback) :
          parseFeedbackEntry [first, second] = .ret (.ok entry) ↔
            first = entry.1 ∧ second = entry.2.asU8 := by
        obtain ⟨portId, feedback⟩ := entry
        simp only [parseFeedbackEntry, index_cons_succ, index_cons_zero, ret_bind,
          propagate_eq_ok, tryFrom_eq_ok]
        constructor
        · rintro ⟨value, rfl, equality⟩
          cases equality
          exact ⟨rfl, rfl⟩
        · rintro ⟨rfl, rfl⟩
          exact ⟨feedback, rfl, rfl⟩
      rw [chunksExact2, collectResult_cons_eq_ok]
      simp only [parsed, ih restEven]
      constructor
      · rintro ⟨entry, remaining, ⟨rfl, rfl⟩, rfl, rfl⟩
        rfl
      · intro split
        cases entries with
        | nil => cases split
        | cons entry remaining =>
            simp only [List.flatMap_cons, List.cons_append, List.nil_append, List.cons.injEq]
              at split
            exact ⟨entry, remaining, ⟨split.1, split.2.1⟩, split.2.2, rfl⟩
  | case2 payload short =>
      have empty : payload = [] := by
        match payload with
        | [] => rfl
        | [single] => cases even
        | first :: second :: rest => exact (short first second rest rfl).elim
      subst empty
      rw [chunksExact2.eq_2 [] short, collectResult]
      cases entries with
      | nil => simp
      | cons entry remaining => simp

theorem parsePortOutputFeedback_eq_ok :
    parsePortOutputFeedback payload = .ret (.ok message) ↔
      2 ≤ payload.length ∧ payload.length % 2 = 0 ∧
        ∃ entries, collectResult parseFeedbackEntry (chunksExact2 payload) = .ret (.ok entries) ∧
          message = .portOutputCommandFeedback ⟨entries⟩ := by
  by_cases malformed : payload.length < 2 ∨ payload.length % 2 ≠ 0
  · simp only [parsePortOutputFeedback, malformed, if_true]
    refine iff_of_false (by simp) ?_
    rintro ⟨long, even, _⟩
    omega
  · have long : 2 ≤ payload.length := by omega
    have even : payload.length % 2 = 0 := by omega
    rw [parsePortOutputFeedback, if_neg malformed, bind_eq_ret]
    simp only [long, even, true_and]
    constructor
    · rintro ⟨collected, entriesCollected, continues⟩
      obtain ⟨entries, rfl, equality⟩ := propagate_eq_ok.mp continues
      cases equality
      exact ⟨entries, entriesCollected, rfl⟩
    · rintro ⟨entries, entriesCollected, rfl⟩
      exact ⟨.ok entries, entriesCollected, rfl⟩

end PoweredUp

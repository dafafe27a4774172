import PoweredUp.Protocol.Message

/-!
# Panics of the parser

Each payload parser guards its own indices.  All guards but one are as strong as
the indices they protect: `parse_hub_attached_io` reads the event byte of a
payload it only knows to be nonempty.  Together with the unguarded lower end of
the payload range this determines exactly the inputs on which `parse` panics.
-/

namespace PoweredUp

open Rust WireEnum Checked

theorem parseHubProperty_returns (payload : Bytes) : (parseHubProperty payload).Returns := by
  unfold parseHubProperty
  split
  · exact returns_ret _
  · simp (disch := omega) only [index_eq_ret, sliceFrom_eq_ret, ret_bind]
    exact propagate_returns fun _ _ => propagate_returns fun _ _ => returns_ret _

theorem parseHubAction_returns (payload : Bytes) : (parseHubAction payload).Returns := by
  cases payload with
  | nil => exact returns_ret _
  | cons action rest => exact propagate_returns fun _ _ => returns_ret _

theorem parseHubAlert_returns (payload : Bytes) : (parseHubAlert payload).Returns := by
  unfold parseHubAlert
  split
  · exact returns_ret _
  · simp (disch := omega) only [index_eq_ret, ret_bind]
    exact propagate_returns fun _ _ => propagate_returns fun _ _ => returns_ret _

theorem parseAttachment_returns (payload : Bytes) (event : IoEvent) :
    (parseAttachment payload event).Returns := by
  cases event with
  | detachedIo => exact returns_ret _
  | attachedIo =>
      simp only [parseAttachment]
      split
      · simp (disch := omega) only [index_eq_ret, ret_bind]
        refine returns_bind.mpr ?_
        obtain ⟨hwVersion, hwDecoded⟩ := Version.fromLeI32_returns _
        refine ⟨hwVersion, hwDecoded, ?_⟩
        refine returns_bind.mpr ?_
        obtain ⟨swVersion, swDecoded⟩ := Version.fromLeI32_returns _
        exact ⟨swVersion, swDecoded, returns_ret _⟩
      · exact returns_ret _
  | attachedVirtualIo =>
      simp only [parseAttachment]
      split
      · simp (disch := omega) only [index_eq_ret, ret_bind]
        exact returns_ret _
      · exact returns_ret _

/-- The event byte is read from every nonempty payload, so a payload of one byte
is out of bounds. -/
theorem parseHubAttachedIo_returns_iff (payload : Bytes) :
    (parseHubAttachedIo payload).Returns ↔ payload.length ≠ 1 := by
  rcases payload with _ | ⟨portId, _ | ⟨event, rest⟩⟩
  · exact iff_of_true (returns_ret _) (by simp)
  · exact iff_of_false (not_returns_panic _) (by simp)
  · refine iff_of_true (propagate_returns fun value _ => ?_) (by simp)
    obtain ⟨attachment, read⟩ := parseAttachment_returns (portId :: event :: rest) value
    rw [read]
    exact returns_ret _

theorem parseGenericError_returns (payload : Bytes) : (parseGenericError payload).Returns := by
  unfold parseGenericError
  split
  · exact returns_ret _
  · simp (disch := omega) only [index_eq_ret, ret_bind]
    exact returns_ret _

theorem parsePortInputFormatSetup_returns (payload : Bytes) :
    (parsePortInputFormatSetup payload).Returns := by
  unfold parsePortInputFormatSetup
  split
  · exact returns_ret _
  · simp (disch := omega) only [index_eq_ret, ret_bind]
    exact returns_ret _

theorem parsePortValueSingle_returns (payload : Bytes) :
    (parsePortValueSingle payload).Returns := by
  cases payload with
  | nil => exact returns_ret _
  | cons portId rest =>
      simp (disch := simp) only [parsePortValueSingle, index_cons_zero, sliceFrom_eq_ret, ret_bind]
      exact returns_ret _

theorem parsePortInputFormatSingle_returns (payload : Bytes) :
    (parsePortInputFormatSingle payload).Returns := by
  unfold parsePortInputFormatSingle
  split
  · exact returns_ret _
  · simp (disch := omega) only [index_eq_ret, ret_bind]
    exact returns_ret _

theorem parsePortOutputCommand_returns (payload : Bytes) :
    (parsePortOutputCommand payload).Returns := by
  unfold parsePortOutputCommand
  split
  · exact returns_ret _
  · simp (disch := omega) only [index_eq_ret, sliceFrom_eq_ret, ret_bind]
    exact returns_ret _

theorem length_of_mem_chunksExact2 {payload chunk : Bytes}
    (membership : chunk ∈ chunksExact2 payload) : chunk.length = 2 := by
  induction payload using chunksExact2.induct with
  | case1 first second rest ih =>
      rcases List.mem_cons.mp membership with rfl | membership
      · rfl
      · exact ih membership
  | case2 payload short =>
      rw [chunksExact2.eq_2 payload short] at membership
      simp at membership

theorem parsePortOutputFeedback_returns (payload : Bytes) :
    (parsePortOutputFeedback payload).Returns := by
  unfold parsePortOutputFeedback
  split
  · exact returns_ret _
  · have entries : (collectResult parseFeedbackEntry (chunksExact2 payload)).Returns := by
      refine collectResult_returns fun chunk membership => ?_
      have length := length_of_mem_chunksExact2 membership
      simp (disch := omega) only [parseFeedbackEntry, index_eq_ret, ret_bind]
      exact propagate_returns fun _ _ => returns_ret _
    obtain ⟨collected, equality⟩ := entries
    rw [equality]
    exact propagate_returns fun _ _ => returns_ret _

/-- Only the parser of type `0x04` can panic. -/
theorem parsePayload_returns_iff (msgTypeByte : UInt8) (payload : Bytes) :
    (parsePayload msgTypeByte payload).Returns ↔ ¬(msgTypeByte = 0x04 ∧ payload.length = 1) := by
  unfold parsePayload
  cases known : (tryFrom msgTypeByte : Result MessageType) with
  | error error =>
      refine iff_of_true (returns_ret _) ?_
      rintro ⟨rfl, -⟩
      cases known
  | ok messageType =>
      have discriminant := tryFrom_eq_ok.mp known
      by_cases attachment : messageType = .hubAttachedIo
      · subst attachment
        have isAttachment : msgTypeByte = 0x04 := discriminant.symm
        simp [parseHubAttachedIo_returns_iff, isAttachment]
      · refine iff_of_true ?_ fun ⟨isAttachment, _⟩ =>
          attachment (asU8_injective (discriminant.trans isAttachment))
        cases messageType with
        | hubProperties => exact parseHubProperty_returns payload
        | hubActions => exact parseHubAction_returns payload
        | hubAlerts => exact parseHubAlert_returns payload
        | hubAttachedIo => exact absurd rfl attachment
        | genericErrorMessages => exact parseGenericError_returns payload
        | portInputFormatSetupSingle => exact parsePortInputFormatSetup_returns payload
        | portValueSingle => exact parsePortValueSingle_returns payload
        | portInputFormatSingle => exact parsePortInputFormatSingle_returns payload
        | portOutputCommand => exact parsePortOutputCommand_returns payload
        | portOutputCommandFeedback => exact parsePortOutputFeedback_returns payload
        | _ => exact returns_ret _

/-- `parse` on a slice that passes both length checks. -/
theorem parse_eq_slice {buf : Bytes} (inBounds : 3 ≤ buf.length)
    (complete : buf[0].toNat ≤ buf.length) :
    parse buf = slice buf 3 buf[0].toNat >>= parsePayload buf[2] := by
  have notShort : ¬buf.length < 3 := by omega
  have notTruncated : ¬buf.length < buf[0].toNat := by omega
  simp only [parse, notShort, if_false, index_eq_ret (show 0 < buf.length by omega),
    index_eq_ret (show 2 < buf.length by omega), ret_bind, notTruncated]

/-- A complete frame is dispatched on its type byte. -/
theorem parse_frame {first reserved msgTypeByte : UInt8} {payload : Bytes}
    (declared : first.toNat = payload.length + 3) :
    parse (first :: reserved :: msgTypeByte :: payload) = parsePayload msgTypeByte payload := by
  rw [parse_eq_slice (by simp) (by simp [declared]),
    slice_eq_ret (by simp [declared]) (by simp [declared])]
  simp [declared, List.take_of_length_le]

/-! ## The length header -/

/-- The length that the first byte declares. -/
def declaredLength (buf : Bytes) : Nat := (buf.headD 0).toNat

/-- The type byte. -/
def typeByte (buf : Bytes) : UInt8 := buf.getD 2 0

/-- The bytes `3..buf[0]`. -/
def payloadOf (buf : Bytes) : Bytes := (buf.take (declaredLength buf)).drop 3

/-- A slice that is not a complete frame with a type byte. -/
def MalformedHeader (buf : Bytes) : Prop :=
  buf.length < 3 ∨ declaredLength buf < 3 ∨ buf.length < declaredLength buf

theorem length_payloadOf {buf : Bytes} (fits : declaredLength buf ≤ buf.length) :
    (payloadOf buf).length = declaredLength buf - 3 := by
  rw [payloadOf, List.length_drop, List.length_take, Nat.min_eq_left fits]

/-- Past both length checks `parse` slices and dispatches. -/
theorem parse_of_fits {buf : Bytes} (inBounds : 3 ≤ buf.length)
    (fits : declaredLength buf ≤ buf.length) :
    parse buf = slice buf 3 (declaredLength buf) >>= parsePayload (typeByte buf) := by
  match buf with
  | first :: reserved :: msgTypeByte :: rest => exact parse_eq_slice inBounds fits

/-- The outcome on a well-formed header is decided by the type byte and the
payload. -/
theorem parse_of_declared {buf : Bytes} (declared : 3 ≤ declaredLength buf)
    (fits : declaredLength buf ≤ buf.length) :
    parse buf = parsePayload (typeByte buf) (payloadOf buf) := by
  rw [parse_of_fits (declared.trans fits) fits, slice_eq_ret declared fits, ret_bind]
  rfl

theorem parse_short {buf : Bytes} (short : buf.length < 3) :
    ∃ text, parse buf = .ret (.error (.parse text)) := by
  simp only [parse, short, if_true]
  exact ⟨_, rfl⟩

theorem parse_truncated {buf : Bytes} (inBounds : 3 ≤ buf.length)
    (truncated : buf.length < declaredLength buf) :
    ∃ text, parse buf = .ret (.error (.parse text)) := by
  match buf with
  | first :: rest =>
      have notShort : ¬(first :: rest).length < 3 := Nat.not_lt_of_le inBounds
      have behind : (first :: rest).length < first.toNat := truncated
      simp only [parse, notShort, if_false, index_cons_zero, ret_bind, behind, if_true]
      exact ⟨_, rfl⟩

/-- Nothing refuses a declared length that ends in front of the payload. -/
theorem parse_undeclared {buf : Bytes} (inBounds : 3 ≤ buf.length)
    (undeclared : declaredLength buf < 3) : parse buf = .panic .rangeOutOfBounds := by
  have fits : declaredLength buf ≤ buf.length := by omega
  rw [parse_of_fits inBounds fits, slice, if_neg fun bounds => Nat.not_le_of_lt undeclared bounds.1]
  rfl

/-- The slices on which `parse` returns.  Past the two length checks it needs a
declared length of at least 3, and an attachment frame longer than 4 bytes. -/
theorem parse_returns_iff (buf : Bytes) :
    (parse buf).Returns ↔
      (3 ≤ buf.length → declaredLength buf ≤ buf.length →
        3 ≤ declaredLength buf ∧ ¬(typeByte buf = 0x04 ∧ declaredLength buf = 4)) := by
  by_cases inBounds : 3 ≤ buf.length
  case neg =>
    obtain ⟨text, answer⟩ := parse_short (Nat.lt_of_not_le inBounds)
    exact iff_of_true ⟨_, answer⟩ fun long => absurd long inBounds
  by_cases fits : declaredLength buf ≤ buf.length
  case neg =>
    obtain ⟨text, answer⟩ := parse_truncated inBounds (Nat.lt_of_not_le fits)
    exact iff_of_true ⟨_, answer⟩ fun _ complete => absurd complete fits
  by_cases declared : 3 ≤ declaredLength buf
  case neg =>
    rw [parse_undeclared inBounds (Nat.lt_of_not_le declared)]
    exact iff_of_false (not_returns_panic _) fun bounds => declared (bounds inBounds fits).1
  have behind : declaredLength buf - 3 = 1 ↔ declaredLength buf = 4 := by omega
  rw [parse_of_declared declared fits, parsePayload_returns_iff, length_payloadOf fits, behind]
  exact ⟨fun safe _ _ => ⟨declared, safe⟩, fun bounds => (bounds inBounds fits).2⟩

/-- The only panic behind the slice is an index. -/
theorem parsePayload_ne_rangeOutOfBounds (msgTypeByte : UInt8) (payload : Bytes) :
    parsePayload msgTypeByte payload ≠ .panic .rangeOutOfBounds := by
  intro panics
  by_cases short : msgTypeByte = 0x04 ∧ payload.length = 1
  · obtain ⟨rfl, single⟩ := short
    obtain ⟨portId, rfl⟩ := List.length_eq_one_iff.mp single
    cases panics
  · obtain ⟨result, returned⟩ := (parsePayload_returns_iff msgTypeByte payload).mpr short
    rw [returned] at panics
    cases panics

/-- Whatever is parsed had a well-formed header. -/
theorem declared_of_parse {buf : Bytes} {message : LpfMessage}
    (parsed : parse buf = .ret (.ok message)) :
    3 ≤ declaredLength buf ∧ declaredLength buf ≤ buf.length := by
  have inBounds : 3 ≤ buf.length := by
    by_contra short
    obtain ⟨text, answer⟩ := parse_short (Nat.lt_of_not_le short)
    rw [answer] at parsed
    cases parsed
  constructor
  · by_contra undeclared
    rw [parse_undeclared inBounds (Nat.lt_of_not_le undeclared)] at parsed
    cases parsed
  · by_contra truncated
    obtain ⟨text, answer⟩ := parse_truncated inBounds (Nat.lt_of_not_le truncated)
    rw [answer] at parsed
    cases parsed

/-- The two length checks keep the payload range in bounds, and turn every
malformed header into an error, exactly on the slices that are too short for a
header or declare at least its length. -/
theorem parse_header_iff (buf : Bytes) :
    (parse buf ≠ .panic .rangeOutOfBounds ∧
      (MalformedHeader buf → ∃ text, parse buf = .ret (.error (.parse text)))) ↔
    (buf.length < 3 ∨ 3 ≤ declaredLength buf) := by
  have refused (answered : ∃ text, parse buf = .ret (.error (.parse text))) :
      parse buf ≠ .panic .rangeOutOfBounds ∧
        (MalformedHeader buf → ∃ text, parse buf = .ret (.error (.parse text))) := by
    refine ⟨?_, fun _ => answered⟩
    obtain ⟨text, answer⟩ := answered
    rw [answer]
    intro panics
    cases panics
  by_cases short : buf.length < 3
  · exact iff_of_true (refused (parse_short short)) (.inl short)
  have inBounds : 3 ≤ buf.length := Nat.le_of_not_lt short
  by_cases undeclared : declaredLength buf < 3
  · refine iff_of_false ?_ (by omega)
    rintro ⟨safe, _⟩
    exact safe (parse_undeclared inBounds undeclared)
  have declared : 3 ≤ declaredLength buf := Nat.le_of_not_lt undeclared
  by_cases truncated : buf.length < declaredLength buf
  · exact iff_of_true (refused (parse_truncated inBounds truncated)) (.inr declared)
  · have fits : declaredLength buf ≤ buf.length := Nat.le_of_not_lt truncated
    refine iff_of_true ⟨?_, ?_⟩ (.inr declared)
    · rw [parse_of_declared declared fits]
      exact parsePayload_ne_rangeOutOfBounds _ _
    · intro malformed
      rw [MalformedHeader] at malformed
      omega

/-- A declared length below 3 passes both checks. -/
theorem parse_header_panics :
    MalformedHeader [0x02, 0x00, 0x04] ∧ parse [0x02, 0x00, 0x04] = .panic .rangeOutOfBounds :=
  ⟨.inr (.inl (by decide)), rfl⟩

end PoweredUp

import PoweredUp.Hub.State

/-!
# Hub properties

The two handlers of property messages: one for the initialisation, which also
knows the one-shot answers, and one for a ready hub.
-/

namespace PoweredUp

open Rust

/-- `{b:02x}` for every byte, joined by colons. -/
def formatMac (bytes : Bytes) : String :=
  ":".intercalate (bytes.map fun byte => String.ofList (lowerHexPadded 2 byte.toNat))

/-- `apply_hub_property`.  An answer too short for its property changes
nothing. -/
def applyHubProperty (props : HubProperties) (m : HubPropertyMessage) : Checked HubProperties :=
  let p := m.payload
  match m.property with
  | .button => return { props with buttonPressed := p.head?.getD 0 != 0 }
  | .fwVersion =>
      if p.length ≥ 4 then do
        let raw := LittleEndian.i32 (← index p 0) (← index p 1) (← index p 2) (← index p 3)
        let version ← Version.fromLeI32 raw
        return { props with firmwareVersion := some version }
      else
        return props
  | .hwVersion =>
      if p.length ≥ 4 then do
        let raw := LittleEndian.i32 (← index p 0) (← index p 1) (← index p 2) (← index p 3)
        let version ← Version.fromLeI32 raw
        return { props with hardwareVersion := some version }
      else
        return props
  | .rssi => return { props with rssi := some (p.head?.getD 0).toInt8 }
  | .batteryVoltage => return { props with batteryLevel := p.head? }
  | .primaryMacAddress =>
      if p.length ≥ 6 then do
        let mac ← slice p 0 6
        return { props with primaryMac := some (formatMac mac) }
      else
        return props
  | _ => return props

/-- `connected_apply_hub_property`. -/
def connectedApplyHubProperty (props : HubProperties) (m : HubPropertyMessage) : HubProperties :=
  let p := m.payload
  match m.property with
  | .batteryVoltage => { props with batteryLevel := p.head? }
  | .rssi => { props with rssi := some (p.head?.getD 0).toInt8 }
  | .button => { props with buttonPressed := p.head?.getD 0 != 0 }
  | _ => props

/-- The properties that are requested once and awaited. -/
def mandatoryProperties : List HubPropertyReference :=
  [.fwVersion, .hwVersion, .primaryMacAddress]

/-- The payload length from which an answer sets its property. -/
def answerLength : HubPropertyReference → Nat
  | .fwVersion => 4
  | .hwVersion => 4
  | .primaryMacAddress => 6
  | _ => 0

/-- Whether a mandatory property is known. -/
def HubProperties.knows (props : HubProperties) : HubPropertyReference → Bool
  | .fwVersion => props.firmwareVersion.isSome
  | .hwVersion => props.hardwareVersion.isSome
  | .primaryMacAddress => props.primaryMac.isSome
  | _ => false

theorem applyHubProperty_returns (props : HubProperties) (m : HubPropertyMessage) :
    (applyHubProperty props m).Returns := by
  unfold applyHubProperty
  dsimp only
  split
  case h_2 | h_3 =>
    split
    · simp (disch := omega) only [index_eq_ret, Checked.ret_bind]
      obtain ⟨version, decoded⟩ := Version.fromLeI32_returns (LittleEndian.i32 m.payload[0]
        m.payload[1] m.payload[2] m.payload[3])
      rw [decoded]
      exact Checked.returns_ret _
    · exact Checked.returns_ret _
  case h_6 =>
    split
    · rw [slice_eq_ret (Nat.zero_le 6) (by omega)]
      exact Checked.returns_ret _
    · exact Checked.returns_ret _
  all_goals exact Checked.returns_ret _

/-- Decoding a version and storing it makes a property known. -/
private theorem store_version {raw : Int32} {store : Version → HubProperties}
    {props : HubProperties}
    (stored : (do return store (← Version.fromLeI32 raw)) = Checked.ret props) :
    ∃ version, props = store version := by
  obtain ⟨version, _, equality⟩ := Checked.bind_eq_ret.mp stored
  cases equality
  exact ⟨version, rfl⟩

/-- What a property message can do: an answer of sufficient length is stored, a
shorter one changes nothing, and every other property is handled as in a ready
hub. -/
theorem applyHubProperty_cases {props props' : HubProperties} {m : HubPropertyMessage}
    (applied : applyHubProperty props m = .ret props') :
    (∃ version, m.property = .fwVersion ∧ 4 ≤ m.payload.length ∧
      props' = { props with firmwareVersion := some version }) ∨
    (∃ version, m.property = .hwVersion ∧ 4 ≤ m.payload.length ∧
      props' = { props with hardwareVersion := some version }) ∨
    (∃ mac, m.property = .primaryMacAddress ∧ 6 ≤ m.payload.length ∧
      props' = { props with primaryMac := some mac }) ∨
    (m.payload.length < answerLength m.property ∧ props' = props) ∨
    (m.property ∉ mandatoryProperties ∧ props' = connectedApplyHubProperty props m) := by
  obtain ⟨property, operation, payload⟩ := m
  cases property with
  | fwVersion =>
      simp only [applyHubProperty] at applied
      split at applied
      case isTrue long =>
        simp (disch := omega) only [index_eq_ret, Checked.ret_bind] at applied
        obtain ⟨version, rfl⟩ := store_version applied
        exact .inl ⟨version, rfl, long, rfl⟩
      case isFalse short =>
        cases applied
        exact .inr (.inr (.inr (.inl ⟨Nat.lt_of_not_le short, rfl⟩)))
  | hwVersion =>
      simp only [applyHubProperty] at applied
      split at applied
      case isTrue long =>
        simp (disch := omega) only [index_eq_ret, Checked.ret_bind] at applied
        obtain ⟨version, rfl⟩ := store_version applied
        exact .inr (.inl ⟨version, rfl, long, rfl⟩)
      case isFalse short =>
        cases applied
        exact .inr (.inr (.inr (.inl ⟨Nat.lt_of_not_le short, rfl⟩)))
  | primaryMacAddress =>
      simp only [applyHubProperty] at applied
      split at applied
      case isTrue long =>
        rw [slice_eq_ret (Nat.zero_le 6) long] at applied
        cases applied
        exact .inr (.inr (.inl ⟨_, rfl, long, rfl⟩))
      case isFalse short =>
        cases applied
        exact .inr (.inr (.inr (.inl ⟨Nat.lt_of_not_le short, rfl⟩)))
  | _ =>
      cases applied
      exact .inr (.inr (.inr (.inr ⟨by simp [mandatoryProperties], rfl⟩)))

/-- A ready hub learns no mandatory property and forgets none. -/
theorem connectedApplyHubProperty_knows (props : HubProperties) (m : HubPropertyMessage)
    (reference : HubPropertyReference) :
    (connectedApplyHubProperty props m).knows reference = props.knows reference := by
  unfold connectedApplyHubProperty
  split
  · rfl
  · rfl
  · rfl
  · rfl

/-- A property becomes known by an answer of sufficient length and stays
known. -/
theorem applyHubProperty_knows {props props' : HubProperties} {m : HubPropertyMessage}
    (applied : applyHubProperty props m = .ret props') {reference : HubPropertyReference}
    (isMandatory : reference ∈ mandatoryProperties) :
    props'.knows reference = true ↔ props.knows reference = true ∨
      (m.property = reference ∧ answerLength reference ≤ m.payload.length) := by
  have references : reference = .fwVersion ∨ reference = .hwVersion ∨
      reference = .primaryMacAddress := by
    simpa [mandatoryProperties] using isMandatory
  rcases applyHubProperty_cases applied with ⟨version, answers, long, rfl⟩ |
    ⟨version, answers, long, rfl⟩ | ⟨mac, answers, long, rfl⟩ | ⟨short, rfl⟩ |
    ⟨notMandatory, rfl⟩
  · rcases references with rfl | rfl | rfl <;>
      simp [HubProperties.knows, answerLength, answers, long]
  · rcases references with rfl | rfl | rfl <;>
      simp [HubProperties.knows, answerLength, answers, long]
  · rcases references with rfl | rfl | rfl <;>
      simp [HubProperties.knows, answerLength, answers, long]
  · refine (or_iff_left ?_).symm
    rintro ⟨rfl, long⟩
    omega
  · rw [connectedApplyHubProperty_knows]
    refine (or_iff_left ?_).symm
    rintro ⟨rfl, _⟩
    exact notMandatory isMandatory

end PoweredUp

import PoweredUp.Hub.Initialized
import PoweredUp.Hub.Registry

/-!
# What a ready hub knows

Two promises of the ready state: its mandatory properties are known, and its
devices are those currently attached.  The drain loop counts an answer that is
too short to set its property, and it ignores attachment events, so both promises
depend on what arrived during initialization.
-/

namespace PoweredUp

open Rust

/-- The attachment messages among messages. -/
def attachedIos (messages : List LpfMessage) : List LpfMessage :=
  messages.filter fun message =>
    match message with
    | .hubAttachedIo _ => true
    | _ => false

/-- Folding property messages makes exactly those mandatory properties known that
have an answer of sufficient length. -/
theorem foldlM_applyHubProperty_knows {messages : List HubPropertyMessage}
    {props final : HubProperties} (folded : messages.foldlM applyHubProperty props = .ret final)
    {reference : HubPropertyReference} (isMandatory : reference ∈ mandatoryProperties) :
    final.knows reference = true ↔ props.knows reference = true ∨
      ∃ m ∈ messages, m.property = reference ∧ answerLength reference ≤ m.payload.length := by
  induction messages generalizing props with
  | nil =>
      cases folded
      simp
  | cons m messages ih =>
      rw [List.foldlM_cons] at folded
      obtain ⟨middle, applied, rest⟩ := Checked.bind_eq_ret.mp folded
      rw [ih rest, applyHubProperty_knows applied isMandatory]
      simp only [List.mem_cons, exists_eq_or_imp, or_assoc]

namespace Hub

section Connection

variable {T : Type} [BleTransport T]
variable {transport : T} {hubType : HubType} {portMap : HashMap String UInt8}
variable {hub : Hub Connected T}

/-- After initialization the three mandatory properties are known exactly when
each of them has an answer of sufficient length in the shortest answering prefix
of the notifications. -/
theorem initializeHub_knows_iff
    (connected : (Hub.new transport hubType portMap).connect = .ret (.ok hub))
    {ready : Hub Ready T} (initialized : hub.initializeHub = .ret (.ok ready))
    {consumed : List Bytes} (shortest : ShortestAnswering .new hub.state.rx consumed) :
    (ready.props.firmwareVersion.isSome ∧ ready.props.hardwareVersion.isSome ∧
      ready.props.primaryMac.isSome) ↔
    ∀ reference ∈ mandatoryProperties, ∃ m ∈ hubProperties (FrameBuffer.new.messages consumed),
      m.property = reference ∧ answerLength reference ≤ m.payload.length := by
  obtain ⟨consumed', _, shortest', folded, _⟩ := initializeHub_eq_ok connected initialized
  obtain rfl := shortest.unique shortest'
  have knows (reference : HubPropertyReference) (isMandatory : reference ∈ mandatoryProperties) :
      ready.props.knows reference = true ↔
        ∃ m ∈ hubProperties (FrameBuffer.new.messages consumed),
          m.property = reference ∧ answerLength reference ≤ m.payload.length := by
    rw [foldlM_applyHubProperty_knows folded isMandatory]
    exact or_iff_right (by cases reference <;> simp [HubProperties.knows])
  have fwVersion := knows .fwVersion (by decide)
  have hwVersion := knows .hwVersion (by decide)
  have primaryMac := knows .primaryMacAddress (by decide)
  simp only [mandatoryProperties, List.forall_mem_cons, ← fwVersion, ← hwVersion, ← primaryMac]
  simp [HubProperties.knows]

/-- The registry right after initialization is the replay of the attachment
messages consumed by it exactly when none of those in the shortest answering
prefix leaves a device attached. -/
theorem initializeHub_devices_iff [FloatScale]
    (connected : (Hub.new transport hubType portMap).connect = .ret (.ok hub))
    {ready : Hub Ready T} (initialized : hub.initializeHub = .ret (.ok ready))
    {consumed answering : List Bytes} (split : hub.state.rx = consumed ++ ready.state.rx)
    (shortest : ShortestAnswering .new hub.state.rx answering) :
    (∃ replayed, (attachedIos (FrameBuffer.new.messages consumed)).foldlM handleMessage
        (ready.withDevices HashMap.new) = .ret replayed ∧
      ∀ port, (ready.state.devices port).map Device.deviceTypeId =
        (replayed.state.devices port).map Device.deviceTypeId) ↔
    ∀ port, ¬EndsAttached port (attachedIos (FrameBuffer.new.messages answering)) := by
  obtain ⟨consumed', split', shortest', _, _, devices⟩ := initializeHub_eq_ok connected initialized
  obtain rfl : consumed = consumed' := List.append_cancel_right (split.symm.trans split')
  obtain rfl := shortest.unique shortest'
  have empty (port : UInt8) : (ready.state.devices port).map Device.deviceTypeId = none := by
    rw [devices]
    rfl
  simp only [foldlM_handleMessage, Checked.ret.injEq, exists_eq_left', empty, ← isSome_replay_iff]
  refine forall_congr' fun port => ?_
  rw [eq_comm, Option.map_eq_none_iff, Option.not_isSome_iff_eq_none]
  rfl

end Connection

/-- A device attached and detached again during initialization. -/
theorem initializeHub_devices_iff_detached :
    ∃ ready replayed, (connectedTo [[9, 0, 4, 0, 2, 0x26, 0, 0, 1], [5, 0, 4, 0, 0] ++ fwResponse,
        hwResponse ++ macResponse]).initializeHub = .ret (.ok ready) ∧
      (attachedIos (FrameBuffer.new.messages [[9, 0, 4, 0, 2, 0x26, 0, 0, 1],
        [5, 0, 4, 0, 0] ++ fwResponse, hwResponse ++ macResponse])).foldlM
          (@handleMessage Scripted .exact) (ready.withDevices HashMap.new) = .ret replayed ∧
      ∀ port, ready.state.devices port = none ∧ replayed.state.devices port = none := by
  obtain ⟨consumed, split, shortest, _⟩ := initializeHub_eq_ok (connect_scripted
    [[9, 0, 4, 0, 2, 0x26, 0, 0, 1], [5, 0, 4, 0, 0] ++ fwResponse, hwResponse ++ macResponse]) rfl
  obtain rfl : consumed = [[9, 0, 4, 0, 2, 0x26, 0, 0, 1], [5, 0, 4, 0, 0] ++ fwResponse,
      hwResponse ++ macResponse] := (List.append_nil consumed).symm.trans split.symm
  have detached : ∀ port, ¬EndsAttached port (attachedIos (FrameBuffer.new.messages
      [[9, 0, 4, 0, 2, 0x26, 0, 0, 1], [5, 0, 4, 0, 0] ++ fwResponse,
        hwResponse ++ macResponse])) := by
    intro port
    rw [← @isSome_replay_iff .exact]
    change ¬(Function.update (Function.update HashMap.new 0
      (some (DeviceFactory.create 0x26 0))) (0 : UInt8) none port).isSome
    rw [Function.update_idem]
    by_cases same : port = 0
    · simp [same]
    · simp [same, HashMap.new]
  obtain ⟨replayed, handled, equal⟩ := (@initializeHub_devices_iff Scripted _ _ _ _ _ .exact
    (connect_scripted _) _ rfl _ _ split shortest).mpr detached
  exact ⟨_, replayed, rfl, handled, fun port =>
    ⟨rfl, Option.map_eq_none_iff.mp (equal port).symm⟩⟩

/-- Three full answers, one of them given twice. -/
theorem initializeHub_knows_iff_full_answers :
    ∃ ready, (connectedTo [[5, 0, 1, 3, 6], fwResponse ++ hwResponse, macResponse]).initializeHub =
      .ret (.ok ready) ∧ ready.props.firmwareVersion.isSome ∧
      ready.props.hardwareVersion.isSome ∧ ready.props.primaryMac.isSome := by
  obtain ⟨consumed, split, shortest, _⟩ := initializeHub_eq_ok (connect_scripted
    [[5, 0, 1, 3, 6], fwResponse ++ hwResponse, macResponse]) rfl
  obtain rfl : consumed = [[5, 0, 1, 3, 6], fwResponse ++ hwResponse, macResponse] :=
    (List.append_nil consumed).symm.trans split.symm
  exact ⟨_, rfl, (initializeHub_knows_iff (connect_scripted _) rfl shortest).mpr (by decide)⟩

/-- Three answers without data make the hub ready with nothing known. -/
theorem initializeHub_short_answers :
    ∃ ready, (connectedTo [[5, 0, 1, 3, 6], [5, 0, 1, 4, 6], [5, 0, 1, 13, 6]]).initializeHub =
      .ret (.ok ready) ∧ ready.props.firmwareVersion = none ∧
      ready.props.hardwareVersion = none ∧ ready.props.primaryMac = none :=
  ⟨_, rfl, rfl, rfl, rfl⟩

/-- A device attached before the last answer is missing from the registry. -/
theorem initializeHub_forgets_device :
    ∃ ready replayed, (connectedTo [[15, 0, 4, 0, 1, 0x26, 0, 0, 0, 0, 0x10, 0, 0, 0, 0x10],
        fwResponse, hwResponse, macResponse]).initializeHub = .ret (.ok ready) ∧
      ready.state.rx = [] ∧
      (attachedIos (FrameBuffer.new.messages [[15, 0, 4, 0, 1, 0x26, 0, 0, 0, 0, 0x10, 0, 0, 0, 0x10],
        fwResponse, hwResponse, macResponse])).foldlM (@handleMessage Scripted .exact)
          (ready.withDevices HashMap.new) = .ret replayed ∧
      ready.state.devices 0 = none ∧
      replayed.state.devices 0 = some (.tachoMotorDevice (.new 0 0x26)) :=
  ⟨_, _, rfl, rfl, rfl, rfl, rfl⟩

end Hub

end PoweredUp

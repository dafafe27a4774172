import PoweredUp.Foundation.ReadUntil
import PoweredUp.Hub.Properties
import PoweredUp.Protocol.Received

/-!
# Initialization

`initialize` writes six requests and then reads notifications until every
mandatory property has been answered.  Read as a loop over prefixes of the
notifications, it stops at the shortest prefix that completes an answer to each
of them, and keeps the bytes of an unfinished frame for the ready hub.
-/

namespace PoweredUp

open Rust

/-- The progress of the initialization.  `pending` is a set of properties. -/
structure Progress where
  props : HubProperties
  pending : List HubPropertyReference
  deriving DecidableEq, Repr

/-- What the drain loop does with a message: all but hub properties are
ignored. -/
def initMessage (progress : Progress) (message : LpfMessage) : Checked Progress :=
  match message with
  | .hubProperty m => do
      let props ← applyHubProperty progress.props m
      return { props, pending := progress.pending.filter (· ≠ m.property) }
  | _ => return progress

/-- The condition on which the drain loop ends. -/
def initialized (state : FrameBuffer × Progress) : Bool :=
  state.2.pending.isEmpty

namespace Hub

variable {T : Type}

/-- `drain_until_initialized`. -/
def drainUntilInitialized (self : Hub Connected T) : Checked (Result Unit × Hub Connected T) := do
  let (done, rx, frameBuf, progress) ←
    readUntil initialized (onNotification initMessage) self.state.rx
      (self.state.frameBuf, { props := self.props, pending := mandatoryProperties })
  let hub := { self with props := progress.props, state := { rx, frameBuf } }
  if done then
    return (.ok (), hub)
  else
    return (.error (.ble "hub disconnected during initialisation"), hub)

/-- The end of `initialize`: await the answers and move to the ready state. -/
def becomeReady (self : Hub Connected T) : Checked (Except (Error × T) (Hub Ready T)) := do
  match ← self.drainUntilInitialized with
  | (.error error, self) => return .error (error, self.transport)
  | (.ok (), self) =>
      return .ok { self with
        state := { rx := self.state.rx, frameBuf := self.state.frameBuf, devices := HashMap.new } }

variable [BleTransport T]

def sendHubProperty (self : Hub Connected T) (reference : HubPropertyReference)
    (operation : HubPropertyOperation) : Result Unit × T :=
  self.write (.hubProperty { property := reference, operation, payload := [] })

/-- `initialize`: request the hub properties, wait for the answers and move to the
ready state. -/
def initializeHub (self : Hub Connected T) : Checked (Except (Error × T) (Hub Ready T)) :=
  orDrop (self.sendHubProperty .button .enableUpdatesDownstream) fun _ transport =>
  let self := { self with transport }
  orDrop (self.sendHubProperty .rssi .enableUpdatesDownstream) fun _ transport =>
  let self := { self with transport }
  orDrop (self.sendHubProperty .batteryVoltage .enableUpdatesDownstream) fun _ transport =>
  let self := { self with transport }
  orDrop (self.sendHubProperty .fwVersion .requestUpdateDownstream) fun _ transport =>
  let self := { self with transport }
  orDrop (self.sendHubProperty .hwVersion .requestUpdateDownstream) fun _ transport =>
  let self := { self with transport }
  orDrop (self.sendHubProperty .primaryMacAddress .requestUpdateDownstream) fun _ transport =>
  let self := { self with transport }
  self.becomeReady

end Hub

/-- The bytes of the six requests. -/
def initRequests : List Bytes :=
  [(.button, .enableUpdatesDownstream), (.rssi, .enableUpdatesDownstream),
    (.batteryVoltage, .enableUpdatesDownstream), (.fwVersion, .requestUpdateDownstream),
    (.hwVersion, .requestUpdateDownstream), (.primaryMacAddress, .requestUpdateDownstream)].map
  fun request => encode (.hubProperty { property := request.1, operation := request.2, payload := [] })

namespace Hub

variable {T : Type} [BleTransport T]

theorem orDrop_writeAll_nil {β : Type} (characteristic : Uuid) (transport : T)
    (next : Unit → T → Checked (Except (Error × T) β)) :
    orDrop (writeAll characteristic [] transport) next = next () transport := rfl

theorem orDrop_writeAll_cons {β : Type} (characteristic : Uuid) (data : Bytes)
    (rest : List Bytes) (transport : T) (next : Unit → T → Checked (Except (Error × T) β)) :
    orDrop (writeAll characteristic (data :: rest) transport) next =
      orDrop (BleTransport.write transport characteristic data) fun _ transport =>
        orDrop (writeAll characteristic rest transport) next := by
  rw [writeAll]
  rcases BleTransport.write transport characteristic data with ⟨_ | _, transport⟩ <;> rfl

/-- `initialize` writes the requests and then awaits the answers. -/
theorem initializeHub_eq (self : Hub Connected T) :
    self.initializeHub = orDrop (writeAll self.lpf2Char initRequests self.transport)
      fun _ transport => { self with transport }.becomeReady := by
  simp only [initRequests, List.map_cons, List.map_nil, orDrop_writeAll_cons, orDrop_writeAll_nil]
  rfl

end Hub

/-! ## Answers -/

/-- The property messages among messages. -/
def hubProperties (messages : List LpfMessage) : List HubPropertyMessage :=
  messages.filterMap fun message =>
    match message with
    | .hubProperty m => some m
    | _ => none

@[simp] theorem hubProperties_cons (m : HubPropertyMessage) (messages : List LpfMessage) :
    hubProperties (.hubProperty m :: messages) = m :: hubProperties messages := rfl

theorem hubProperties_append (front back : List LpfMessage) :
    hubProperties (front ++ back) = hubProperties front ++ hubProperties back :=
  List.filterMap_append

@[simp] theorem mem_hubProperties {m : HubPropertyMessage} {messages : List LpfMessage} :
    m ∈ hubProperties messages ↔ .hubProperty m ∈ messages := by
  rw [hubProperties, List.mem_filterMap]
  constructor
  · rintro ⟨message, membership, isProperty⟩
    cases message with
    | hubProperty m' => exact Option.some.inj isProperty ▸ membership
    | _ => cases isProperty
  · intro membership
    exact ⟨_, membership, rfl⟩

/-- A property is answered by any message about it. -/
def Answered (reference : HubPropertyReference) (messages : List LpfMessage) : Prop :=
  ∃ m ∈ hubProperties messages, m.property = reference

def AllAnswered (messages : List LpfMessage) : Prop :=
  ∀ reference ∈ mandatoryProperties, Answered reference messages

instance : DecidablePred AllAnswered := fun messages =>
  inferInstanceAs (Decidable (∀ reference ∈ mandatoryProperties,
    ∃ m ∈ hubProperties messages, m.property = reference))

/-- The shortest prefix of the notifications that completes answers to all
mandatory properties. -/
structure ShortestAnswering (frameBuf : FrameBuffer) (notifications consumed : List Bytes) :
    Prop where
  isPrefix : consumed <+: notifications
  answers : AllAnswered (frameBuf.messages consumed)
  first : ∀ shorter, shorter <+: consumed → shorter ≠ consumed →
    ¬AllAnswered (frameBuf.messages shorter)

/-- Over a list of messages the properties are folded in order, and what stays
pending is what was not answered. -/
theorem foldlM_initMessage (messages : List LpfMessage) (progress : Progress) :
    ∃ final, messages.foldlM initMessage progress = .ret final ∧
      (hubProperties messages).foldlM applyHubProperty progress.props = .ret final.props ∧
      ∀ reference, reference ∈ final.pending ↔
        reference ∈ progress.pending ∧ ¬Answered reference messages := by
  induction messages generalizing progress with
  | nil => exact ⟨progress, rfl, rfl, by simp [Answered, hubProperties]⟩
  | cons message messages ih =>
      rw [List.foldlM_cons]
      cases message with
      | hubProperty m =>
          obtain ⟨props, applied⟩ := applyHubProperty_returns progress.props m
          obtain ⟨final, handled, folded, pending⟩ :=
            ih ⟨props, progress.pending.filter (· ≠ m.property)⟩
          refine ⟨final, ?_, ?_, ?_⟩
          · simpa [initMessage, applied] using handled
          · rw [hubProperties_cons, List.foldlM_cons, applied]
            exact folded
          · intro reference
            rw [pending, List.mem_filter]
            simp only [Answered, hubProperties_cons, List.mem_cons, exists_eq_or_imp, not_or,
              decide_eq_true_eq, and_assoc]
            exact and_congr_right fun _ => and_congr_left fun _ => ne_comm
      | _ =>
          obtain ⟨final, handled, folded, pending⟩ := ih progress
          exact ⟨final, handled, folded, pending⟩

/-- Reading notifications without a panic leads to a state that is described by
the messages they complete. -/
theorem read_notifications {frameBuf : FrameBuffer} {notifications : List Bytes}
    (safe : ∀ frame ∈ frameBuf.frames notifications, (parse frame).Returns)
    (props : HubProperties) :
    ∃ final,
      notifications.foldlM (onNotification initMessage) (frameBuf, ⟨props, mandatoryProperties⟩) =
        .ret (frameBuf.residual notifications, final) ∧
      (hubProperties (frameBuf.messages notifications)).foldlM applyHubProperty props =
        .ret final.props ∧
      (initialized (frameBuf.residual notifications, final) = true ↔
        AllAnswered (frameBuf.messages notifications)) := by
  obtain ⟨final, handled, folded, pending⟩ :=
    foldlM_initMessage (frameBuf.messages notifications) ⟨props, mandatoryProperties⟩
  refine ⟨final, ?_, folded, ?_⟩
  · rw [foldlM_onNotification safe, handled]
    rfl
  · rw [initialized, List.isEmpty_iff, List.eq_nil_iff_forall_not_mem]
    simp only [pending, not_and, not_not]
    rfl

end PoweredUp

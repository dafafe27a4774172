import PoweredUp.Foundation.Transition
import PoweredUp.Hub.BringUp
import PoweredUp.Hub.NextMessage
import PoweredUp.Hub.Registry
import PoweredUp.Hub.Reports

/-!
# Sessions

A whole session: bring-up, any polls and writes, disconnect.  The calls that reach the
transport are determined by what was written, and everything else in the hub by what
was delivered.
-/

namespace PoweredUp

open Rust Transition

/-- What is done with a ready hub, with its outcome. -/
inductive HubEvent where
  | polled (answer : Option LpfMessage)
  | wrote (message : LpfMessage) (outcome : Result Unit)
  deriving DecidableEq, Repr

namespace HubEvent

/-- The message that a poll delivers. -/
def answered : HubEvent → List LpfMessage
  | .polled answer => answer.toList
  | .wrote _ _ => []

/-- The message that is written. -/
def written : HubEvent → List LpfMessage
  | .polled _ => []
  | .wrote message _ => [message]

end HubEvent

/-- `next_message` and `write` on a ready hub. -/
inductive HubStep {T : Type} [BleTransport T] [FloatScale] (self : Hub Ready T) :
    HubEvent → Hub Ready T → Prop where
  | nextMessage {answer : Option LpfMessage} {next : Hub Ready T}
      (polled : self.nextMessage = .ret (answer, next)) : HubStep self (.polled answer) next
  | write (message : LpfMessage) :
      HubStep self (.wrote message (self.write message).1)
        { self with transport := (self.write message).2 }

section Recorded

variable {T : Type} [BleTransport T] {transport transport' : Traced (Linked T)}

theorem connect_recorded {outcome : Result Unit}
    (connects : BleTransport.connect transport = (outcome, transport')) :
    transport'.calls = transport.calls ++ [.connect] ∧
      (outcome = .ok () → transport'.inner.connected = true) := by
  cases connects
  refine ⟨rfl, fun opens => ?_⟩
  simp only at opens ⊢
  split at opens
  · rfl
  · cases opens

theorem subscribe_recorded {characteristic : Uuid} {outcome : Result Receiver}
    (subscribes : BleTransport.subscribe transport characteristic = (outcome, transport')) :
    transport'.calls = transport.calls ++ [.subscribe characteristic] ∧
      transport'.inner.connected = transport.inner.connected := by
  cases subscribes
  exact ⟨rfl, rfl⟩

theorem write_recorded {characteristic : Uuid} {data : Bytes} {outcome : Result Unit}
    (writes : BleTransport.write transport characteristic data = (outcome, transport')) :
    transport'.calls = transport.calls ++ [.write characteristic data] ∧
      transport'.inner.connected = transport.inner.connected := by
  cases writes
  exact ⟨rfl, rfl⟩

/-- Successful writes are recorded, all of them. -/
theorem writeAll_ok {characteristic : Uuid} {values : List Bytes}
    (wrote : writeAll characteristic values transport = (.ok (), transport')) :
    transport'.calls = transport.calls ++ values.map (BleCall.write characteristic) ∧
      transport'.inner.connected = transport.inner.connected := by
  induction values generalizing transport with
  | nil =>
      cases wrote
      exact ⟨(List.append_nil _).symm, rfl⟩
  | cons data rest ih =>
      rw [writeAll] at wrote
      cases first : BleTransport.write transport characteristic data with
      | mk result written =>
          obtain ⟨calls, connected⟩ := write_recorded first
          rw [first] at wrote
          cases result with
          | error error => cases wrote
          | ok _ =>
              obtain ⟨restCalls, restConnected⟩ := ih wrote
              refine ⟨?_, restConnected.trans connected⟩
              rw [restCalls, calls, List.append_assoc]
              rfl

end Recorded

namespace Hub

variable {T : Type}

/-- A hub that became ready has kept what it was built with. -/
theorem becomeReady_keeps {self : Hub Connected T} {ready : Hub Ready T}
    (became : self.becomeReady = .ret (.ok ready)) :
    ready.transport = self.transport ∧ ready.hubType = self.hubType ∧
      ready.lpf2Char = self.lpf2Char ∧ ready.portMap = self.portMap ∧
      ready.state.devices = HashMap.new := by
  rw [becomeReady_eq] at became
  obtain ⟨⟨done, rx, frameBuf, progress⟩, _, equality⟩ := Checked.bind_eq_ret.mp became
  cases done with
  | false => cases equality
  | true =>
      cases equality
      exact ⟨rfl, rfl, rfl, rfl, rfl⟩

/-- What a hub is built with and what a successful bring-up has called. -/
structure BroughtUp [BleTransport T] (hubType : HubType) (portMap : HashMap String UInt8)
    (ready : Hub Ready (Traced (Linked T))) : Prop where
  calls : ready.transport.calls =
    .connect :: .subscribe lpf2All :: initRequests.map (BleCall.write lpf2All)
  connected : ready.transport.inner.connected = true
  hubType : ready.hubType = hubType
  portMap : ready.portMap = portMap
  lpf2Char : ready.lpf2Char = lpf2All
  devices : ready.state.devices = HashMap.new

theorem bringUp_ok [BleTransport T] {transport : T} {hubType : HubType}
    {portMap : HashMap String UInt8} {ready : Hub Ready (Traced (Linked T))}
    (started : (fresh transport hubType portMap).bringUp = .ret (.ok ready)) :
    BroughtUp hubType portMap ready := by
  obtain ⟨outcome, connects, initializes⟩ := Checked.bind_eq_ret.mp started
  cases outcome with
  | error dropped => cases initializes
  | ok hub =>
      obtain ⟨_, opened, opens, subscribes⟩ := orDrop_eq_ok.mp connects
      obtain ⟨rx, listening, subscribed, equality⟩ := orDrop_eq_ok.mp subscribes
      cases equality
      change initializeHub _ = _ at initializes
      rw [initializeHub_eq] at initializes
      obtain ⟨_, written, wrote, became⟩ := orDrop_eq_ok.mp initializes
      obtain ⟨connectCalls, linked⟩ := connect_recorded opens
      obtain ⟨subscribeCalls, stillLinked⟩ := subscribe_recorded subscribed
      obtain ⟨calls, connected⟩ := writeAll_ok wrote
      obtain ⟨sameTransport, sameType, sameChar, sameMap, empty⟩ := becomeReady_keeps became
      refine ⟨?_, ?_, sameType, sameMap, sameChar, empty⟩
      · rw [sameTransport, calls, subscribeCalls, connectCalls]
        rfl
      · rw [sameTransport, connected, stillLinked, linked rfl]

/-- The end of a session. -/
theorem disconnect_recorded [BleTransport T] (self : Hub Ready (Traced (Linked T))) :
    self.disconnect.2.calls = self.transport.calls ++
        [.write self.lpf2Char (encode (.hubAction .disconnect)), .disconnect] ∧
      self.disconnect.2.inner.connected = false :=
  ⟨List.append_assoc _ _ _, rfl⟩

section Session

variable [BleTransport T] [FloatScale]

/-- What the calls on a ready hub have in common with it: the calls that were written,
the connection, and the hub after the messages that were delivered. -/
structure Reaches (start : Hub Ready (Traced (Linked T))) (events : List HubEvent)
    (next : Hub Ready (Traced (Linked T))) : Prop where
  calls : next.transport.calls = start.transport.calls ++
    (events.flatMap HubEvent.written).map fun message =>
      BleCall.write start.lpf2Char (encode message)
  connected : next.transport.inner.connected = start.transport.inner.connected
  handled : { next with transport := start.transport } =
    (start.handled (events.flatMap HubEvent.answered)).withStream next.state.rx next.state.frameBuf
  delivered : delivered start.state.frameBuf start.state.rx =
    events.flatMap HubEvent.answered ++ delivered next.state.frameBuf next.state.rx

/-- A poll calls nothing, a write calls once, and only the messages that are delivered
change the hub. -/
theorem reaches_of_step {self next : Hub Ready (Traced (Linked T))} {event : HubEvent}
    (step : HubStep self event next) : Reaches self [event] next := by
  cases step with
  | @nextMessage answer _ polled =>
      obtain ⟨handled, split⟩ := nextMessage_eq_ret polled
      have answered : [HubEvent.polled answer].flatMap HubEvent.answered = answer.toList :=
        List.flatMap_singleton _ _
      have same : next.transport = self.transport := by
        rw [handled]
        rfl
      refine ⟨?_, by rw [same], ?_, ?_⟩
      · rw [same]
        exact (List.append_nil _).symm
      · rw [answered, ← handled, ← same]
      · rw [answered]
        exact split
  | write message => exact ⟨rfl, rfl, rfl, rfl⟩

/-- Any number of steps. -/
theorem reaches_of_run {self final : Hub Ready (Traced (Linked T))} {events : List HubEvent}
    (ran : Run HubStep self events final) : Reaches self events final := by
  induction ran with
  | stop => exact ⟨(List.append_nil _).symm, rfl, rfl, rfl⟩
  | @move events state next event _ step ih =>
      have last := reaches_of_step step
      have fields := congrArg (fun hub : Hub Ready (Traced (Linked T)) => hub.lpf2Char) ih.handled
      have sameChar : state.lpf2Char = self.lpf2Char := fields
      refine ⟨?_, last.connected.trans ih.connected, ?_, ?_⟩
      · rw [last.calls, ih.calls, sameChar, List.append_assoc, List.flatMap_append, List.map_append]
      · have rest := congrArg (fun hub : Hub Ready (Traced (Linked T)) =>
          { hub with transport := self.transport }) last.handled
        rw [List.flatMap_append, handled_append]
        refine rest.trans ?_
        change (handled { state with transport := self.transport } _).withStream _ _ = _
        rw [ih.handled]
        rfl
      · rw [ih.delivered, last.delivered, List.flatMap_append, List.append_assoc]

/-- The transport calls of a session, from the first to the last, are the connection,
the subscription, the six requests, one write for each message written, and the two
calls of the disconnect.  Polls call nothing.  The hub keeps what it was built with and
the answers of its initialization, and a port has a device exactly when the last
delivered attachment event for it is an attach. -/
theorem session_trace {transport : T} {hubType : HubType} {portMap : HashMap String UInt8}
    {ready final : Hub Ready (Traced (Linked T))} {events : List HubEvent}
    (started : (fresh transport hubType portMap).bringUp = .ret (.ok ready))
    (ran : Run HubStep ready events final) :
    final.disconnect.2.calls = .connect :: .subscribe lpf2All ::
        (initRequests ++ (events.flatMap HubEvent.written).map encode ++
          [encode (.hubAction .disconnect)]).map (BleCall.write lpf2All) ++ [.disconnect] ∧
      final.transport.inner.connected = true ∧ final.disconnect.2.inner.connected = false ∧
      final.hubType = hubType ∧ final.portMap = portMap ∧
      final.props.oneShot = ready.props.oneShot ∧
      (∀ port, (final.state.devices port).isSome ↔
        EndsAttached port (events.flatMap HubEvent.answered)) ∧
      delivered ready.state.frameBuf ready.state.rx =
        events.flatMap HubEvent.answered ++ delivered final.state.frameBuf final.state.rx := by
  have start := bringUp_ok started
  have reached := reaches_of_run ran
  have same {α : Type} (field : Hub Ready (Traced (Linked T)) → α) := congrArg field reached.handled
  have sameChar : final.lpf2Char = ready.lpf2Char := same fun hub => hub.lpf2Char
  obtain ⟨calls, closed⟩ := disconnect_recorded final
  refine ⟨?_, reached.connected.trans start.connected, closed,
    (same fun hub => hub.hubType).trans start.hubType,
    (same fun hub => hub.portMap).trans start.portMap, ?_, fun port => ?_, reached.delivered⟩
  · rw [calls, reached.calls, start.calls, sameChar, start.lpf2Char]
    simp
  · have props : final.props =
        (events.flatMap HubEvent.answered).foldl propertyEffect ready.props :=
      same fun hub => hub.props
    rw [props, foldl_propertyEffect, foldl_connectedApplyHubProperty_oneShot]
  · have devices : final.state.devices =
        registry.replay ready.state.devices (events.flatMap HubEvent.answered) :=
      same fun hub => hub.state.devices
    rw [devices, start.devices, isSome_replay_iff]

end Session

/-- The report of a tacho motor on the first port. -/
def motorAttached : LpfMessage :=
  .hubAttachedIo { portId := 0
                   event := .attachedIo
                   attached := some { deviceTypeId := 0x26
                                      hwVersion := ⟨1, 0, 0, 0⟩
                                      swVersion := ⟨1, 0, 0, 0⟩ }
                   virtualAttached := none }

/-- A peer that answers the requests and then reports the motor, in two notifications. -/
def attachingPeer : Scripted :=
  { notifications := [fwResponse, hwResponse, macResponse, [15, 0, 4, 0, 1],
      [0x26, 0, 0, 0, 0, 0x10, 0, 0, 0, 0x10]] }

/-- Behind the bring-up the motor is reported and a message is written. -/
theorem session_trace_attached :
    ∃ ready final : Hub Ready (Traced (Linked Scripted)),
      (fresh attachingPeer .hub HashMap.new).bringUp = .ret (.ok ready) ∧
      Run (@HubStep _ _ .exact) ready
        [.polled (some motorAttached), .wrote (.hubAction .activateBusyIndication) (.ok ())] final ∧
      final.disconnect.2.calls = .connect :: .subscribe lpf2All ::
        (initRequests ++ [[4, 0, 2, 5]] ++ [[4, 0, 2, 2]]).map (BleCall.write lpf2All) ++
          [.disconnect] ∧
      (final.state.devices 0).isSome := by
  obtain ⟨ready, final, started, ran⟩ : ∃ ready final : Hub Ready (Traced (Linked Scripted)),
      (fresh attachingPeer .hub HashMap.new).bringUp = .ret (.ok ready) ∧
      Run (@HubStep _ _ .exact) ready
        [.polled (some motorAttached), .wrote (.hubAction .activateBusyIndication) (.ok ())]
        final :=
    ⟨_, _, rfl, .move (.move .stop (@HubStep.nextMessage _ _ .exact _ _ _ rfl))
      (@HubStep.write _ _ .exact _ _)⟩
  obtain ⟨calls, _, _, _, _, _, ports, _⟩ :=
    @session_trace Scripted _ .exact _ _ _ _ _ _ started ran
  have attached : EndsAttached 0 [motorAttached] := ⟨[], motorAttached, [], 0x26, rfl, rfl, nofun⟩
  exact ⟨ready, final, started, ran, calls, (ports 0).mpr attached⟩

end Hub

end PoweredUp

import PoweredUp.Hub.Initialized

/-!
# Failed bring-up

`connect` and `initialize` consume the hub.  When one of them fails behind a
successful connect of the transport, the transport is dropped as it is: nothing
has been called that would release the connection.
-/

namespace PoweredUp

open Rust

/-- A call that gives the connection up: `disconnect`, or a frame that tells the
hub to disconnect. -/
def BleCall.releases : BleCall → Bool
  | .disconnect => true
  | .write _ data => parse data = .ret (.ok (.hubAction .disconnect))
  | _ => false

/-- Some call has given the connection up. -/
def Released (calls : List BleCall) : Prop :=
  ∃ call ∈ calls, call.releases = true

instance : DecidablePred Released := fun calls =>
  inferInstanceAs (Decidable (∃ call ∈ calls, call.releases = true))

namespace Hub

variable {T : Type}

/-- `connect` followed by `initialize`. -/
def bringUp [BleTransport T] (self : Hub Disconnected T) :
    Checked (Except (Error × T) (Hub Ready T)) := do
  match ← self.connect with
  | .error dropped => return .error dropped
  | .ok hub => hub.initializeHub

/-- A new hub over a transport whose calls are recorded. -/
def fresh (transport : T) (hubType : HubType) (portMap : HashMap String UInt8) :
    Hub Disconnected (Traced (Linked T)) :=
  new { inner := { inner := transport, connected := false }, calls := [] } hubType portMap

/-- When the hub disconnects before it has answered, the transport is dropped
untouched. -/
theorem dropped_of_becomeReady {self : Hub Connected T} {error : Error} {dropped : T}
    (failed : self.becomeReady = .ret (.error (error, dropped))) : dropped = self.transport := by
  rw [becomeReady_eq] at failed
  obtain ⟨⟨done, rx, frameBuf, progress⟩, _, equality⟩ := Checked.bind_eq_ret.mp failed
  cases done with
  | true => cases equality
  | false =>
      cases equality
      rfl

/-- A failed initialization has written some of the requests and nothing else. -/
theorem initializeHub_trace [BleTransport T] {hub : Hub Connected (Traced (Linked T))}
    {error : Error} {dropped : Traced (Linked T)}
    (failed : hub.initializeHub = .ret (.error (error, dropped))) :
    dropped.inner.connected = hub.transport.inner.connected ∧
      ∃ sent, sent <+: initRequests ∧
        dropped.calls = hub.transport.calls ++ sent.map (BleCall.write hub.lpf2Char) := by
  obtain ⟨sent, isPrefix, calls, connected⟩ :=
    writeAll_trace hub.lpf2Char initRequests hub.transport
  rw [initializeHub_eq] at failed
  cases wrote : writeAll hub.lpf2Char initRequests hub.transport with
  | mk result written =>
      rw [wrote] at failed calls connected
      cases result with
      | error writeError =>
          cases failed
          exact ⟨connected, sent, isPrefix, calls⟩
      | ok _ =>
          obtain rfl := dropped_of_becomeReady failed
          exact ⟨connected, sent, isPrefix, calls⟩

/-- The calls of a failed bring-up: connect, subscribe and some of the requests. -/
theorem bringUp_trace [BleTransport T] {transport : T} {hubType : HubType}
    {portMap : HashMap String UInt8} {error : Error} {dropped : Traced (Linked T)}
    (connects : (BleTransport.connect transport).1 = .ok ())
    (failed : (fresh transport hubType portMap).bringUp = .ret (.error (error, dropped))) :
    dropped.inner.connected = true ∧
      ∃ sent, sent <+: initRequests ∧
        dropped.calls = .connect :: .subscribe lpf2All :: sent.map (BleCall.write lpf2All) := by
  cases connected : BleTransport.connect transport with
  | mk result opened =>
      rw [connected] at connects
      obtain rfl : result = .ok () := connects
      have connectStep : BleTransport.connect (fresh transport hubType portMap).transport =
          (.ok (), ⟨⟨opened, true⟩, [.connect]⟩) := by
        simp only [fresh, new, BleTransport.connect, Traced.record, connected]
        rfl
      cases subscribed : BleTransport.subscribe opened lpf2All with
      | mk answer listening =>
          have subscribeStep :
              BleTransport.subscribe (Traced.mk (Linked.mk opened true) [.connect]) lpf2All =
                (answer, ⟨⟨listening, true⟩, [.connect, .subscribe lpf2All]⟩) := by
            simp only [BleTransport.subscribe, Traced.record, subscribed]
            rfl
          have lpf2Char : (fresh transport hubType portMap).lpf2Char = lpf2All := rfl
          rw [bringUp, connect, connectStep, orDrop_ok, lpf2Char, subscribeStep] at failed
          cases answer with
          | error subscribeError =>
              cases failed
              exact ⟨rfl, [], List.nil_prefix, rfl⟩
          | ok rx => exact initializeHub_trace failed

/-- A failed bring-up never releases the connection, wherever it fails and whatever
was received before. -/
theorem bringUp_keeps_connection [BleTransport T] {transport : T} {hubType : HubType}
    {portMap : HashMap String UInt8} {error : Error} {dropped : Traced (Linked T)}
    (connects : (BleTransport.connect transport).1 = .ok ())
    (failed : (fresh transport hubType portMap).bringUp = .ret (.error (error, dropped))) :
    dropped.inner.connected = true ∧ ¬Released dropped.calls := by
  obtain ⟨connected, sent, isPrefix, calls⟩ := bringUp_trace connects failed
  refine ⟨connected, ?_⟩
  rw [calls]
  rintro ⟨call, called, releases⟩
  simp only [List.mem_cons, List.mem_map] at called
  obtain rfl | rfl | ⟨request, requested, rfl⟩ := called
  · cases releases
  · cases releases
  · have requests : ∀ request ∈ initRequests, (BleCall.write lpf2All request).releases = false := by
      decide
    rw [requests request (isPrefix.subset requested)] at releases
    cases releases

end Hub

/-! ## A peripheral out of reach -/

/-- A transport whose peripheral gets out of reach as soon as it is connected: what is
written to it is not acknowledged. -/
structure Unreachable where
  connected : Bool := false
  deriving DecidableEq, Repr

instance : BleTransport Unreachable where
  connect self :=
    if self.connected then
      (.error (.ble "already connected"), self)
    else
      (.ok (), { self with connected := true })
  disconnect self := (.ok (), { self with connected := false })
  write self _ _ := (.error (.ble "write not acknowledged"), self)
  subscribe self _ :=
    if self.connected then
      (.ok [], self)
    else
      (.error (.ble "not connected"), self)

namespace Hub

/-- The transport as it is dropped when the first request is not acknowledged. -/
def unreached : Traced (Linked Unreachable) where
  inner := { inner := { connected := true }, connected := true }
  calls := [.connect, .subscribe lpf2All,
    .write lpf2All (encode (.hubProperty ⟨.button, .enableUpdatesDownstream, []⟩))]

theorem bringUp_unreachable : (fresh ({} : Unreachable) .hub HashMap.new).bringUp =
    .ret (.error (.ble "write not acknowledged", unreached)) := rfl

/-- The first request is not acknowledged. -/
theorem bringUp_keeps_connection_unreachable :
    (fresh ({} : Unreachable) .hub HashMap.new).bringUp =
        .ret (.error (.ble "write not acknowledged", unreached)) ∧
      unreached.inner.connected = true ∧ ¬Released unreached.calls :=
  ⟨bringUp_unreachable, bringUp_keeps_connection rfl bringUp_unreachable⟩

/-- After a bring-up that failed the transport is still connected, and the next
attempt to connect is refused. -/
theorem bringUp_not_released :
    (BleTransport.connect ({} : Unreachable)).1 = .ok () ∧
      (fresh ({} : Unreachable) .hub HashMap.new).bringUp =
        .ret (.error (.ble "write not acknowledged", unreached)) ∧
      ¬Released unreached.calls ∧
      (BleTransport.connect unreached.inner.inner).1 = .error (.ble "already connected") :=
  ⟨rfl, bringUp_unreachable, by decide, rfl⟩

end Hub

end PoweredUp

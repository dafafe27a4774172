import PoweredUp.Protocol.Consts

/-!
# Bluetooth transport

The `BleTransport` trait as a class of state transformers: every operation may
fail and may change the transport.  A subscription yields the notifications its
channel will deliver, in order, before it closes.
-/

namespace PoweredUp

/-- A characteristic, given by the text of its UUID. -/
structure Uuid where
  text : String
  deriving DecidableEq, Repr

/-- The characteristic shared by all LPF2 hubs. -/
def lpf2All : Uuid := ⟨"00001624-1212-efde-1623-785feabcd123"⟩

/-- `mpsc::Receiver<Bytes>`: the notifications to come; the channel is closed
behind the last one. -/
abbrev Receiver := List Bytes

/-- `recv`.  A closed channel answers `None` for ever. -/
def Receiver.recv : Receiver → Option Bytes × Receiver
  | [] => (none, [])
  | raw :: rx => (some raw, rx)

/-- Abstraction over the Bluetooth transport. -/
class BleTransport (T : Type) where
  connect : T → Result Unit × T
  disconnect : T → Result Unit × T
  write : T → Uuid → Bytes → Result Unit × T
  subscribe : T → Uuid → Result Receiver × T

/-- Write several values, up to the first failure. -/
def writeAll {T : Type} [BleTransport T] (characteristic : Uuid) :
    List Bytes → T → Result Unit × T
  | [], transport => (.ok (), transport)
  | data :: rest, transport =>
      match BleTransport.write transport characteristic data with
      | (.ok (), transport) => writeAll characteristic rest transport
      | (.error error, transport) => (.error error, transport)

/-! ## Recorded calls -/

/-- A call to a transport. -/
inductive BleCall where
  | connect
  | disconnect
  | write (characteristic : Uuid) (data : Bytes)
  | subscribe (characteristic : Uuid)
  deriving DecidableEq, Repr

/-- A transport together with the calls made to it, in order. -/
structure Traced (T : Type) where
  inner : T
  calls : List BleCall
  deriving DecidableEq, Repr

/-- Record a call and carry it out. -/
def Traced.record {T α : Type} (self : Traced T) (call : BleCall) (run : T → α × T) :
    α × Traced T :=
  let (result, inner) := run self.inner
  (result, { inner, calls := self.calls ++ [call] })

instance {T : Type} [BleTransport T] : BleTransport (Traced T) where
  connect self := self.record .connect BleTransport.connect
  disconnect self := self.record .disconnect BleTransport.disconnect
  write self characteristic data :=
    self.record (.write characteristic data) (BleTransport.write · characteristic data)
  subscribe self characteristic :=
    self.record (.subscribe characteristic) (BleTransport.subscribe · characteristic)

/-! ## The connection flag -/

/-- A transport together with its connection: open from a successful `connect` to
the next `disconnect`. -/
structure Linked (T : Type) where
  inner : T
  connected : Bool
  deriving DecidableEq, Repr

instance {T : Type} [BleTransport T] : BleTransport (Linked T) where
  connect self :=
    match BleTransport.connect self.inner with
    | (.ok (), inner) => (.ok (), { inner, connected := true })
    | (.error error, inner) => (.error error, { self with inner })
  disconnect self :=
    let (result, inner) := BleTransport.disconnect self.inner
    (result, { inner, connected := false })
  write self characteristic data :=
    let (result, inner) := BleTransport.write self.inner characteristic data
    (result, { self with inner })
  subscribe self characteristic :=
    let (result, inner) := BleTransport.subscribe self.inner characteristic
    (result, { self with inner })

/-- Written values are recorded in order, up to the first failure, and leave the
connection open. -/
theorem writeAll_trace {T : Type} [BleTransport T] (characteristic : Uuid) (values : List Bytes)
    (transport : Traced (Linked T)) :
    ∃ sent, sent <+: values ∧
      (writeAll characteristic values transport).2.calls =
        transport.calls ++ sent.map (BleCall.write characteristic) ∧
      (writeAll characteristic values transport).2.inner.connected =
        transport.inner.connected := by
  induction values generalizing transport with
  | nil => exact ⟨[], List.nil_prefix, (List.append_nil _).symm, rfl⟩
  | cons data rest ih =>
      rw [writeAll]
      cases wrote : BleTransport.write transport characteristic data with
      | mk result written =>
          have calls : written.calls = transport.calls ++ [.write characteristic data] :=
            congrArg (fun step : Result Unit × Traced (Linked T) => step.2.calls) wrote.symm
          have connected : written.inner.connected = transport.inner.connected :=
            congrArg (fun step : Result Unit × Traced (Linked T) => step.2.inner.connected)
              wrote.symm
          cases result with
          | error error =>
              exact ⟨[data], ⟨rest, rfl⟩, calls, connected⟩
          | ok _ =>
              obtain ⟨sent, isPrefix, restCalls, restConnected⟩ := ih written
              refine ⟨data :: sent, (List.prefix_cons_inj data).mpr isPrefix, ?_,
                restConnected.trans connected⟩
              rw [restCalls, calls, List.append_assoc]
              rfl

/-! ## Scripted peers -/

/-- A transport whose peer follows a script: a subscriber gets the notifications, then
the peer closes the channel. -/
structure Scripted where
  connected : Bool := false
  notifications : List Bytes := []
  deriving DecidableEq, Repr

instance : BleTransport Scripted where
  connect self :=
    if self.connected then
      (.error (.ble "already connected"), self)
    else
      (.ok (), { self with connected := true })
  disconnect self := (.ok (), { self with connected := false })
  write self _ _ :=
    if self.connected then
      (.ok (), self)
    else
      (.error (.ble "not connected"), self)
  subscribe self _ :=
    if self.connected then
      (.ok self.notifications, self)
    else
      (.error (.ble "not connected"), self)

end PoweredUp

import Mathlib.Logic.Function.Basic
import PoweredUp.Ble.Transport
import PoweredUp.Device.Factory
import PoweredUp.Protocol.FrameBuffer
import PoweredUp.Protocol.Message

/-!
# Hub states

The typestate of a hub: a hub is disconnected, connected, or ready.  The
consuming methods return the hub in its next state; when they return an error
instead, the hub is dropped, and the model keeps the transport as it was dropped.
-/

namespace PoweredUp

open Rust

/-- `std::collections::HashMap`, as the lookup that `get` performs. -/
abbrev HashMap (κ ν : Type) := κ → Option ν

namespace HashMap

variable {κ ν : Type} [DecidableEq κ]

def new : HashMap κ ν := fun _ => none

def insert (self : HashMap κ ν) (key : κ) (value : ν) : HashMap κ ν :=
  Function.update self key (some value)

def remove (self : HashMap κ ν) (key : κ) : HashMap κ ν :=
  Function.update self key none

/-- Putting a stored value back changes nothing. -/
theorem insert_stored {self : HashMap κ ν} {key : κ} {value : ν}
    (stored : self key = some value) : self.insert key value = self := by
  rw [insert, ← stored]
  exact Function.update_eq_self key self

/-- Removing a key changes nothing exactly when it is not there. -/
theorem remove_eq_self_iff {self : HashMap κ ν} {key : κ} :
    self = self.remove key ↔ self key = none := by
  constructor
  · intro same
    rw [same]
    exact Function.update_self key none self
  · intro absent
    rw [remove, ← absent]
    exact (Function.update_eq_self key self).symm

end HashMap

/-! ## Typestate markers -/

/-- The hub has not yet established a connection. -/
structure Disconnected where

/-- The connection is open; hub properties have not yet been requested. -/
structure Connected where
  rx : Receiver
  frameBuf : FrameBuffer

/-- The hub is initialised; `devices` are those attached, keyed by port. -/
structure Ready where
  rx : Receiver
  frameBuf : FrameBuffer
  devices : HashMap UInt8 BoxDevice

/-- Properties populated during hub initialization. -/
structure HubProperties where
  firmwareVersion : Option Version := none
  hardwareVersion : Option Version := none
  batteryLevel : Option UInt8 := none
  rssi : Option Int8 := none
  primaryMac : Option String := none
  buttonPressed : Bool := false
  deriving DecidableEq, Repr

/-- A hub in state `S`. -/
structure Hub (S T : Type) where
  transport : T
  hubType : HubType
  lpf2Char : Uuid
  portMap : HashMap String UInt8
  props : HubProperties
  state : S

namespace Hub

variable {S T : Type}

/-- A new hub bound to a transport. -/
def new (transport : T) (hubType : HubType) (portMap : HashMap String UInt8) :
    Hub Disconnected T where
  transport := transport
  hubType := hubType
  lpf2Char := lpf2All
  portMap := portMap
  props := {}
  state := {}

/-- A ready hub of a scripted peer, with notifications to come. -/
def readyWith (rx : Receiver) : Hub Ready Scripted where
  transport := {}
  hubType := .hub
  lpf2Char := lpf2All
  portMap := HashMap.new.insert "A" 0
  props := {}
  state := { rx, frameBuf := .new, devices := HashMap.new }

/-- The `?` operator in a consuming method: an error drops the hub and with it
the transport. -/
def orDrop {α β : Type} (step : Result α × T) (next : α → T → Checked (Except (Error × T) β)) :
    Checked (Except (Error × T) β) :=
  match step with
  | (.ok value, transport) => next value transport
  | (.error error, transport) => return .error (error, transport)

@[simp] theorem orDrop_ok {α β : Type} (value : α) (transport : T)
    (next : α → T → Checked (Except (Error × T) β)) :
    orDrop (.ok value, transport) next = next value transport := rfl

@[simp] theorem orDrop_error {α β : Type} (error : Error) (transport : T)
    (next : α → T → Checked (Except (Error × T) β)) :
    orDrop (.error error, transport) next = .ret (.error (error, transport)) := rfl

/-- The method succeeds only past a successful step. -/
theorem orDrop_eq_ok {α β : Type} {step : Result α × T}
    {next : α → T → Checked (Except (Error × T) β)} {result : β} :
    orDrop step next = .ret (.ok result) ↔
      ∃ value transport, step = (.ok value, transport) ∧
        next value transport = .ret (.ok result) := by
  obtain ⟨outcome, transport⟩ := step
  cases outcome with
  | ok value => simp
  | error error => simp

variable [BleTransport T]

/-- Open the connection and subscribe to the LPF2 characteristic. -/
def connect (self : Hub Disconnected T) : Checked (Except (Error × T) (Hub Connected T)) :=
  orDrop (BleTransport.connect self.transport) fun _ transport =>
  orDrop (BleTransport.subscribe transport self.lpf2Char) fun rx transport =>
  return .ok { self with transport, state := { rx, frameBuf := .new } }

/-- Send a message. -/
def write (self : Hub S T) (message : LpfMessage) : Result Unit × T :=
  BleTransport.write self.transport self.lpf2Char (encode message)

/-- Close the connection, after the attempt to tell the hub. -/
def disconnect (self : Hub Ready T) : Result Unit × T :=
  let (_, transport) := self.write (.hubAction .disconnect)
  BleTransport.disconnect transport

/-- What a connected hub looks like: nothing is known about it yet. -/
theorem connect_eq_ok {self : Hub Disconnected T} {hub : Hub Connected T}
    (connected : self.connect = .ret (.ok hub)) :
    hub.lpf2Char = self.lpf2Char ∧ hub.props = self.props ∧ hub.state.frameBuf = .new := by
  obtain ⟨_, _, _, subscribes⟩ := orDrop_eq_ok.mp connected
  obtain ⟨rx, transport, _, equality⟩ := orDrop_eq_ok.mp subscribes
  cases equality
  exact ⟨rfl, rfl, rfl⟩

end Hub

end PoweredUp

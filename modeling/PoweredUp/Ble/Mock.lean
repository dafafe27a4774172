import PoweredUp.Ble.Transport
import PoweredUp.Foundation.Conveyor

/-!
# The mock transport with its channels

`MockTransport` as it runs in the tests: the state behind its mutex, the bounded
channels of its subscribers, and the calls of `flush_inbound` that are under way.  A
call of `flush_inbound` can be suspended between two of its steps, so the steps of
several calls, of the subscribers and of the other methods interleave in any order.
-/

namespace PoweredUp

open Transition

/-- The state behind the mutex.  A sender is given by the number of its channel. -/
structure Inner where
  connected : Bool := false
  inbound : List (Uuid × Bytes) := []
  written : List (Uuid × Bytes) := []
  senders : List (Uuid × Nat) := []
  deriving DecidableEq, Repr

/-- `mpsc::channel(64)`: what is queued, and whether the receiver is still there. -/
structure Channel where
  queue : List Bytes := []
  listening : Bool := true
  deriving DecidableEq, Repr

/-- The capacity of a subscriber's channel. -/
def Channel.capacity : Nat := 64

/-- `Sender::send`.  There is no result as long as the channel is full; a dropped
receiver makes it fail, which is ignored. -/
def Channel.send (self : Channel) (data : Bytes) : Option Channel :=
  if self.listening then
    if self.queue.length < capacity then
      some { self with queue := self.queue ++ [data] }
    else
      none
  else
    some self

/-- A call of `flush_inbound`: the sends that are left for the frame at hand, and the
frames behind it. -/
structure Flush where
  sends : List (Nat × Bytes) := []
  frames : List (Uuid × Bytes) := []
  deriving DecidableEq, Repr

/-- The transport, its channels, and the calls of `flush_inbound` under way. -/
structure MockSystem where
  inner : Inner := {}
  channels : List Channel := []
  flushes : List Flush := []
  deriving DecidableEq, Repr

/-- What can happen to the transport. -/
inductive MockCall where
  | pushInbound (characteristic : Uuid) (data : Bytes)
  | flushInbound
  | flushLookup (flush : Nat)
  | flushSend (flush : Nat)
  | flushReturn (flush : Nat)
  | connect
  | disconnect
  | write (characteristic : Uuid) (data : Bytes)
  | subscribe (characteristic : Uuid)
  | recv (receiver : Nat)
  | dropReceiver (receiver : Nat)
  deriving DecidableEq, Repr

/-- What the caller is told. -/
inductive MockAnswer where
  | unit
  | result (outcome : Result Unit)
  | receiver (outcome : Result Nat)
  | received (data : Option Bytes)
  deriving DecidableEq, Repr

namespace MockSystem

/-- `push_inbound`. -/
def pushInbound (self : MockSystem) (characteristic : Uuid) (data : Bytes) : MockSystem :=
  { self with inner.inbound := self.inner.inbound ++ [(characteristic, data)] }

/-- The beginning of `flush_inbound`: it takes all frames. -/
def flushInbound (self : MockSystem) : MockSystem :=
  { self with
    inner.inbound := []
    flushes := self.flushes ++ [{ frames := self.inner.inbound }] }

/-- The next frame of a `flush_inbound`: it clones the senders of the characteristic. -/
def flushLookup (self : MockSystem) (flush : Nat) : Option MockSystem :=
  match self.flushes[flush]? with
  | some ⟨[], (uuid, data) :: frames⟩ =>
      let senders := (self.inner.senders.filter fun sender => sender.1 = uuid).map Prod.snd
      some { self with
        flushes := self.flushes.set flush { sends := senders.map (·, data), frames } }
  | _ => none

/-- The next send of a `flush_inbound`. -/
def flushSend (self : MockSystem) (flush : Nat) : Option MockSystem :=
  match self.flushes[flush]? with
  | some ⟨(number, data) :: sends, frames⟩ => do
      let channel ← self.channels[number]?
      let channel ← channel.send data
      return { self with
        channels := self.channels.set number channel
        flushes := self.flushes.set flush { sends, frames } }
  | _ => none

/-- The end of a `flush_inbound`. -/
def flushReturn (self : MockSystem) (flush : Nat) : Option MockSystem :=
  match self.flushes[flush]? with
  | some ⟨[], []⟩ => some { self with flushes := self.flushes.eraseIdx flush }
  | _ => none

/-- `connect`. -/
def connect (self : MockSystem) : Result Unit × MockSystem :=
  if self.inner.connected then
    (.error (.ble "already connected"), self)
  else
    (.ok (), { self with inner.connected := true })

/-- `disconnect`. -/
def disconnect (self : MockSystem) : Result Unit × MockSystem :=
  (.ok (), { self with inner.connected := false, inner.senders := [] })

/-- `write`. -/
def write (self : MockSystem) (characteristic : Uuid) (data : Bytes) : Result Unit × MockSystem :=
  if self.inner.connected then
    (.ok (), { self with inner.written := self.inner.written ++ [(characteristic, data)] })
  else
    (.error (.ble "not connected"), self)

/-- `subscribe`. -/
def subscribe (self : MockSystem) (characteristic : Uuid) : Result Nat × MockSystem :=
  let number := self.channels.length
  if self.inner.connected then
    (.ok number, { self with
      inner.senders := self.inner.senders ++ [(characteristic, number)]
      channels := self.channels ++ [{}] })
  else
    (.error (.ble "not connected"), self)

/-- Whether a sender of the channel is left, with the transport or with a call of
`flush_inbound`. -/
def hasSender (self : MockSystem) (number : Nat) : Bool :=
  self.inner.senders.any (·.2 = number) ||
    self.flushes.any fun flush => flush.sends.any (·.1 = number)

/-- `Receiver::recv`.  There is no result as long as the channel is empty and has a
sender. -/
def recv (self : MockSystem) (receiver : Nat) : Option (Option Bytes × MockSystem) :=
  match self.channels[receiver]? with
  | some ⟨data :: queue, true⟩ =>
      some (some data, { self with channels := self.channels.set receiver ⟨queue, true⟩ })
  | some ⟨[], true⟩ => if self.hasSender receiver then none else some (none, self)
  | _ => none

/-- The receiver is dropped, and what is queued with it. -/
def dropReceiver (self : MockSystem) (receiver : Nat) : MockSystem :=
  { self with channels := self.channels.set receiver ⟨[], false⟩ }

/-- Carry out a call, if it can be. -/
def act (self : MockSystem) : MockCall → Option (MockAnswer × MockSystem)
  | .pushInbound characteristic data => some (.unit, self.pushInbound characteristic data)
  | .flushInbound => some (.unit, self.flushInbound)
  | .flushLookup flush => (self.flushLookup flush).map (.unit, ·)
  | .flushSend flush => (self.flushSend flush).map (.unit, ·)
  | .flushReturn flush => (self.flushReturn flush).map (.unit, ·)
  | .connect => some (.result self.connect.1, self.connect.2)
  | .disconnect => some (.result self.disconnect.1, self.disconnect.2)
  | .write characteristic data =>
      some (.result (self.write characteristic data).1, (self.write characteristic data).2)
  | .subscribe characteristic =>
      some (.receiver (self.subscribe characteristic).1, (self.subscribe characteristic).2)
  | .recv receiver => (self.recv receiver).map fun step => (.received step.1, step.2)
  | .dropReceiver receiver => some (.unit, self.dropReceiver receiver)

/-- A call with its answer. -/
abbrev Event := MockCall × MockAnswer

/-- The transport carries out a call and gives an answer. -/
def Acts (self : MockSystem) (event : Event) (next : MockSystem) : Prop :=
  self.act event.1 = some (event.2, next)

/-- `written`, and `written_to`. -/
def written (self : MockSystem) : List (Uuid × Bytes) :=
  self.inner.written

def writtenTo (self : MockSystem) (characteristic : Uuid) : List Bytes :=
  (self.inner.written.filter fun entry => entry.1 = characteristic).map Prod.snd

/-! ## What a call does -/

/-- The effect of each call that can be carried out. -/
inductive Does (self : MockSystem) : Event → MockSystem → Prop where
  | pushInbound (characteristic : Uuid) (data : Bytes) :
      Does self (.pushInbound characteristic data, .unit) (self.pushInbound characteristic data)
  | flushInbound : Does self (.flushInbound, .unit) self.flushInbound
  | flushLookup {front back : List Flush} {uuid : Uuid} {data : Bytes}
      {frames : List (Uuid × Bytes)}
      (running : self.flushes = front ++ ⟨[], (uuid, data) :: frames⟩ :: back) :
      Does self (.flushLookup front.length, .unit)
        { self with flushes := front ++ ⟨((self.inner.senders.filter fun sender =>
          sender.1 = uuid).map Prod.snd).map (·, data), frames⟩ :: back }
  | flushSend {front back : List Flush} {number : Nat} {data : Bytes}
      {sends : List (Nat × Bytes)} {frames : List (Uuid × Bytes)} {channel sent : Channel}
      (running : self.flushes = front ++ ⟨(number, data) :: sends, frames⟩ :: back)
      (known : self.channels[number]? = some channel) (accepts : channel.send data = some sent) :
      Does self (.flushSend front.length, .unit)
        { self with
          channels := self.channels.set number sent
          flushes := front ++ ⟨sends, frames⟩ :: back }
  | flushReturn {front back : List Flush} (running : self.flushes = front ++ ⟨[], []⟩ :: back) :
      Does self (.flushReturn front.length, .unit) { self with flushes := front ++ back }
  | connect : Does self (.connect, .result self.connect.1) self.connect.2
  | disconnect : Does self (.disconnect, .result self.disconnect.1) self.disconnect.2
  | write (characteristic : Uuid) (data : Bytes) :
      Does self (.write characteristic data, .result (self.write characteristic data).1)
        (self.write characteristic data).2
  | subscribe (characteristic : Uuid) :
      Does self (.subscribe characteristic, .receiver (self.subscribe characteristic).1)
        (self.subscribe characteristic).2
  | recv {receiver : Nat} {data : Bytes} {queue : List Bytes}
      (queued : self.channels[receiver]? = some ⟨data :: queue, true⟩) :
      Does self (.recv receiver, .received (some data))
        { self with channels := self.channels.set receiver ⟨queue, true⟩ }
  | closed {receiver : Nat} (empty : self.channels[receiver]? = some ⟨[], true⟩)
      (abandoned : self.hasSender receiver = false) :
      Does self (.recv receiver, .received none) self
  | dropReceiver (receiver : Nat) :
      Does self (.dropReceiver receiver, .unit) (self.dropReceiver receiver)

/-- An element of a list, with what is in front of it and behind it. -/
theorem exists_split {α : Type} {list : List α} {index : Nat} {item : α}
    (found : list[index]? = some item) :
    ∃ front back, list = front ++ item :: back ∧ front.length = index := by
  obtain ⟨bound, rfl⟩ := List.getElem?_eq_some_iff.mp found
  refine ⟨list.take index, list.drop (index + 1), ?_, List.length_take_of_le (Nat.le_of_lt bound)⟩
  rw [List.getElem_cons_drop, List.take_append_drop]

private theorem set_split {α : Type} (front back : List α) (item other : α) :
    (front ++ item :: back).set front.length other = front ++ other :: back := by
  rw [List.set_append_right front.length other (Nat.le_refl _), Nat.sub_self, List.set_cons_zero]

theorem eraseIdx_split {α : Type} (front back : List α) (item : α) :
    (front ++ item :: back).eraseIdx front.length = front ++ back := by
  rw [List.eraseIdx_append_of_length_le (Nat.le_refl _), Nat.sub_self, List.eraseIdx_cons_zero]

/-- The effect of a step. -/
theorem Acts.does {self next : MockSystem} {event : Event} (acts : self.Acts event next) :
    self.Does event next := by
  obtain ⟨call, answer⟩ := event
  cases call with
  | pushInbound characteristic data =>
      cases acts
      exact .pushInbound characteristic data
  | flushInbound =>
      cases acts
      exact .flushInbound
  | flushLookup flush =>
      obtain ⟨_, looked, equality⟩ := Option.map_eq_some_iff.mp acts
      cases equality
      rw [flushLookup] at looked
      split at looked
      · rename_i uuid data frames running
        cases looked
        obtain ⟨front, back, split, rfl⟩ := exists_split running
        rw [split, set_split]
        exact .flushLookup split
      · cases looked
  | flushSend flush =>
      obtain ⟨_, sent, equality⟩ := Option.map_eq_some_iff.mp acts
      cases equality
      rw [flushSend] at sent
      split at sent
      · rename_i number data sends frames running
        obtain ⟨channel, known, sent⟩ := Option.bind_eq_some_iff.mp sent
        obtain ⟨accepted, accepts, sent⟩ := Option.bind_eq_some_iff.mp sent
        cases sent
        obtain ⟨front, back, split, rfl⟩ := exists_split running
        rw [split, set_split]
        exact .flushSend split known accepts
      · cases sent
  | flushReturn flush =>
      obtain ⟨_, returned, equality⟩ := Option.map_eq_some_iff.mp acts
      cases equality
      rw [flushReturn] at returned
      split at returned
      · rename_i running
        cases returned
        obtain ⟨front, back, split, rfl⟩ := exists_split running
        rw [split, eraseIdx_split]
        exact .flushReturn split
      · cases returned
  | connect =>
      cases acts
      exact .connect
  | disconnect =>
      cases acts
      exact .disconnect
  | write characteristic data =>
      cases acts
      exact .write characteristic data
  | subscribe characteristic =>
      cases acts
      exact .subscribe characteristic
  | recv receiver =>
      obtain ⟨_, received, equality⟩ := Option.map_eq_some_iff.mp acts
      cases equality
      rw [recv] at received
      split at received
      · rename_i data queue queued
        cases received
        exact .recv queued
      · rename_i empty
        split at received
        · cases received
        · rename_i abandoned
          cases received
          exact .closed empty (Bool.eq_false_iff.mpr abandoned)
      · cases received
  | dropReceiver receiver =>
      cases acts
      exact .dropReceiver receiver

private theorem getElem?_split {α : Type} (front back : List α) (item : α) :
    (front ++ item :: back)[front.length]? = some item := by
  rw [List.getElem?_append_right (Nat.le_refl _), Nat.sub_self, List.getElem?_cons_zero]

/-- Every effect is that of a step. -/
theorem Does.acts {self next : MockSystem} {event : Event} (does : self.Does event next) :
    self.Acts event next := by
  cases does with
  | flushLookup running =>
      rw [Acts, act, MockSystem.flushLookup, running, getElem?_split]
      simp only [set_split, Option.map_some]
  | flushSend running known accepts =>
      rw [Acts, act, MockSystem.flushSend, running, getElem?_split]
      simp only [known, accepts, set_split, Option.bind_eq_bind, Option.bind_some, Option.pure_def,
        Option.map_some]
  | flushReturn running =>
      rw [Acts, act, MockSystem.flushReturn, running, getElem?_split]
      simp only [eraseIdx_split, Option.map_some]
  | recv queued =>
      rw [Acts, act, MockSystem.recv, queued]
      rfl
  | closed empty abandoned =>
      rw [Acts, act, MockSystem.recv, empty]
      simp only [abandoned, Bool.false_eq_true, if_false, Option.map_some]
  | _ => rfl

end MockSystem

end PoweredUp

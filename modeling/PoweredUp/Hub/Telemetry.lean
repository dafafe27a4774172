import PoweredUp.Ble.Receiving
import PoweredUp.Hub.NextMessage

/-!
# From the script to the application

A hub that is polled over the mock transport.  Whenever `next_message` waits for its
channel, everything else goes on: frames are scripted and flushed, and other clients use
the transport.
-/

namespace PoweredUp

open Rust Framing Transition

/-- A hub, and the transport whose channel it reads. -/
structure Polling (T : Type) where
  hub : Hub Ready T
  system : MockSystem

/-- A call on the transport, and the message that `next_message` returns with it. -/
abbrev PollingEvent := MockSystem.Event × Option LpfMessage

/-- One call on the transport.  Only the hub reads its channel, and what it receives is
one turn of the loop in `next_message`. -/
inductive Turns {T : Type} [FloatScale] (number : Nat)
    (acts : MockSystem → MockSystem.Event → MockSystem → Prop) (self : Polling T) :
    PollingEvent → Polling T → Prop where
  | other {event : MockSystem.Event} {system : MockSystem} (foreign : event.1 ≠ .recv number)
      (acted : acts self.system event system) :
      Turns number acts self (event, none) { self with system }
  | read {raw : Bytes} {frames : List Bytes} {frameBuf : FrameBuffer}
      {answer : Option LpfMessage} {hub : Hub Ready T} {system : MockSystem}
      (received : acts self.system (.recv number, .received (some raw)) system)
      (pushed : self.hub.state.frameBuf.push raw = .ret (frames, frameBuf))
      (looped : (self.hub.withStream self.hub.state.rx frameBuf).firstMessage frames =
        .ret (answer, hub)) :
      Turns number acts self ((.recv number, .received (some raw)), answer) { hub, system }
  | closed {system : MockSystem} (ended : acts self.system (.recv number, .received none) system) :
      Turns number acts self ((.recv number, .received none), none) { self with system }

theorem Turns.acted {T : Type} [FloatScale] {number : Nat}
    {acts : MockSystem → MockSystem.Event → MockSystem → Prop} {self next : Polling T}
    {event : PollingEvent} (turned : Turns number acts self event next) :
    acts self.system event.1 next.system := by
  cases turned with
  | other _ acted => exact acted
  | read received _ _ => exact received
  | closed ended => exact ended

theorem Turns.mono {T : Type} [FloatScale] {number : Nat}
    {acts acts' : MockSystem → MockSystem.Event → MockSystem → Prop} {self next : Polling T}
    {event : PollingEvent} (turned : Turns number acts self event next)
    (weaker : ∀ state event next, acts state event next → acts' state event next) :
    Turns number acts' self event next := by
  cases turned with
  | other foreign acted => exact .other foreign (weaker _ _ _ acted)
  | read received pushed looped => exact .read (weaker _ _ _ received) pushed looped
  | closed ended => exact .closed (weaker _ _ _ ended)

namespace Hub

section Polling

variable {T : Type} [FloatScale]

variable {past : List MockSystem.Event} {before : MockSystem} {events : List PollingEvent}
  {start cut : Polling T} {characteristic : Uuid} {number : Nat}

end Polling

end Hub

end PoweredUp

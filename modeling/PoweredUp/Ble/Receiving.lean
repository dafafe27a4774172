import PoweredUp.Ble.Flushing

/-!
# Receivers

A subscriber of the mock transport sees its channel as the list that the hub reads: the
notifications to come, and the end of the channel behind the last one.
-/

namespace PoweredUp

open Transition Conveyor

/-- One call of `recv`. -/
def Receiver.Step (rx : Receiver) (answer : Option Bytes) (next : Receiver) : Prop :=
  Receiver.recv rx = (answer, next)

namespace Receiver

variable {rx rest : Receiver} {answers : List (Option Bytes)}

/-- Values in front are received first. -/
theorem run_values (front : List Bytes) (rest : Receiver) :
    Run Step (front ++ rest) (front.map some) rest := by
  induction front with
  | nil => exact .stop
  | cons raw front ih => exact .head rfl ih

/-- What has been received and what is left are the list. -/
theorem run_split (ran : Run Step rx answers rest) : answers.filterMap id ++ rest = rx := by
  induction ran with
  | stop => rfl
  | @move answers state next answer _ received ih =>
      rw [← ih, List.filterMap_append]
      cases state with
      | nil =>
          cases received
          rw [List.filterMap_cons_none rfl, List.filterMap_nil, List.append_nil]
      | cons raw state =>
          cases received
          exact List.append_assoc _ _ _

/-- `None` comes when nothing is left. -/
theorem run_none (ran : Run Step rx answers rest) (ended : none ∈ answers) : rest = [] := by
  induction ran with
  | stop => cases ended
  | @move answers state next answer _ received ih =>
      cases state with
      | nil =>
          cases received
          rfl
      | cons raw state =>
          cases received
          rcases List.mem_append.mp ended with old | new
          · cases ih old
          · cases List.mem_singleton.mp new

end Receiver

namespace MockSystem

variable {characteristic : Uuid} {number : Nat} {self next final : MockSystem} {event : Event}

/-- What a call answers to the receiver of a channel. -/
def Event.answered (number : Nat) : Event → List (Option Bytes)
  | (.recv receiver, .received data) => if receiver = number then [data] else []
  | _ => []

theorem received_eq (number : Nat) (events : List Event) :
    events.flatMap (Event.received number) =
      (events.flatMap (Event.answered number)).filterMap id := by
  have each (event : Event) :
      event.received number = (event.answered number).filterMap id := by
    obtain ⟨call, answer⟩ := event
    cases call with
    | recv receiver =>
        cases answer with
        | received data =>
            cases data <;> by_cases same : receiver = number <;>
              simp [Event.received, Event.answered, same]
        | _ => rfl
    | _ => rfl
  induction events with
  | nil => rfl
  | cons event events ih =>
      rw [List.flatMap_cons, List.flatMap_cons, List.filterMap_append, ih, each]

/-- A channel that is served does not end. -/
theorem Serves.answered (serves : self.Serves characteristic number)
    (acts : self.Acts event next) :
    event.answered number = (event.received number).map some := by
  cases acts.does with
  | @recv receiver data queue queued =>
      by_cases same : receiver = number <;> simp [Event.answered, Event.received, same]
  | @closed receiver empty abandoned =>
      refine if_neg ?_
      rintro rfl
      have held : (characteristic, receiver) ∈
          self.inner.senders.filter fun sender => sender.2 = receiver := by
        rw [serves.senders]
        exact List.mem_singleton_self _
      have senders := (Bool.or_eq_false_iff.mp abandoned).1
      rw [List.any_eq_false] at senders
      exact senders _ (List.mem_of_mem_filter held) (by simp)
  | _ => rfl

/-- As long as a channel is served, all answers are frames. -/
theorem run_answered {events : List Event} (serves : self.Serves characteristic number)
    (ran : Run Acts self events final) (undisturbed : ∀ event ∈ events, event.Undisturbed number) :
    events.flatMap (Event.answered number) = (events.flatMap (Event.received number)).map some := by
  induction ran with
  | stop => rfl
  | @move events state next event ran acts ih =>
      have earlier : ∀ event ∈ events, event.Undisturbed number := fun event member =>
        undisturbed event (List.mem_append_left _ member)
      have served : state.Serves characteristic number :=
        ran.invariant serves fun _ event _ member held acts =>
          does_serves acts.does (earlier event member) held
      rw [List.flatMap_append, List.flatMap_append, List.map_append, ih earlier,
        List.flatMap_singleton, List.flatMap_singleton, served.answered acts]

/-- A channel that has lost its senders is the list of what is queued in it. -/
theorem Parted.receives (parted : self.Parted number) {queue : List Bytes}
    (listening : self.channels[number]? = some ⟨queue, true⟩) (acts : self.Acts event next)
    (kept : event.1 ≠ .dropReceiver number) :
    ∃ rest, next.channels[number]? = some ⟨rest, true⟩ ∧
      Run Receiver.Step queue (event.answered number) rest := by
  by_cases reads : event.1 = .recv number
  · cases acts.does with
    | @recv receiver data rest queued =>
        cases reads
        rw [queued] at listening
        cases listening
        refine ⟨rest, List.getElem?_set_self parted.known, ?_⟩
        rw [Event.answered, if_pos rfl]
        exact .move .stop rfl
    | closed empty abandoned =>
        cases reads
        rw [empty] at listening
        cases listening
        refine ⟨[], empty, ?_⟩
        rw [Event.answered, if_pos rfl]
        exact .move .stop rfl
    | _ => cases reads
  · have silent : event.answered number = [] := by
      unfold Event.answered
      split
      · refine if_neg ?_
        rintro rfl
        exact reads rfl
      · rfl
    rw [silent]
    exact ⟨queue, (parted.channel acts.does reads kept).trans listening, .stop⟩

theorem run_parted {events : List Event} (parted : self.Parted number) {queue : List Bytes}
    (listening : self.channels[number]? = some ⟨queue, true⟩) (ran : Run Acts self events final)
    (kept : ∀ event ∈ events, event.1 ≠ .dropReceiver number) :
    ∃ rest, final.channels[number]? = some ⟨rest, true⟩ ∧
      Run Receiver.Step queue (events.flatMap (Event.answered number)) rest := by
  induction ran with
  | stop => exact ⟨queue, listening, .stop⟩
  | @move events state next event ran acts ih =>
      obtain ⟨middle, found, received⟩ := ih fun event member =>
        kept event (List.mem_append_left _ member)
      have still : state.Parted number :=
        ran.invariant parted fun _ _ _ _ held acts => does_parted acts.does held
      obtain ⟨rest, found, last⟩ := still.receives found acts (kept event (by simp))
      refine ⟨rest, found, ?_⟩
      rw [List.flatMap_append, List.flatMap_singleton]
      exact received.trans last

/-! ## The scripted frames -/

/-- The frame that a call scripts, with its characteristic. -/
def Event.script : Event → List (Uuid × Bytes)
  | (.pushInbound uuid data, _) => [(uuid, data)]
  | _ => []

theorem valuesOf_script (characteristic : Uuid) (events : List Event) :
    valuesOf characteristic (events.flatMap Event.script) =
      events.flatMap (Event.scripted characteristic) := by
  induction events with
  | nil => rfl
  | cons event events ih =>
      rw [List.flatMap_cons, List.flatMap_cons, valuesOf_append, ih]
      congr 1
      obtain ⟨call, answer⟩ := event
      cases call with
      | pushInbound uuid data =>
          by_cases same : uuid = characteristic
          · exact (valuesOf_cons_of_eq characteristic same []).trans (if_pos same).symm
          · exact (valuesOf_cons_of_ne characteristic same []).trans (if_neg same).symm
      | _ => rfl

/-- Until `flush_inbound` is called, the scripted frames are kept. -/
theorem unflushed {past : List Event} (ran : Run Acts {} past self)
    (quiet : ∀ event ∈ past, event.1 ≠ .flushInbound) :
    self.inner.inbound = past.flatMap Event.script ∧ self.flushes = [] := by
  induction ran with
  | stop => exact ⟨rfl, rfl⟩
  | @move past state next event _ acts ih =>
      obtain ⟨inbound, flushes⟩ := ih fun event member =>
        quiet event (List.mem_append_left _ member)
      have last := quiet event (List.mem_append_right past (List.mem_singleton_self event))
      rw [List.flatMap_append, List.flatMap_singleton, ← inbound]
      cases acts.does with
      | pushInbound uuid data => exact ⟨rfl, flushes⟩
      | flushInbound => exact (last rfl).elim
      | flushLookup running => simp [flushes] at running
      | flushSend running found accepts => simp [flushes] at running
      | flushReturn running => simp [flushes] at running
      | connect =>
          rw [connect]
          split <;> exact ⟨(List.append_nil _).symm, flushes⟩
      | write uuid data =>
          rw [write]
          split <;> exact ⟨(List.append_nil _).symm, flushes⟩
      | subscribe uuid =>
          rw [subscribe]
          split <;> exact ⟨(List.append_nil _).symm, flushes⟩
      | _ => exact ⟨(List.append_nil _).symm, flushes⟩

/-- A subscription made before `flush_inbound` is first called, of which nothing is lost:
the calls of `flush_inbound` do not overlap, the transport stays connected, and the
receiver is kept. -/
structure Subscribed (characteristic : Uuid) (number : Nat) (past events : List Event)
    (cut : MockSystem) : Prop where
  ran : ∃ before system, Run Acts {} past before ∧
    before.Acts (.subscribe characteristic, .receiver (.ok number)) system ∧
    Run SerialActs system events cut
  quiet : ∀ event ∈ past, event.1 ≠ .flushInbound
  undisturbed : ∀ event ∈ events, event.Undisturbed number

/-- Everything that is scripted for the characteristic has been flushed. -/
structure Flushed (characteristic : Uuid) (cut : MockSystem) : Prop where
  flushes : cut.flushes = []
  inbound : valuesOf characteristic cut.inner.inbound = []

variable {past events : List Event} {cut : MockSystem}

theorem Subscribed.serves (subscribed : Subscribed characteristic number past events cut) :
    cut.Serves characteristic number := by
  obtain ⟨before, system, scripted, opens, ran⟩ := subscribed.ran
  have serves := (Reachable.wellFormed ⟨past, scripted⟩).serves opens
  exact ran.invariant serves fun _ event _ member held acts =>
    does_serves acts.1.does (subscribed.undisturbed event member) held

/-- What has been received and what is on its way is what has been scripted, in order. -/
theorem Subscribed.received (subscribed : Subscribed characteristic number past events cut) :
    events.flatMap (Event.received number) ++ cut.pending characteristic number =
      (past ++ events).flatMap (Event.scripted characteristic) := by
  obtain ⟨before, system, scripted, opens, ran⟩ := subscribed.ran
  obtain ⟨inbound, idle⟩ := unflushed scripted subscribed.quiet
  have serves := (Reachable.wellFormed ⟨past, scripted⟩).serves opens
  obtain ⟨_, rfl, rfl⟩ := subscribe_ok opens
  obtain ⟨moves, moved, pushed, taken, keeps⟩ := run_belt_serial serves ran
  rw [List.flatMap_append, ← valuesOf_script characteristic past, ← taken, ← pushed]
  refine (run_eq moved ?_ (keeps subscribed.undisturbed)).trans ?_
  · rw [belt, List.length_map, idle]
    exact Nat.zero_le 1
  · rw [belt, Belt.contents, idle, inbound, queueOf_of_getElem? List.getElem?_concat_length]
    rfl

/-- The answers so far are those of the list of the scripted frames. -/
theorem Subscribed.receives (subscribed : Subscribed characteristic number past events cut) :
    Run Receiver.Step ((past ++ events).flatMap (Event.scripted characteristic))
      (events.flatMap (Event.answered number)) (cut.pending characteristic number) := by
  obtain ⟨before, system, scripted, opens, ran⟩ := subscribed.ran
  have serves := (Reachable.wellFormed ⟨past, scripted⟩).serves opens
  have acted := ran.mono fun _ _ _ acts => acts.1
  rw [← subscribed.received, run_answered serves acted subscribed.undisturbed]
  exact Receiver.run_values _ _

/-- So are the answers after a disconnect, when everything has been flushed. -/
theorem Subscribed.receives_closed
    (subscribed : Subscribed characteristic number past events cut)
    (flushed : Flushed characteristic cut) {later : List Event}
    (closes : Run Acts cut ((.disconnect, .result (.ok ())) :: later) final)
    (kept : ∀ event ∈ later, event.1 ≠ .dropReceiver number) :
    ∃ rest, Run Receiver.Step ((past ++ events).flatMap (Event.scripted characteristic))
      ((events ++ later).flatMap (Event.answered number)) rest := by
  obtain ⟨queue, listening⟩ := subscribed.serves.listening
  obtain ⟨state, disconnects, after⟩ := closes.first
  cases disconnects.does with
  | disconnect =>
      have parted : cut.disconnect.2.Parted number := by
        refine ⟨subscribed.serves.known, fun _ held => absurd held List.not_mem_nil, ?_⟩
        intro flush running
        have running : flush ∈ cut.flushes := running
        rw [flushed.flushes] at running
        cases running
      obtain ⟨rest, _, answers⟩ := run_parted parted listening after kept
      have queued : cut.pending characteristic number = queue := by
        rw [pending, belt, Belt.contents, flushed.flushes, flushed.inbound,
          queueOf_of_getElem? listening]
        exact List.append_nil _
      have both := subscribed.receives.trans (queued ▸ answers)
      rw [← List.flatMap_append] at both
      exact ⟨rest, both⟩

/-- When the channel has ended, exactly the scripted frames have been received. -/
theorem Subscribed.received_closed
    (subscribed : Subscribed characteristic number past events cut)
    (flushed : Flushed characteristic cut) {later : List Event}
    (closes : Run Acts cut ((.disconnect, .result (.ok ())) :: later) final)
    (kept : ∀ event ∈ later, event.1 ≠ .dropReceiver number)
    (ended : (.recv number, .received none) ∈ later) :
    (events ++ later).flatMap (Event.received number) =
      (past ++ events).flatMap (Event.scripted characteristic) := by
  obtain ⟨rest, answers⟩ := subscribed.receives_closed flushed closes kept
  have atEnd : none ∈ (events ++ later).flatMap (Event.answered number) := by
    refine List.mem_flatMap.mpr ⟨_, List.mem_append_right _ ended, ?_⟩
    rw [Event.answered, if_pos rfl]
    exact List.mem_singleton_self _
  rw [received_eq, ← Receiver.run_split answers, Receiver.run_none answers atEnd, List.append_nil]

/-- For its subscriber the mock transport is the list of the frames that are scripted for
its characteristic: `recv` answers what the list answers, and as soon as it has answered
`None`, exactly the scripted frames have been received. -/
theorem receiver_refines (subscribed : Subscribed characteristic number past events cut) :
    (∃ rest, Run Receiver.Step ((past ++ events).flatMap (Event.scripted characteristic))
      (events.flatMap (Event.answered number)) rest) ∧
    ∀ later final, Flushed characteristic cut →
      Run Acts cut ((.disconnect, .result (.ok ())) :: later) final →
      (∀ event ∈ later, event.1 ≠ .dropReceiver number) →
      (∃ rest, Run Receiver.Step ((past ++ events).flatMap (Event.scripted characteristic))
        ((events ++ later).flatMap (Event.answered number)) rest) ∧
      ((.recv number, .received none) ∈ later →
        (events ++ later).flatMap (Event.received number) =
          (past ++ events).flatMap (Event.scripted characteristic)) := by
  refine ⟨⟨_, subscribed.receives⟩, fun later final flushed closes kept => ?_⟩
  exact ⟨subscribed.receives_closed flushed closes kept,
    subscribed.received_closed flushed closes kept⟩

/-- A frame that is scripted before the subscription, and one that is scripted while the
first is flushed. -/
def flushedTwice : List Event :=
  [(.flushInbound, .unit), (.pushInbound lpf2All [2], .unit), (.flushLookup 0, .unit),
    (.flushSend 0, .unit), (.recv 0, .received (some [1])), (.flushReturn 0, .unit),
    (.flushInbound, .unit), (.flushLookup 0, .unit), (.flushSend 0, .unit), (.flushReturn 0, .unit)]

/-- A new connection, and a frame for nobody. -/
def reconnected : List Event :=
  [(.connect, .result (.ok ())), (.pushInbound lpf2All [3], .unit), (.flushInbound, .unit),
    (.recv 0, .received (some [2])), (.flushLookup 0, .unit), (.recv 0, .received none)]

theorem receiver_refines_two :
    ∃ before system cut final,
      Run Acts {} [(.connect, .result (.ok ())), (.pushInbound lpf2All [1], .unit)] before ∧
      before.Acts (.subscribe lpf2All, .receiver (.ok 0)) system ∧
      Run SerialActs system flushedTwice cut ∧
      Run Acts cut ((.disconnect, .result (.ok ())) :: reconnected) final ∧
      (∃ rest, Run Receiver.Step [[1], [2]] [some [1], some [2], none] rest) ∧
      (flushedTwice ++ reconnected).flatMap (Event.received 0) = [[1], [2]] := by
  have scripted : Run Acts {} [(.connect, .result (.ok ())), (.pushInbound lpf2All [1], .unit)]
      { opened with inner.inbound := [(lpf2All, [1])] } := .head rfl (.head rfl .stop)
  have subscribes : Acts { opened with inner.inbound := [(lpf2All, [1])] }
      (.subscribe lpf2All, .receiver (.ok 0))
      { oneSubscriber with inner.inbound := [(lpf2All, [1])] } := rfl
  have ran : Run SerialActs { oneSubscriber with inner.inbound := [(lpf2All, [1])] } flushedTwice
      { oneSubscriber with channels := [{ queue := [[2]] }] } :=
    .head ⟨rfl, fun _ => rfl⟩ (.head ⟨rfl, nofun⟩ (.head ⟨rfl, nofun⟩ (.head ⟨rfl, nofun⟩
      (.head ⟨rfl, nofun⟩ (.head ⟨rfl, nofun⟩ (.head ⟨rfl, fun _ => rfl⟩ (.head ⟨rfl, nofun⟩
        (.head ⟨rfl, nofun⟩ (.head ⟨rfl, nofun⟩ .stop)))))))))
  have closes : Run Acts { oneSubscriber with channels := [{ queue := [[2]] }] }
      ((.disconnect, .result (.ok ())) :: reconnected)
      { inner := { connected := true }, channels := [{}], flushes := [{}] } :=
    .head rfl (.head rfl (.head rfl (.head rfl (.head rfl (.head rfl (.head rfl .stop))))))
  obtain ⟨_, closed⟩ := receiver_refines
    ⟨⟨_, _, scripted, subscribes, ran⟩, by decide, by decide⟩
  obtain ⟨answers, received⟩ := closed reconnected _ ⟨rfl, rfl⟩ closes (by decide)
  exact ⟨_, _, _, _, scripted, subscribes, ran, closes, answers, received (by decide)⟩

end MockSystem

end PoweredUp

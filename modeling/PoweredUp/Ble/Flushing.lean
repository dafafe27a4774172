import PoweredUp.Ble.Delivery

/-!
# Flow control

The channels of the mock transport hold 64 frames.  A call of `flush_inbound` waits
for room in them, a subscriber waits for frames, and a subscription ends with the
connection.
-/

namespace PoweredUp

open Transition Conveyor

namespace MockSystem

variable {characteristic : Uuid} {number : Nat} {self next : MockSystem} {event : Event}

/-! ## The end of a subscription -/

/-- A channel that has lost its senders. -/
structure Parted (number : Nat) (system : MockSystem) : Prop where
  known : number < system.channels.length
  senders : ∀ sender ∈ system.inner.senders, sender.2 ≠ number
  sends : ∀ flush ∈ system.flushes, ∀ send ∈ flush.sends, send.1 ≠ number

/-- Nobody gets a sender of the channel again. -/
theorem does_parted (does : self.Does event next) (parted : self.Parted number) :
    next.Parted number := by
  obtain ⟨known, senders, sends⟩ := parted
  cases does with
  | pushInbound uuid data => exact ⟨known, senders, sends⟩
  | flushInbound =>
      refine ⟨known, senders, fun flush member => ?_⟩
      rcases List.mem_append.mp member with old | new
      · exact sends flush old
      · cases List.mem_singleton.mp new
        intro _ sending
        cases sending
  | @flushLookup front back uuid data frames running =>
      rw [running] at sends
      refine ⟨known, senders, fun flush member send sending => ?_⟩
      rcases List.mem_append.mp member with old | member
      · exact sends flush (List.mem_append_left _ old) send sending
      · rcases List.mem_cons.mp member with rfl | old
        · obtain ⟨target, cloned, rfl⟩ := List.mem_map.mp sending
          obtain ⟨sender, held, rfl⟩ := List.mem_map.mp cloned
          exact senders sender (List.mem_of_mem_filter held)
        · exact sends flush (by simp [old]) send sending
  | @flushSend front back target data rest frames channel sent running found accepts =>
      rw [running] at sends
      refine ⟨by rwa [List.length_set], senders, fun flush member send sending => ?_⟩
      rcases List.mem_append.mp member with old | member
      · exact sends flush (List.mem_append_left _ old) send sending
      · rcases List.mem_cons.mp member with rfl | old
        · exact sends ⟨(target, data) :: rest, frames⟩ (by simp) send
            (List.mem_cons_of_mem _ sending)
        · exact sends flush (by simp [old]) send sending
  | @flushReturn front back running =>
      rw [running] at sends
      refine ⟨known, senders, fun flush member => ?_⟩
      rcases List.mem_append.mp member with old | old
      · exact sends flush (List.mem_append_left _ old)
      · exact sends flush (by simp [old])
  | connect =>
      rw [connect]
      split <;> exact ⟨known, senders, sends⟩
  | disconnect => exact ⟨known, fun _ held => absurd held List.not_mem_nil, sends⟩
  | write uuid data =>
      rw [write]
      split <;> exact ⟨known, senders, sends⟩
  | subscribe uuid =>
      rw [subscribe]
      split
      · refine ⟨?_, fun sender member => ?_, sends⟩
        · rw [List.length_append]
          exact Nat.lt_add_right _ known
        · rcases List.mem_append.mp member with old | new
          · exact senders sender old
          · cases List.mem_singleton.mp new
            exact (Nat.ne_of_lt known).symm
      · exact ⟨known, senders, sends⟩
  | recv queued => exact ⟨by rwa [List.length_set], senders, sends⟩
  | closed _ _ => exact ⟨known, senders, sends⟩
  | dropReceiver receiver => exact ⟨by rwa [dropReceiver, List.length_set], senders, sends⟩

/-- Only its receiver changes the channel. -/
theorem Parted.channel (parted : self.Parted number) (does : self.Does event next)
    (other : event.1 ≠ .recv number) (kept : event.1 ≠ .dropReceiver number) :
    next.channels[number]? = self.channels[number]? := by
  cases does with
  | @flushSend front back target data rest frames channel sent running found accepts =>
      refine List.getElem?_set_ne ?_
      exact parted.sends ⟨(target, data) :: rest, frames⟩ (by simp [running]) (target, data)
        (by simp)
  | connect =>
      rw [connect]
      split <;> rfl
  | write uuid data =>
      rw [write]
      split <;> rfl
  | subscribe uuid =>
      rw [subscribe]
      split
      · exact List.getElem?_append_left parted.known
      · rfl
  | @recv receiver data queue queued =>
      refine List.getElem?_set_ne ?_
      rintro rfl
      exact other rfl
  | dropReceiver receiver =>
      refine List.getElem?_set_ne ?_
      rintro rfl
      exact kept rfl
  | _ => rfl

/-- A channel that is empty and has lost its senders. -/
structure Closed (number : Nat) (system : MockSystem) : Prop extends Parted number system where
  empty : queueOf system.channels number = []

/-- A closed channel delivers nothing. -/
theorem Closed.recv (closed : self.Closed number) {answer : MockAnswer}
    (acts : self.Acts (.recv number, answer) next) : answer = .received none := by
  cases acts.does with
  | recv queued =>
      have empty := closed.empty
      rw [queueOf_of_getElem? queued] at empty
      cases empty
  | closed _ _ => rfl

/-- What the return of a call of `flush_inbound` takes: its own steps, and subscribers
that read when their channel is full. -/
inductive Advances (flush : Nat) (self : MockSystem) : Event → MockSystem → Prop where
  | lookup {next : MockSystem} (acts : self.Acts (.flushLookup flush, .unit) next) :
      Advances flush self (.flushLookup flush, .unit) next
  | send {next : MockSystem} (acts : self.Acts (.flushSend flush, .unit) next) :
      Advances flush self (.flushSend flush, .unit) next
  | done {next : MockSystem} (acts : self.Acts (.flushReturn flush, .unit) next) :
      Advances flush self (.flushReturn flush, .unit) next
  | read {receiver : Nat} {channel : Channel} {answer : MockAnswer} {next : MockSystem}
      (found : self.channels[receiver]? = some channel)
      (full : channel.queue.length = Channel.capacity)
      (acts : self.Acts (.recv receiver, answer) next) :
      Advances flush self (.recv receiver, answer) next

/-- Steps of one call, and reads that make room, change what that call has to do. -/
def Advance (front back : List Flush) (self : MockSystem) (flush : Flush) : Prop :=
  ∃ events next, Run (Advances front.length) self events next ∧
    next.flushes = front ++ flush :: back

variable {front back : List Flush}

theorem Advances.acts {flush : Nat} (advances : Advances flush self event next) :
    self.Acts event next := by
  cases advances with
  | lookup acts => exact acts
  | send acts => exact acts
  | done acts => exact acts
  | read _ _ acts => exact acts

/-- A send goes through, at the latest when its subscriber reads. -/
theorem advance_send (formed : self.WellFormed) {target : Nat} {data : Bytes}
    {sends : List (Nat × Bytes)} {frames : List (Uuid × Bytes)}
    (running : self.flushes = front ++ ⟨(target, data) :: sends, frames⟩ :: back) :
    Advance front back self ⟨sends, frames⟩ := by
  have known : target < self.channels.length :=
    formed.sends ⟨(target, data) :: sends, frames⟩ (by simp [running]) (target, data) (by simp)
  have found := List.getElem?_eq_getElem known
  cases accepts : self.channels[target].send data with
  | some sent =>
      have send := Does.flushSend running found accepts
      exact ⟨_, _, .move .stop (.send send.acts), rfl⟩
  | none =>
      rw [Channel.send] at accepts
      split at accepts
      · rename_i listening
        split at accepts
        · cases accepts
        · rename_i noRoom
          have bound := formed.capacity _ (List.mem_of_getElem? found)
          generalize self.channels[target] = channel at found noRoom listening bound
          have full := Nat.le_antisymm bound (Nat.le_of_not_lt noRoom)
          obtain ⟨queue, _⟩ := channel
          cases listening
          cases queue with
          | nil => exact (noRoom (by decide)).elim
          | cons first queue =>
              have read := Does.recv found
              have room : Channel.send ⟨queue, true⟩ data = some ⟨queue ++ [data], true⟩ :=
                (if_pos rfl).trans (if_pos bound)
              have send :
                  Does { self with channels := self.channels.set target ⟨queue, true⟩ } _ _ :=
                .flushSend running (List.getElem?_set_self known) room
              exact ⟨_, _, .move (.move .stop (.read found full read.acts)) (.send send.acts), rfl⟩
      · cases accepts

theorem run_wellFormed {events : List Event} (ran : Run Acts self events next)
    (formed : self.WellFormed) : next.WellFormed :=
  ran.invariant formed fun _ _ _ _ formed acts => does_wellFormed acts.does formed

theorem Advance.trans {middle flush : Flush} (formed : self.WellFormed)
    (first : Advance front back self middle)
    (second : ∀ state : MockSystem, state.WellFormed → state.flushes = front ++ middle :: back →
      Advance front back state flush) : Advance front back self flush := by
  obtain ⟨past, state, ran, reached⟩ := first
  have acted := ran.mono fun _ _ _ advances => Advances.acts advances
  obtain ⟨events, next, continued, final⟩ := second state (run_wellFormed acted formed) reached
  exact ⟨past ++ events, next, ran.trans continued, final⟩

/-- All sends for a frame. -/
theorem advance_sends (formed : self.WellFormed) {sends : List (Nat × Bytes)}
    {frames : List (Uuid × Bytes)} (running : self.flushes = front ++ ⟨sends, frames⟩ :: back) :
    Advance front back self ⟨[], frames⟩ := by
  induction sends generalizing self with
  | nil => exact ⟨[], self, .stop, running⟩
  | cons send sends ih =>
      exact (advance_send formed running).trans formed fun _ formed running => ih formed running

/-- All frames. -/
theorem advance_frames (formed : self.WellFormed) {sends : List (Nat × Bytes)}
    {frames : List (Uuid × Bytes)} (running : self.flushes = front ++ ⟨sends, frames⟩ :: back) :
    Advance front back self ⟨[], []⟩ := by
  induction frames generalizing self sends with
  | nil => exact advance_sends formed running
  | cons frame frames ih =>
      refine (advance_sends formed running).trans formed fun state formed running => ?_
      have lookup := Does.flushLookup running
      refine Advance.trans formed ⟨_, _, .move .stop (.lookup lookup.acts), rfl⟩ ?_
      exact fun _ formed running => ih formed running

/-- One call can return. -/
theorem WellFormed.returns (formed : self.WellFormed) {flush : Nat}
    (bound : flush < self.flushes.length) :
    ∃ events next, Run (Advances flush) self events next ∧
      next.flushes = self.flushes.eraseIdx flush := by
  obtain ⟨front, back, running, rfl⟩ := exists_split (List.getElem?_eq_getElem bound)
  obtain ⟨events, next, ran, finished⟩ := advance_frames formed running
  have returned := Does.flushReturn finished
  refine ⟨events ++ [(.flushReturn front.length, .unit)], _, .move ran (.done returned.acts), ?_⟩
  rw [running, eraseIdx_split]

/-- One subscriber, with a number of frames in its channel. -/
def filled (frames : Nat) : MockSystem :=
  { oneSubscriber with channels := [{ queue := List.replicate frames [1] }] }

/-- What has been scripted for the subscriber, who has not read any of it. -/
structure Unread (events : List Event) (frames : List Bytes) : Prop where
  scripted : events.flatMap (Event.scripted lpf2All) = frames
  undisturbed : ∀ event ∈ events, event.Undisturbed 0
  unread : ∀ event ∈ events, event.1 ≠ .recv 0

theorem Unread.append {past events : List Event} {frames more : List Bytes}
    (first : Unread past frames) (second : Unread events more) :
    Unread (past ++ events) (frames ++ more) where
  scripted := by rw [List.flatMap_append, first.scripted, second.scripted]
  undisturbed event member :=
    (List.mem_append.mp member).elim (first.undisturbed event) (second.undisturbed event)
  unread event member :=
    (List.mem_append.mp member).elim (first.unread event) (second.unread event)

theorem filled_run {frames : Nat} (bound : frames ≤ 64) :
    ∃ events, Run Acts oneSubscriber events (filled frames) ∧
      Unread events (List.replicate frames [1]) := by
  induction frames with
  | zero => exact ⟨[], .stop, rfl, nofun, nofun⟩
  | succ frames ih =>
      obtain ⟨events, ran, unread⟩ := ih (Nat.le_of_succ_le bound)
      have room : Channel.send ⟨List.replicate frames [1], true⟩ [1] =
          some ⟨List.replicate (frames + 1) [1], true⟩ := by
        rw [Channel.send, if_pos rfl, if_pos (by rwa [List.length_replicate]),
          List.replicate_succ']
      have running : ({ filled frames with flushes := [⟨[(0, [1])], []⟩] } : MockSystem).flushes =
          [] ++ ⟨[(0, [1])], []⟩ :: [] := rfl
      have sent := Does.flushSend running rfl room
      have more : Run Acts (filled frames)
          [(.pushInbound lpf2All [1], .unit), (.flushInbound, .unit), (.flushLookup 0, .unit),
            (.flushSend 0, .unit), (.flushReturn 0, .unit)] (filled (frames + 1)) :=
        .head rfl (.head rfl (.head rfl (.head sent.acts (.head rfl .stop))))
      refine ⟨_, ran.trans more, ?_⟩
      rw [List.replicate_succ']
      exact unread.append ⟨rfl, by decide, by decide⟩

/-- The channel is full, and two overlapping calls wait to send into it. -/
def congested : MockSystem :=
  { filled 64 with flushes := [⟨[(0, [2])], []⟩, ⟨[(0, [3])], []⟩] }

theorem congested_run :
    ∃ events, Run Acts oneSubscriber events congested ∧
      Unread events (List.replicate 64 [1] ++ [[2], [3]]) := by
  obtain ⟨events, ran, unread⟩ := filled_run (Nat.le_refl 64)
  have more : Run Acts (filled 64) [(.pushInbound lpf2All [2], .unit), (.flushInbound, .unit),
      (.pushInbound lpf2All [3], .unit), (.flushInbound, .unit), (.flushLookup 0, .unit),
      (.flushLookup 1, .unit)] congested :=
    .head rfl (.head rfl (.head rfl (.head rfl (.head rfl (.head rfl .stop)))))
  exact ⟨_, ran.trans more, unread.append ⟨rfl, by decide, by decide⟩⟩

/-- Steps of calls of `flush_inbound`, and reads. -/
def Event.Carries : Event → Prop
  | (.flushInbound, _) | (.flushLookup _, _) | (.flushSend _, _) | (.flushReturn _, _)
  | (.recv _, _) => True
  | _ => False

theorem Event.Carries.undisturbed (carries : event.Carries) (number : Nat) :
    event.Undisturbed number := by
  obtain ⟨call, answer⟩ := event
  cases call with
  | disconnect => exact carries.elim
  | dropReceiver receiver => exact carries.elim
  | _ => exact ⟨nofun, nofun⟩

theorem Event.Carries.scripted (carries : event.Carries) (characteristic : Uuid) :
    event.scripted characteristic = [] := by
  obtain ⟨call, answer⟩ := event
  cases call with
  | pushInbound uuid data => exact carries.elim
  | _ => rfl

theorem Advances.carries {flush : Nat} (advances : Advances flush self event next) :
    event.Carries := by
  cases advances <;> trivial

/-- Neither flushes nor reads touch what is behind the mutex. -/
theorem Advances.inner {flush : Nat} (advances : Advances flush self event next) :
    next.inner = self.inner := by
  cases advances with
  | lookup acts => cases acts.does; rfl
  | send acts => cases acts.does; rfl
  | done acts => cases acts.does; rfl
  | read _ _ acts => cases acts.does <;> rfl

/-- A run of steps that carry frames, and nothing else. -/
def CarriesTo (self next : MockSystem) : Prop :=
  ∃ events, Run Acts self events next ∧ ∀ event ∈ events, event.Carries

theorem CarriesTo.of_acts (acts : self.Acts event next) (carries : event.Carries) :
    self.CarriesTo next :=
  ⟨[event], .move .stop acts, fun _ member => List.mem_singleton.mp member ▸ carries⟩

theorem CarriesTo.trans {middle : MockSystem} (first : self.CarriesTo middle)
    (second : middle.CarriesTo next) : self.CarriesTo next := by
  obtain ⟨past, ran, carries⟩ := first
  obtain ⟨events, continued, carries'⟩ := second
  refine ⟨past ++ events, ran.trans continued, fun event member => ?_⟩
  exact (List.mem_append.mp member).elim (carries event) (carries' event)

theorem CarriesTo.serves (carried : self.CarriesTo next)
    (serves : self.Serves characteristic number) : next.Serves characteristic number := by
  obtain ⟨events, ran, carries⟩ := carried
  exact ran.invariant serves fun _ event _ member held acts =>
    does_serves acts.does ((carries event member).undisturbed number) held

theorem CarriesTo.wellFormed (carried : self.CarriesTo next) (formed : self.WellFormed) :
    next.WellFormed := by
  obtain ⟨events, ran, _⟩ := carried
  exact run_wellFormed ran formed

/-- A subscriber can read what is queued for it. -/
theorem Serves.drains (serves : self.Serves characteristic number) :
    ∃ next, self.CarriesTo next ∧ next.flushes = self.flushes ∧ next.inner = self.inner ∧
      queueOf next.channels number = [] := by
  obtain ⟨queue, listening⟩ := serves.listening
  induction queue generalizing self with
  | nil => exact ⟨self, ⟨[], .stop, nofun⟩, rfl, rfl, queueOf_of_getElem? listening⟩
  | cons data queue ih =>
      have read : self.CarriesTo { self with channels := self.channels.set number ⟨queue, true⟩ } :=
        .of_acts (Does.recv listening).acts trivial
      obtain ⟨next, drained, flushes, inner, empty⟩ :=
        ih (read.serves serves) (List.getElem?_set_self serves.known)
      exact ⟨next, read.trans drained, flushes, inner, empty⟩

theorem WellFormed.queueOf_le (formed : self.WellFormed) (number : Nat) :
    (queueOf self.channels number).length ≤ Channel.capacity := by
  cases found : self.channels[number]? with
  | none =>
      rw [queueOf, found]
      exact Nat.zero_le _
  | some channel =>
      rw [queueOf_of_getElem? found]
      exact formed.capacity channel (List.mem_of_getElem? found)

/-- A call that does not read receives nothing. -/
theorem Event.received_of_ne (other : event.1 ≠ .recv number) : event.received number = [] := by
  obtain ⟨call, answer⟩ := event
  unfold received
  split
  · rename_i receiver data equality
    cases equality
    refine if_neg ?_
    rintro rfl
    exact other rfl
  · rfl

/-- Without a reader at most 64 frames are delivered: with more of them, calls of
`flush_inbound` are still under way or yet to come. -/
theorem unread_flush_waits {before system final : MockSystem} {characteristic : Uuid}
    {number : Nat} {events : List Event} (reachable : before.Reachable)
    (subscribed : before.Acts (.subscribe characteristic, .receiver (.ok number)) system)
    (ran : Run Acts system events final)
    (undisturbed : ∀ event ∈ events, event.Undisturbed number)
    (unread : ∀ event ∈ events, event.1 ≠ .recv number)
    (many : 64 < (system.pending characteristic number ++
      events.flatMap (Event.scripted characteristic)).length) :
    final.flushes ≠ [] ∨ valuesOf characteristic final.inner.inbound ≠ [] := by
  obtain ⟨moves, moved, pushed, taken, keeps⟩ :=
    run_belt (reachable.wellFormed.serves subscribed) ran
  have kept : (events.flatMap (Event.received number) ++
      final.pending characteristic number).length =
        (system.pending characteristic number ++
          events.flatMap (Event.scripted characteristic)).length := by
    rw [← pushed, ← taken]
    exact (run_perm moved (keeps undisturbed)).length_eq
  have nothing : events.flatMap (Event.received number) = [] :=
    List.flatMap_eq_nil_iff.mpr fun event member => Event.received_of_ne (unread event member)
  have formed : final.WellFormed :=
    run_wellFormed ran (does_wellFormed subscribed.does reachable.wellFormed)
  by_contra done
  obtain ⟨flushes, inbound⟩ := not_or.mp done
  have queued : final.pending characteristic number = queueOf final.channels number := by
    rw [pending, belt, Belt.contents, not_not.mp flushes, not_not.mp inbound]
    exact List.append_nil _
  have bound := formed.queueOf_le number
  rw [nothing, List.nil_append, queued] at kept
  rw [← kept] at many
  exact absurd bound (Nat.not_le_of_lt many)

/-- Of 66 frames, 64 are in the channel, and two calls wait. -/
theorem unread_flush_waits_congested :
    ∃ events, Run Acts oneSubscriber events congested ∧
      events.flatMap (Event.scripted lpf2All) = List.replicate 64 [1] ++ [[2], [3]] ∧
      (∀ event ∈ events, event.1 ≠ .recv 0) ∧
      (congested.flushes ≠ [] ∨ valuesOf lpf2All congested.inner.inbound ≠ []) := by
  obtain ⟨events, ran, scripted, undisturbed, unread⟩ := congested_run
  have many : 64 < (oneSubscriber.pending lpf2All 0 ++
      events.flatMap (Event.scripted lpf2All)).length := by
    rw [scripted]
    decide
  exact ⟨events, ran, scripted, unread,
    unread_flush_waits opened_reachable opened_subscribes ran undisturbed unread many⟩

end MockSystem

end PoweredUp

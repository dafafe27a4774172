import PoweredUp.Ble.Mock

/-!
# Delivery

What one subscriber of the mock transport gets.  Seen from its channel the transport
is a conveyor: frames of its characteristic are put down by `push_inbound`, loaded by
`flush_inbound`, moved to the queue by the sends, and taken by `recv`.
-/

namespace PoweredUp

open Transition Conveyor

/-- The values given to a key, in order. -/
def valuesOf {κ : Type} [DecidableEq κ] (key : κ) (entries : List (κ × Bytes)) : List Bytes :=
  (entries.filter fun entry => entry.1 = key).map Prod.snd

section Values

variable {κ : Type} [DecidableEq κ] (key : κ)

theorem valuesOf_append (front back : List (κ × Bytes)) :
    valuesOf key (front ++ back) = valuesOf key front ++ valuesOf key back := by
  rw [valuesOf, List.filter_append, List.map_append]
  rfl

theorem valuesOf_cons_of_eq {entry : κ × Bytes} (same : entry.1 = key)
    (entries : List (κ × Bytes)) :
    valuesOf key (entry :: entries) = entry.2 :: valuesOf key entries := by
  rw [valuesOf, List.filter_cons_of_pos (by simpa using same)]
  rfl

theorem valuesOf_cons_of_ne {entry : κ × Bytes} (other : entry.1 ≠ key)
    (entries : List (κ × Bytes)) : valuesOf key (entry :: entries) = valuesOf key entries := by
  rw [valuesOf, List.filter_cons_of_neg (by simpa using other)]
  rfl

/-- The copies of one value for the channels of some senders: one for each sender of
the channel. -/
theorem valuesOf_clones (senders : List (Uuid × Nat)) (uuid : Uuid) (data : Bytes) (number : Nat) :
    valuesOf number (((senders.filter fun sender => sender.1 = uuid).map Prod.snd).map (·, data)) =
      ((senders.filter fun sender => sender.2 = number).filter fun sender =>
        sender.1 = uuid).map fun _ => data := by
  rw [valuesOf, List.map_map, List.filter_map, List.map_map, List.filter_filter,
    List.filter_filter]
  congr 2
  funext sender
  exact Bool.and_comm _ _

end Values

/-- What a call of `flush_inbound` has left for a channel of a characteristic. -/
def Flush.lane (characteristic : Uuid) (number : Nat) (self : Flush) : List Bytes :=
  valuesOf number self.sends ++ valuesOf characteristic self.frames

/-- What is queued in a channel. -/
def queueOf (channels : List Channel) (number : Nat) : List Bytes :=
  match channels[number]? with
  | some channel => channel.queue
  | none => []

theorem queueOf_of_getElem? {channels : List Channel} {number : Nat} {channel : Channel}
    (found : channels[number]? = some channel) : queueOf channels number = channel.queue := by
  rw [queueOf, found]

theorem queueOf_set_self {channels : List Channel} {number : Nat}
    (known : number < channels.length) (channel : Channel) :
    queueOf (channels.set number channel) number = channel.queue :=
  queueOf_of_getElem? (List.getElem?_set_self known)

theorem queueOf_set_ne {number other : Nat} (distinct : other ≠ number) (channels : List Channel)
    (channel : Channel) :
    queueOf (channels.set other channel) number = queueOf channels number := by
  rw [queueOf, List.getElem?_set_ne distinct]
  rfl

theorem queueOf_append {channels : List Channel} {number : Nat} (known : number < channels.length)
    (more : List Channel) : queueOf (channels ++ more) number = queueOf channels number := by
  rw [queueOf, List.getElem?_append_left known]
  rfl

namespace MockSystem

/-- The transport as one channel sees it. -/
def belt (characteristic : Uuid) (number : Nat) (self : MockSystem) : Belt Bytes where
  inbound := valuesOf characteristic self.inner.inbound
  lanes := self.flushes.map (Flush.lane characteristic number)
  queue := queueOf self.channels number

/-- The frames of a characteristic that a channel has yet to receive, the next one
first. -/
def pending (characteristic : Uuid) (number : Nat) (self : MockSystem) : List Bytes :=
  (self.belt characteristic number).contents

/-! ## Events -/

/-- The frame that a call scripts for a characteristic. -/
def Event.scripted (characteristic : Uuid) : Event → List Bytes
  | (.pushInbound uuid data, _) => if uuid = characteristic then [data] else []
  | _ => []

/-- The frame that a call receives from a channel. -/
def Event.received (number : Nat) : Event → List Bytes
  | (.recv receiver, .received (some data)) => if receiver = number then [data] else []
  | _ => []

/-- Neither does the transport drop its senders, nor is the receiver dropped. -/
def Event.Undisturbed (number : Nat) (event : Event) : Prop :=
  event.1 ≠ .disconnect ∧ event.1 ≠ .dropReceiver number

instance (number : Nat) : DecidablePred (Event.Undisturbed number) := fun event =>
  inferInstanceAs (Decidable (event.1 ≠ .disconnect ∧ event.1 ≠ .dropReceiver number))

/-- The calls of `flush_inbound` do not overlap. -/
def SerialActs (self : MockSystem) (event : Event) (next : MockSystem) : Prop :=
  self.Acts event next ∧ (event.1 = .flushInbound → self.flushes = [])

/-! ## The channel of a subscriber -/

/-- A channel belongs to a characteristic: it has no sender for another one, and no
second sender. -/
structure Assigned (characteristic : Uuid) (number : Nat) (system : MockSystem) : Prop where
  known : number < system.channels.length
  senders : (system.inner.senders.filter fun sender => sender.2 = number).Sublist
    [(characteristic, number)]

/-- The transport still has the sender of the channel, and the receiver is there. -/
structure Serves (characteristic : Uuid) (number : Nat) (system : MockSystem) : Prop where
  senders : (system.inner.senders.filter fun sender => sender.2 = number) =
    [(characteristic, number)]
  listening : ∃ queue, system.channels[number]? = some ⟨queue, true⟩

/-- How a call looks from a channel.  Nothing is thrown away as long as the channel is
`steady`. -/
structure Shows (characteristic : Uuid) (number : Nat) (steady : Prop) (event : Event)
    (move : Move Bytes) : Prop where
  scripted : move.pushed = event.scripted characteristic
  received : move.taken = event.received number
  load : move = .load → event.1 = .flushInbound
  keeps : steady → move.Keeps

variable {characteristic : Uuid} {number : Nat} {self next : MockSystem} {event : Event}

/-- A lookup copies the frame for the channel, passes over it, or leaves it out when the
sender is gone. -/
theorem lookup_lane (assigned : self.Assigned characteristic number) (uuid : Uuid) (data : Bytes)
    (frames : List (Uuid × Bytes)) :
    let senders := (self.inner.senders.filter fun sender => sender.1 = uuid).map Prod.snd
    let before := Flush.lane characteristic number ⟨[], (uuid, data) :: frames⟩
    let after := Flush.lane characteristic number ⟨senders.map (·, data), frames⟩
    before = after ∨ (¬self.Serves characteristic number ∧ before = data :: after) := by
  dsimp only [Flush.lane]
  rw [valuesOf_clones]
  rcases List.sublist_singleton.mp assigned.senders with gone | there
  · rw [gone]
    by_cases same : uuid = characteristic
    · refine .inr ⟨fun serves => ?_, valuesOf_cons_of_eq _ same frames⟩
      rw [serves.senders] at gone
      cases gone
    · exact .inl (valuesOf_cons_of_ne _ same frames)
  · rw [there]
    by_cases same : uuid = characteristic
    · subst same
      refine .inl ((valuesOf_cons_of_eq _ rfl frames).trans ?_)
      simp
    · refine .inl ((valuesOf_cons_of_ne _ same frames).trans ?_)
      simp [Ne.symm same]

/-- Every call is a move of the conveyor. -/
theorem does_simulates (does : self.Does event next)
    (assigned : self.Assigned characteristic number) :
    ∃ move, Shows characteristic number
        (self.Serves characteristic number ∧ event.Undisturbed number) event move ∧
      Step (self.belt characteristic number) move (next.belt characteristic number) := by
  cases does with
  | pushInbound uuid data =>
      by_cases same : uuid = characteristic
      · refine ⟨.push data, ⟨(if_pos same).symm, rfl, nofun, fun _ => trivial⟩, ?_⟩
        have inbound := valuesOf_append characteristic self.inner.inbound [(uuid, data)]
        rw [valuesOf_cons_of_eq _ same] at inbound
        rw [belt, belt, pushInbound, inbound]
        exact .push data
      · refine ⟨.idle, ⟨(if_neg same).symm, rfl, nofun, fun _ => trivial⟩, ?_⟩
        have inbound : valuesOf characteristic (self.inner.inbound ++ [(uuid, data)]) =
            valuesOf characteristic self.inner.inbound := by
          rw [valuesOf_append, valuesOf_cons_of_ne _ same]
          exact List.append_nil _
        rw [belt, belt, pushInbound, inbound]
        exact .idle _
  | flushInbound =>
      refine ⟨.load, ⟨rfl, rfl, fun _ => rfl, fun _ => trivial⟩, ?_⟩
      rw [belt, belt, flushInbound, List.map_append]
      exact .load
  | @flushLookup front back uuid data frames running =>
      rw [belt, belt, running, List.map_append, List.map_append, List.map_cons, List.map_cons]
      rcases lookup_lane assigned uuid data frames with same | ⟨gone, dropped⟩
      · refine ⟨.idle, ⟨rfl, rfl, nofun, fun _ => trivial⟩, ?_⟩
        rw [same]
        exact .idle _
      · refine ⟨.discard, ⟨rfl, rfl, nofun, fun steady => (gone steady.1).elim⟩, ?_⟩
        rw [dropped]
        exact .discard
  | @flushSend front back target data sends frames channel sent running known accepts =>
      rw [belt, belt, running, List.map_append, List.map_append, List.map_cons, List.map_cons]
      by_cases same : target = number
      · subst same
        have lane : Flush.lane characteristic target ⟨(target, data) :: sends, frames⟩ =
            data :: Flush.lane characteristic target ⟨sends, frames⟩ := by
          rw [Flush.lane, Flush.lane, valuesOf_cons_of_eq target rfl sends]
          rfl
        rw [lane, queueOf_set_self assigned.known, queueOf_of_getElem? known]
        rw [Channel.send] at accepts
        split at accepts
        · split at accepts
          · cases accepts
            exact ⟨.transfer, ⟨rfl, rfl, nofun, fun _ => trivial⟩, .transfer⟩
          · cases accepts
        · rename_i dropped
          cases accepts
          refine ⟨.discard, ⟨rfl, rfl, nofun, fun steady => ?_⟩, .discard⟩
          obtain ⟨queue, listening⟩ := steady.1.listening
          rw [known] at listening
          cases listening
          exact (dropped rfl).elim
      · have lane : Flush.lane characteristic number ⟨(target, data) :: sends, frames⟩ =
            Flush.lane characteristic number ⟨sends, frames⟩ := by
          rw [Flush.lane, valuesOf_cons_of_ne _ same]
          rfl
        refine ⟨.idle, ⟨rfl, rfl, nofun, fun _ => trivial⟩, ?_⟩
        rw [lane, queueOf_set_ne same]
        exact .idle _
  | @flushReturn front back running =>
      refine ⟨.unload, ⟨rfl, rfl, nofun, fun _ => trivial⟩, ?_⟩
      rw [belt, belt, running, List.map_append, List.map_append, List.map_cons]
      exact .unload
  | connect =>
      refine ⟨.idle, ⟨rfl, rfl, nofun, fun _ => trivial⟩, ?_⟩
      rw [connect]
      split <;> exact .idle _
  | disconnect => exact ⟨.idle, ⟨rfl, rfl, nofun, fun _ => trivial⟩, .idle _⟩
  | write uuid data =>
      refine ⟨.idle, ⟨rfl, rfl, nofun, fun _ => trivial⟩, ?_⟩
      rw [write]
      split <;> exact .idle _
  | subscribe uuid =>
      refine ⟨.idle, ⟨rfl, rfl, nofun, fun _ => trivial⟩, ?_⟩
      rw [subscribe]
      split
      · rw [belt, belt, queueOf_append assigned.known]
        exact .idle _
      · exact .idle _
  | @recv receiver data queue queued =>
      rw [belt, belt]
      by_cases same : receiver = number
      · subst same
        refine ⟨.take data, ⟨rfl, (if_pos rfl).symm, nofun, fun _ => trivial⟩, ?_⟩
        rw [queueOf_set_self assigned.known, queueOf_of_getElem? queued]
        exact .take
      · refine ⟨.idle, ⟨rfl, (if_neg same).symm, nofun, fun _ => trivial⟩, ?_⟩
        rw [queueOf_set_ne same]
        exact .idle _
  | closed empty abandoned => exact ⟨.idle, ⟨rfl, rfl, nofun, fun _ => trivial⟩, .idle _⟩
  | dropReceiver receiver =>
      rw [belt, belt, dropReceiver]
      by_cases same : receiver = number
      · subst same
        refine ⟨.clear, ⟨rfl, rfl, nofun, fun steady => (steady.2.2 rfl).elim⟩, ?_⟩
        rw [queueOf_set_self assigned.known]
        exact .clear
      · refine ⟨.idle, ⟨rfl, rfl, nofun, fun _ => trivial⟩, ?_⟩
        rw [queueOf_set_ne same]
        exact .idle _

/-- No call gives a channel to another characteristic. -/
theorem does_assigned (does : self.Does event next)
    (assigned : self.Assigned characteristic number) : next.Assigned characteristic number := by
  obtain ⟨known, senders⟩ := assigned
  cases does with
  | flushSend running found accepts => exact ⟨by rwa [List.length_set], senders⟩
  | recv queued => exact ⟨by rwa [List.length_set], senders⟩
  | dropReceiver receiver => exact ⟨by rwa [dropReceiver, List.length_set], senders⟩
  | connect =>
      rw [connect]
      split <;> exact ⟨known, senders⟩
  | disconnect => exact ⟨known, List.nil_sublist _⟩
  | write uuid data =>
      rw [write]
      split <;> exact ⟨known, senders⟩
  | subscribe uuid =>
      rw [subscribe]
      split
      · refine ⟨?_, ?_⟩
        · rw [List.length_append]
          exact Nat.lt_add_right _ known
        · have other := (Nat.ne_of_lt known).symm
          rw [List.filter_append, List.filter_cons_of_neg (by simpa using other), List.filter_nil,
            List.append_nil]
          exact senders
      · exact ⟨known, senders⟩
  | _ => exact ⟨known, senders⟩

/-- A served channel is one of the transport. -/
theorem Serves.known (serves : self.Serves characteristic number) :
    number < self.channels.length := by
  obtain ⟨queue, listening⟩ := serves.listening
  exact (List.getElem?_eq_some_iff.mp listening).choose

theorem Serves.assigned (serves : self.Serves characteristic number) :
    self.Assigned characteristic number where
  known := serves.known
  senders := serves.senders ▸ List.Sublist.refl _

/-- A channel is served until the transport disconnects or its receiver is dropped. -/
theorem does_serves (does : self.Does event next) (undisturbed : event.Undisturbed number)
    (serves : self.Serves characteristic number) : next.Serves characteristic number := by
  have known := serves.known
  obtain ⟨senders, queue, listening⟩ := serves
  cases does with
  | @flushSend front back target data sends frames channel sent running found accepts =>
      refine ⟨senders, ?_⟩
      by_cases same : target = number
      · subst same
        rw [found] at listening
        cases listening
        rw [Channel.send, if_pos rfl] at accepts
        split at accepts
        · cases accepts
          exact ⟨_, List.getElem?_set_self known⟩
        · cases accepts
      · exact ⟨queue, (List.getElem?_set_ne same).trans listening⟩
  | @recv receiver data rest queued =>
      refine ⟨senders, ?_⟩
      by_cases same : receiver = number
      · subst same
        exact ⟨_, List.getElem?_set_self known⟩
      · exact ⟨queue, (List.getElem?_set_ne same).trans listening⟩
  | dropReceiver receiver =>
      refine ⟨senders, queue, ?_⟩
      refine (List.getElem?_set_ne ?_).trans listening
      rintro rfl
      exact undisturbed.2 rfl
  | connect =>
      rw [connect]
      split <;> exact ⟨senders, queue, listening⟩
  | disconnect => exact (undisturbed.1 rfl).elim
  | write uuid data =>
      rw [write]
      split <;> exact ⟨senders, queue, listening⟩
  | subscribe uuid =>
      rw [subscribe]
      split
      · refine ⟨?_, queue, (List.getElem?_append_left known).trans listening⟩
        rw [List.filter_append, List.filter_cons_of_neg (by simpa using (Nat.ne_of_lt known).symm),
          List.filter_nil, List.append_nil]
        exact senders
      · exact ⟨senders, queue, listening⟩
  | _ => exact ⟨senders, queue, listening⟩

/-! ## Reachable transports -/

/-- The channels of a transport are numbered as they were made, and hold what they
can. -/
structure WellFormed (system : MockSystem) : Prop where
  senders : ∀ sender ∈ system.inner.senders, sender.2 < system.channels.length
  sends : ∀ flush ∈ system.flushes, ∀ send ∈ flush.sends, send.1 < system.channels.length
  capacity : ∀ channel ∈ system.channels, channel.queue.length ≤ Channel.capacity

/-- Transports that calls lead to. -/
def Reachable (self : MockSystem) : Prop :=
  ∃ events, Run Acts {} events self

theorem does_wellFormed (does : self.Does event next) (formed : self.WellFormed) :
    next.WellFormed := by
  obtain ⟨senders, sends, capacity⟩ := formed
  cases does with
  | pushInbound uuid data => exact ⟨senders, sends, capacity⟩
  | flushInbound =>
      refine ⟨senders, fun flush member => ?_, capacity⟩
      rcases List.mem_append.mp member with old | new
      · exact sends flush old
      · cases List.mem_singleton.mp new
        exact fun _ => nofun
  | @flushLookup front back uuid data frames running =>
      refine ⟨senders, fun flush member send sending => ?_, capacity⟩
      rw [running] at sends
      rcases List.mem_append.mp member with old | member
      · exact sends flush (List.mem_append_left _ old) send sending
      · rcases List.mem_cons.mp member with rfl | old
        · obtain ⟨target, cloned, rfl⟩ := List.mem_map.mp sending
          obtain ⟨sender, held, rfl⟩ := List.mem_map.mp cloned
          exact senders sender (List.mem_of_mem_filter held)
        · exact sends flush (by simp [old]) send sending
  | @flushSend front back target data rest frames channel sent running found accepts =>
      rw [running] at sends
      refine ⟨?_, fun flush member send sending => ?_, fun other member => ?_⟩
      · rw [List.length_set]
        exact senders
      · rw [List.length_set]
        rcases List.mem_append.mp member with old | member
        · exact sends flush (List.mem_append_left _ old) send sending
        · rcases List.mem_cons.mp member with rfl | old
          · exact sends ⟨(target, data) :: rest, frames⟩ (by simp) send
              (List.mem_cons_of_mem _ sending)
          · exact sends flush (by simp [old]) send sending
      · rcases List.mem_or_eq_of_mem_set member with old | rfl
        · exact capacity other old
        · have before := capacity channel (List.mem_of_getElem? found)
          rw [Channel.send] at accepts
          split at accepts
          · split at accepts
            · cases accepts
              rw [List.length_append]
              assumption
            · cases accepts
          · cases accepts
            exact before
  | @flushReturn front back running =>
      rw [running] at sends
      refine ⟨senders, fun flush member => ?_, capacity⟩
      rcases List.mem_append.mp member with old | old
      · exact sends flush (List.mem_append_left _ old)
      · exact sends flush (by simp [old])
  | connect =>
      rw [connect]
      split <;> exact ⟨senders, sends, capacity⟩
  | disconnect => exact ⟨fun _ => nofun, sends, capacity⟩
  | write uuid data =>
      rw [write]
      split <;> exact ⟨senders, sends, capacity⟩
  | subscribe uuid =>
      rw [subscribe]
      split
      · refine ⟨fun sender member => ?_, fun flush member send sending => ?_,
          fun channel member => ?_⟩
        · rw [List.length_append]
          rcases List.mem_append.mp member with old | new
          · exact Nat.lt_add_right _ (senders sender old)
          · cases List.mem_singleton.mp new
            exact Nat.lt_succ_self _
        · rw [List.length_append]
          exact Nat.lt_add_right _ (sends flush member send sending)
        · rcases List.mem_append.mp member with old | new
          · exact capacity channel old
          · cases List.mem_singleton.mp new
            exact Nat.zero_le _
      · exact ⟨senders, sends, capacity⟩
  | @recv receiver data queue queued =>
      refine ⟨?_, ?_, fun other member => ?_⟩
      · rw [List.length_set]
        exact senders
      · rw [List.length_set]
        exact sends
      · rcases List.mem_or_eq_of_mem_set member with old | rfl
        · exact capacity other old
        · exact Nat.le_of_succ_le (capacity _ (List.mem_of_getElem? queued))
  | closed empty abandoned => exact ⟨senders, sends, capacity⟩
  | dropReceiver receiver =>
      rw [dropReceiver]
      refine ⟨?_, ?_, fun other member => ?_⟩
      · rw [List.length_set]
        exact senders
      · rw [List.length_set]
        exact sends
      · rcases List.mem_or_eq_of_mem_set member with old | rfl
        · exact capacity other old
        · exact Nat.zero_le _

theorem Reachable.wellFormed (reachable : self.Reachable) : self.WellFormed := by
  obtain ⟨events, ran⟩ := reachable
  exact ran.invariant ⟨fun _ => nofun, fun _ => nofun, fun _ => nofun⟩
    fun _ _ _ _ formed acts => does_wellFormed acts.does formed

/-- What an accepted subscription changes. -/
theorem subscribe_ok
    (subscribed : self.Acts (.subscribe characteristic, .receiver (.ok number)) next) :
    self.inner.connected = true ∧ number = self.channels.length ∧
      next = { self with
        inner.senders := self.inner.senders ++ [(characteristic, number)]
        channels := self.channels ++ [{}] } := by
  rw [Acts, act, subscribe] at subscribed
  split at subscribed
  · rename_i connected
    cases subscribed
    exact ⟨connected, rfl, rfl⟩
  · cases subscribed

/-- A new subscriber is served. -/
theorem WellFormed.serves (formed : self.WellFormed)
    (subscribed : self.Acts (.subscribe characteristic, .receiver (.ok number)) next) :
    next.Serves characteristic number := by
  obtain ⟨_, rfl, rfl⟩ := subscribe_ok subscribed
  refine ⟨?_, [], List.getElem?_concat_length⟩
  have others : (self.inner.senders.filter fun sender => sender.2 = self.channels.length) = [] := by
    rw [List.filter_eq_nil_iff]
    intro sender member
    simpa using Nat.ne_of_lt (formed.senders sender member)
  rw [List.filter_append, others, List.nil_append, List.filter_cons_of_pos (by simp),
    List.filter_nil]

/-! ## Runs as a channel sees them -/

/-- What the moves of a run put down, take and keep. -/
private theorem shows_flatMap {steady : Prop} {events : List Event} {moves : List (Move Bytes)}
    (shows : List.Forall₂ (Shows characteristic number steady) events moves) :
    moves.flatMap Move.pushed = events.flatMap (Event.scripted characteristic) ∧
      moves.flatMap Move.taken = events.flatMap (Event.received number) ∧
      (steady → ∀ move ∈ moves, move.Keeps) := by
  induction shows with
  | nil => exact ⟨rfl, rfl, fun _ _ => nofun⟩
  | cons first _ ih =>
      obtain ⟨pushed, taken, keeps⟩ := ih
      refine ⟨?_, ?_, fun steady => List.forall_mem_cons.mpr ⟨first.keeps steady, keeps steady⟩⟩
      · rw [List.flatMap_cons, List.flatMap_cons, first.scripted, pushed]
      · rw [List.flatMap_cons, List.flatMap_cons, first.received, taken]

/-- A call of a run in which nothing disturbs the channel, or anything may. -/
private theorem acts_shows {steady : Prop} (undisturbed : steady → event.Undisturbed number)
    (state : self.Assigned characteristic number ∧ (steady → self.Serves characteristic number))
    (acts : self.Acts event next) :
    (next.Assigned characteristic number ∧ (steady → next.Serves characteristic number)) ∧
      ∃ move, Shows characteristic number steady event move ∧
        Step (self.belt characteristic number) move (next.belt characteristic number) := by
  obtain ⟨assigned, serves⟩ := state
  obtain ⟨move, shown, stepped⟩ := does_simulates acts.does assigned
  refine ⟨⟨does_assigned acts.does assigned, fun steady =>
    does_serves acts.does (undisturbed steady) (serves steady)⟩, move, ?_, stepped⟩
  exact { shown with keeps := fun steady => shown.keeps ⟨serves steady, undisturbed steady⟩ }

private theorem serialActs_shows {steady : Prop}
    (undisturbed : steady → event.Undisturbed number)
    (state : self.Assigned characteristic number ∧ (steady → self.Serves characteristic number))
    (acts : self.SerialActs event next) :
    (next.Assigned characteristic number ∧ (steady → next.Serves characteristic number)) ∧
      ∃ move, Shows characteristic number steady event move ∧
        SerialStep (self.belt characteristic number) move (next.belt characteristic number) := by
  obtain ⟨after, move, shown, stepped⟩ := acts_shows undisturbed state acts.1
  refine ⟨after, move, shown, stepped, fun loads => ?_⟩
  rw [belt, acts.2 (shown.load loads)]
  rfl

/-- A run is one of the belt that a subscription is. -/
theorem run_belt {final : MockSystem} {events : List Event}
    (serves : self.Serves characteristic number) (ran : Run Acts self events final) :
    ∃ moves, Run Step (self.belt characteristic number) moves (final.belt characteristic number) ∧
      moves.flatMap Move.pushed = events.flatMap (Event.scripted characteristic) ∧
      moves.flatMap Move.taken = events.flatMap (Event.received number) ∧
      ((∀ event ∈ events, event.Undisturbed number) → ∀ move ∈ moves, move.Keeps) := by
  obtain ⟨_, moves, shows, moved⟩ := ran.simulate
    (Shows characteristic number (∀ event ∈ events, event.Undisturbed number))
    ⟨serves.assigned, fun _ => serves⟩ fun _ event _ member state acts =>
      acts_shows (fun undisturbed => undisturbed event member) state acts
  exact ⟨moves, moved, shows_flatMap shows⟩

/-- A run with one call of `flush_inbound` at a time is one of a serial belt. -/
theorem run_belt_serial {final : MockSystem} {events : List Event}
    (serves : self.Serves characteristic number) (ran : Run SerialActs self events final) :
    ∃ moves,
      Run SerialStep (self.belt characteristic number) moves (final.belt characteristic number) ∧
      moves.flatMap Move.pushed = events.flatMap (Event.scripted characteristic) ∧
      moves.flatMap Move.taken = events.flatMap (Event.received number) ∧
      ((∀ event ∈ events, event.Undisturbed number) → ∀ move ∈ moves, move.Keeps) := by
  obtain ⟨_, moves, shows, moved⟩ := ran.simulate
    (Shows characteristic number (∀ event ∈ events, event.Undisturbed number))
    ⟨serves.assigned, fun _ => serves⟩ fun _ event _ member state acts =>
      serialActs_shows (fun undisturbed => undisturbed event member) state acts
  exact ⟨moves, moved, shows_flatMap shows⟩

/-- The transport behind a new connection. -/
def opened : MockSystem := { inner := { connected := true } }

theorem opened_reachable : opened.Reachable :=
  ⟨[(.connect, .result (.ok ()))], .move .stop rfl⟩

/-- The same with one subscriber. -/
def oneSubscriber : MockSystem :=
  { inner := { connected := true, senders := [(lpf2All, 0)] }, channels := [{}] }

theorem opened_subscribes : opened.Acts (.subscribe lpf2All, .receiver (.ok 0)) oneSubscriber :=
  rfl

end MockSystem

end PoweredUp

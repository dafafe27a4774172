import PoweredUp.Foundation.Alignment
import PoweredUp.Hub.History
import PoweredUp.Hub.Initialized
import PoweredUp.Hub.NextMessage
import PoweredUp.Protocol.Reassembly

/-!
# Corrupted frames

A frame whose content is corrupted on the way, but not its length byte, is one frame
still.  The hub stays in step with the stream, and delivers at most one message more,
less or other than it would have; only what this message is about is affected.  A length
byte that is corrupted to zero, however, silences the hub for good.
-/

namespace PoweredUp

open Rust Framing Framer KeyedLog

namespace Hub

variable {T : Type}

/-- Two hubs know the same about a subject. -/
def AgreesOn (subject : Subject) (self other : Hub Ready T) : Prop :=
  match subject with
  | .port port => self.state.devices port = other.state.devices port
  | .report .batteryVoltage => self.props.batteryLevel = other.props.batteryLevel
  | .report .rssi => self.props.rssi = other.props.rssi
  | .report .button => self.props.buttonPressed = other.props.buttonPressed
  | .report _ => True

theorem agreesOn_withStream {subject : Subject} {self other : Hub Ready T}
    (agrees : self.AgreesOn subject other) (rx rx' : Receiver) (frameBuf frameBuf' : FrameBuffer) :
    (self.withStream rx frameBuf).AgreesOn subject (other.withStream rx' frameBuf') := by
  cases subject with
  | port port => exact agrees
  | report reference => cases reference <;> exact agrees

/-- A hub knows about a subject what its slot holds. -/
theorem holding_agreesOn (self : Hub Ready T) {subject : Subject}
    {slots slots' : Subject → Option Holding} (same : slots subject = slots' subject) :
    (self.holding slots).AgreesOn subject (self.holding slots') := by
  cases subject with
  | port port => exact congrArg (Option.bind · Sum.getLeft?) same
  | report reference =>
      have payload : payloadOf reference slots = payloadOf reference slots' := by
        rw [payloadOf, payloadOf, same]
      cases reference with
      | batteryVoltage | rssi | button => simp only [AgreesOn, holding, payload]
      | _ => trivial

/-- Streams that differ in one frame complete the same frames with every notification
but for one. -/
theorem batches_of_replaced {frameBuf : FrameBuffer} (reachable : frameBuf.Reachable)
    {before : List Bytes} {frame frame' after : Bytes} {rx rx' : Receiver}
    (intact : ∀ earlier ∈ before, IsFrame earlier) (isFrame : IsFrame frame)
    (isFrame' : IsFrame frame') (same : frame.length = frame'.length)
    (sent : frameBuf.buf ++ rx.flatten = before.flatten ++ (frame ++ after))
    (received : frameBuf.buf ++ rx'.flatten = before.flatten ++ (frame' ++ after))
    (cuts : rx.map List.length = rx'.map List.length) :
    frameBuf.residual rx = frameBuf.residual rx' ∧
    ∃ front batch batch' back, frameBuf.batches rx = front ++ batch :: back ∧
      frameBuf.batches rx' = front ++ batch' :: back := by
  have aligned := framing.aligned_of_replaced intact isFrame isFrame' same after
  rw [← sent, ← received] at aligned
  have sizes := aligned.feed rfl cuts
  have drained {frame : Bytes} {rx : Receiver} (isFrame : IsFrame frame)
      (stream : frameBuf.buf ++ rx.flatten = before.flatten ++ (frame ++ after)) :
      (frameBuf.frames rx, (frameBuf.residual rx).buf) =
        (before ++ frame :: (framing.drain after).1, (framing.drain after).2) := by
    rw [FrameBuffer.frames_eq_drain reachable.exhausted, stream,
      framing.drain_flatten_append intact, framing.drain_cons isFrame]
  obtain ⟨frames, residual⟩ := Prod.mk.inj (drained isFrame sent)
  obtain ⟨frames', residual'⟩ := Prod.mk.inj (drained isFrame' received)
  refine ⟨congrArg FrameBuffer.mk (residual.trans residual'.symm), ?_⟩
  refine exists_differing ?_ frames frames'
  simpa only [FrameBuffer.batches, FrameBuffer.pushAll_eq] using sizes

variable [FloatScale]

/-- A message makes no difference to what it is not about. -/
theorem handled_agreesOn (self : Hub Ready T) {subject : Subject} {lost lost' : Option LpfMessage}
    (elsewhere : ∀ message ∈ lost, message.subject? ≠ some subject)
    (elsewhere' : ∀ message ∈ lost', message.subject? ≠ some subject)
    (front back : List LpfMessage) :
    (self.handled (front ++ lost.toList ++ back)).AgreesOn subject
      (self.handled (front ++ lost'.toList ++ back)) := by
  have untouched {lost : Option LpfMessage}
      (elsewhere : ∀ message ∈ lost, message.subject? ≠ some subject) :
      lost.toList.filter (hubReading.touches subject) = [] := by
    refine List.filter_eq_nil_iff.mpr fun message member touched => ?_
    exact elsewhere message (Option.mem_toList.mp member) (subject_of_touches touched)
  rw [handled_eq_holding, handled_eq_holding]
  refine self.holding_agreesOn ?_
  rw [← hubReading.replay_filter subject _ (front ++ lost.toList ++ back),
    ← hubReading.replay_filter subject _ (front ++ lost'.toList ++ back),
    List.filter_append, List.filter_append, List.filter_append, List.filter_append,
    untouched elsewhere, untouched elsewhere']

/-- When one frame is corrupted, and its length byte is not, the polls deliver the same
messages but for at most one.  All else that the hub knows is the same afterwards, and
the buffer holds the same bytes. -/
theorem corruption_contained {self : Hub Ready T} (reachable : self.state.frameBuf.Reachable)
    {before : List Bytes} {frame frame' after : Bytes} {rx' : Receiver}
    (intact : ∀ earlier ∈ before, IsFrame earlier) (isFrame : IsFrame frame)
    (isFrame' : IsFrame frame') (same : frame.length = frame'.length)
    (sent : self.state.frameBuf.buf ++ self.state.rx.flatten = before.flatten ++ (frame ++ after))
    (received : self.state.frameBuf.buf ++ rx'.flatten = before.flatten ++ (frame' ++ after))
    (cuts : self.state.rx.map List.length = rx'.map List.length)
    (safe : ∀ frame ∈ self.state.frameBuf.frames self.state.rx, (parse frame).Returns)
    (safe' : ∀ frame ∈ self.state.frameBuf.frames rx', (parse frame).Returns) :
    ∃ (front back : List LpfMessage) (lost lost' : Option LpfMessage) (final final' : Hub Ready T),
      Drains nextMessage self (front ++ lost.toList ++ back) final ∧
      Drains nextMessage (self.withStream rx' self.state.frameBuf)
        (front ++ lost'.toList ++ back) final' ∧
      final.state.frameBuf = final'.state.frameBuf ∧
      ∀ subject, (∀ message ∈ lost, message.subject? ≠ some subject) →
        (∀ message ∈ lost', message.subject? ≠ some subject) → final.AgreesOn subject final' := by
  obtain ⟨residual, front, batch, batch', back, batches, batches'⟩ :=
    batches_of_replaced reachable intact isFrame isFrame' same sent received cuts
  have split {rx : Receiver} {batch : List Bytes}
      (batches : self.state.frameBuf.batches rx = front ++ batch :: back) :
      delivered self.state.frameBuf rx =
        front.filterMap (fun batch => (batch.filterMap parsed?).head?) ++
          (batch.filterMap parsed?).head?.toList ++
            back.filterMap fun batch => (batch.filterMap parsed?).head? := by
    rw [delivered, batches, List.filterMap_append, List.append_assoc]
    congr 1
    cases first : (batch.filterMap parsed?).head? with
    | none => exact List.filterMap_cons_none first
    | some message => exact List.filterMap_cons_some first
  have polls := self.nextMessage_drains safe
  have polls' := (self.withStream rx' self.state.frameBuf).nextMessage_drains safe'
  have log' : delivered (self.withStream rx' self.state.frameBuf).state.frameBuf
      (self.withStream rx' self.state.frameBuf).state.rx = _ := split batches'
  rw [split batches] at polls
  rw [log'] at polls'
  refine ⟨_, _, _, _, _, _, polls, polls', residual, fun subject elsewhere elsewhere' => ?_⟩
  exact agreesOn_withStream (self.handled_agreesOn elsewhere elsewhere' _ _) _ _ _ _

end Hub

/-- A battery report is corrupted to a message of unknown type. -/
theorem Hub.corruption_contained_battery :
    ∃ (front back : List LpfMessage) (lost lost' : Option LpfMessage)
      (final final' : Hub Ready Scripted),
      Drains (@nextMessage Scripted .exact)
        (readyWith [[6, 0, 1, 6, 6], [90, 6, 0, 1, 5, 6, 200]])
        (front ++ lost.toList ++ back) final ∧
      Drains (@nextMessage Scripted .exact)
        ((readyWith []).withStream [[6, 0, 9, 6, 6], [90, 6, 0, 1, 5, 6, 200]] .new)
        (front ++ lost'.toList ++ back) final' ∧
      final.state.frameBuf = final'.state.frameBuf ∧
      ∀ subject, (∀ message ∈ lost, message.subject? ≠ some subject) →
        (∀ message ∈ lost', message.subject? ≠ some subject) → final.AgreesOn subject final' :=
  @Hub.corruption_contained Scripted .exact
    (readyWith [[6, 0, 1, 6, 6], [90, 6, 0, 1, 5, 6, 200]]) ⟨[], [], rfl⟩ []
    [6, 0, 1, 6, 6, 90] [6, 0, 9, 6, 6, 90] [6, 0, 1, 5, 6, 200]
    [[6, 0, 9, 6, 6], [90, 6, 0, 1, 5, 6, 200]] nofun (by decide) (by decide) rfl rfl rfl rfl
    (by decide) (by decide)

/-! ## Zero lengths -/

/-- Nothing comes out of a buffer that begins with a zero byte, and everything stays in. -/
theorem FrameBuffer.wedged (rest : Bytes) (late : List Bytes) :
    (⟨0 :: rest⟩ : FrameBuffer).frames late = [] ∧
      Hub.delivered ⟨0 :: rest⟩ late = [] ∧
      (⟨0 :: rest⟩ : FrameBuffer).residual late = ⟨0 :: (rest ++ late.flatten)⟩ := by
  induction late generalizing rest with
  | nil => simp [Hub.delivered, batches, pushAll]
  | cons chunk late ih =>
      obtain ⟨frames, delivered, residual⟩ := ih (rest ++ chunk)
      have pushed := push_wedged rest chunk
      refine ⟨?_, ?_, ?_⟩
      · rw [frames_cons pushed, frames, List.append_nil]
      · rw [Hub.delivered_cons pushed, delivered]
        rfl
      · rw [residual_cons pushed, residual, List.append_assoc, List.flatten_cons]

/-- What comes after a zero byte at the end of a frame is lost. -/
theorem FrameBuffer.silenced {frameBuf : FrameBuffer} (reachable : frameBuf.Reachable)
    {early : List Bytes} (zero : ZeroAtBoundary (frameBuf.buf ++ early.flatten))
    (late : List Bytes) :
    frameBuf.frames (early ++ late) = frameBuf.frames early ∧
      Hub.delivered frameBuf (early ++ late) = Hub.delivered frameBuf early ∧
      (frameBuf.residual (early ++ late)).buf =
        (frameBuf.residual early).buf ++ late.flatten := by
  obtain ⟨rest, starts⟩ := zeroAtBoundary_iff.mp zero
  rw [← frames_eq_drain reachable.exhausted] at starts
  have stuck : frameBuf.residual early = ⟨0 :: rest⟩ := congrArg FrameBuffer.mk starts
  obtain ⟨frames, delivered, residual⟩ := wedged rest late
  refine ⟨?_, ?_, ?_⟩
  · rw [frames_append, stuck, frames, List.append_nil]
  · rw [Hub.delivered_append, stuck, delivered, List.append_nil]
  · rw [residual_append, stuck, residual]
    rfl

namespace Hub

variable {T : Type}

/-- One zero byte where a length is expected silences the hub for good, whatever arrives
later.  A ready hub answers no message any more that was not complete before, and keeps
every byte; a hub that lacks an answer never becomes ready. -/
theorem zero_length_silences [FloatScale] {frameBuf : FrameBuffer}
    (reachable : frameBuf.Reachable) {early : List Bytes}
    (zero : ZeroAtBoundary (frameBuf.buf ++ early.flatten))
    (safe : ∀ frame ∈ frameBuf.frames early, (parse frame).Returns) (late : List Bytes) :
    (∀ self : Hub Ready T, ∃ final,
      Drains nextMessage (self.withStream (early ++ late) frameBuf) (delivered frameBuf early)
        final ∧
      final.state.frameBuf.buf = (frameBuf.residual early).buf ++ late.flatten ∧
      final.props = (self.handled (delivered frameBuf early)).props ∧
      final.state.devices = (self.handled (delivered frameBuf early)).state.devices) ∧
    (¬AllAnswered (frameBuf.messages early) → ∀ self : Hub Connected T,
      self.state = { rx := early ++ late, frameBuf } →
        self.becomeReady =
          .ret (.error (.ble "hub disconnected during initialisation", self.transport))) := by
  obtain ⟨frames, deliveries, residual⟩ := frameBuf.silenced reachable zero late
  refine ⟨fun self => ?_, fun unanswered self state => ?_⟩
  · have drains := (self.withStream (early ++ late) frameBuf).nextMessage_drains
      (by rw [← frames] at safe; exact safe)
    have log : delivered (self.withStream (early ++ late) frameBuf).state.frameBuf
        (self.withStream (early ++ late) frameBuf).state.rx = delivered frameBuf early := deliveries
    rw [log] at drains
    exact ⟨_, drains, residual, rfl, rfl⟩
  · rcases becomeReady_complete self (by rw [state, frames]; exact safe) with ready | failed
    · obtain ⟨ready, became⟩ := ready
      obtain ⟨consumed, _, shortest, _⟩ := becomeReady_eq_ok became
      rw [state] at shortest
      refine absurd (fun reference isMandatory => ?_) unanswered
      obtain ⟨m, member, answers⟩ := shortest.answers reference isMandatory
      obtain ⟨frame, found, parses⟩ := List.mem_filterMap.mp (mem_hubProperties.mp member)
      have early := FrameBuffer.mem_frames_of_prefix shortest.isPrefix found
      rw [frames] at early
      exact ⟨m, mem_hubProperties.mpr (List.mem_filterMap.mpr ⟨frame, early, parses⟩), answers⟩
    · exact failed.2

end Hub

/-- The battery report behind the zero byte is kept unread. -/
theorem Hub.zero_length_silences_battery :
    ∃ final : Hub Ready Scripted, Drains (@nextMessage Scripted .exact)
        ((readyWith []).withStream [[4, 0, 2, 0x30, 0], [6, 0, 1, 6, 6, 90]] .new)
        [.hubAction .hubWillSwitchOff] final ∧
      final.state.frameBuf.buf = [0, 6, 0, 1, 6, 6, 90] := by
  obtain ⟨final, drains, kept, _⟩ := (@zero_length_silences Scripted .exact .new
    ⟨[], [], rfl⟩ [[4, 0, 2, 0x30, 0]] ⟨[[4, 0, 2, 0x30]], [], by decide, rfl⟩ (by decide)
    [[6, 0, 1, 6, 6, 90]]).1 (readyWith [])
  exact ⟨final, drains, kept⟩

end PoweredUp

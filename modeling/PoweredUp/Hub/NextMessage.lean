import PoweredUp.Foundation.Drain
import PoweredUp.Hub.Handling
import PoweredUp.Protocol.Received

/-!
# Polling for messages

`next_message` receives notifications until one of them completes a frame that
parses, handles this message and returns it.  It leaves the loop over the frames
of the notification there, so the frames behind the message are dropped: a
stream is delivered in full exactly when no notification completes two messages.
-/

namespace PoweredUp

open Rust

namespace Hub

section Model

variable {T : Type} [FloatScale]

/-- Replace what is still to be read. -/
def withStream (self : Hub Ready T) (rx : Receiver) (frameBuf : FrameBuffer) : Hub Ready T :=
  { self with state := { self.state with rx, frameBuf } }

/-- The loop over the frames of one notification, which ends at the first
message. -/
def firstMessage (self : Hub Ready T) : List Bytes → Checked (Option LpfMessage × Hub Ready T)
  | [] => return (none, self)
  | frame :: frames => do
      match ← parse frame with
      | .ok msg =>
          let self ← self.handleMessage msg
          return (some msg, self)
      | .error _ => self.firstMessage frames

/-- The loop over the notifications in the receiver. -/
def nextMessageFrom (self : Hub Ready T) : Receiver → Checked (Option LpfMessage × Hub Ready T)
  | [] => return (none, self.withStream [] self.state.frameBuf)
  | raw :: rx => do
      let (frames, frameBuf) ← self.state.frameBuf.push raw
      let self := self.withStream rx frameBuf
      match ← self.firstMessage frames with
      | (some msg, self) => return (some msg, self)
      | (none, self) => self.nextMessageFrom rx

/-- `next_message`. -/
def nextMessage (self : Hub Ready T) : Checked (Option LpfMessage × Hub Ready T) :=
  self.nextMessageFrom self.state.rx

end Model

/-! ## What polling delivers -/

/-- The messages that polling delivers: the first one of every notification. -/
def delivered (frameBuf : FrameBuffer) (notifications : List Bytes) : List LpfMessage :=
  (frameBuf.batches notifications).filterMap fun batch => (batch.filterMap parsed?).head?

/-- A notification adds its first message, if it completes any. -/
theorem delivered_cons {frameBuf next : FrameBuffer} {raw : Bytes} {batch : List Bytes}
    (pushed : frameBuf.push raw = .ret (batch, next)) (rest : List Bytes) :
    delivered frameBuf (raw :: rest) =
      match (batch.filterMap parsed?).head? with
      | none => delivered next rest
      | some message => message :: delivered next rest := by
  rw [delivered, FrameBuffer.batches_cons pushed]
  cases first : (batch.filterMap parsed?).head? with
  | none => exact List.filterMap_cons_none first
  | some message => exact List.filterMap_cons_some first

theorem delivered_append (frameBuf : FrameBuffer) (front back : List Bytes) :
    delivered frameBuf (front ++ back) =
      delivered frameBuf front ++ delivered (frameBuf.residual front) back := by
  simp only [delivered, FrameBuffer.batches, FrameBuffer.residual, FrameBuffer.pushAll_eq,
    framing.feed_append, List.filterMap_append]

/-- The first elements of lists are all of their elements when no list has a
second one. -/
private theorem filterMap_head?_length_le {α : Type} (lists : List (List α)) :
    (lists.filterMap List.head?).length ≤ lists.flatten.length := by
  induction lists with
  | nil => simp
  | cons list lists ih =>
      cases list with
      | nil => exact ih
      | cons first rest =>
          rw [List.filterMap_cons_some List.head?_cons, List.flatten_cons]
          simp only [List.cons_append, List.length_cons, List.length_append]
          omega

private theorem filterMap_head?_eq_flatten {α : Type} (lists : List (List α)) :
    lists.filterMap List.head? = lists.flatten ↔ ∀ list ∈ lists, list.length ≤ 1 := by
  induction lists with
  | nil => simp
  | cons list lists ih =>
      rw [List.forall_mem_cons, ← ih]
      match list with
      | [] =>
          rw [List.filterMap_cons_none List.head?_nil]
          simp
      | [only] =>
          rw [List.filterMap_cons_some List.head?_cons]
          simp
      | first :: second :: rest =>
          have shorter := filterMap_head?_length_le lists
          refine iff_of_false ?_ (by simp)
          intro equal
          rw [List.filterMap_cons_some List.head?_cons, List.flatten_cons] at equal
          have lengths := congrArg List.length equal
          simp only [List.cons_append, List.length_cons, List.length_append] at lengths
          omega

theorem messages_eq_flatten (frameBuf : FrameBuffer) (notifications : List Bytes) :
    frameBuf.messages notifications =
      ((frameBuf.batches notifications).map (List.filterMap parsed?)).flatten := by
  rw [FrameBuffer.messages, FrameBuffer.frames, List.filterMap_flatten]

/-- Everything is delivered when no notification completes a second message. -/
theorem delivered_eq_messages (frameBuf : FrameBuffer) (notifications : List Bytes) :
    delivered frameBuf notifications = frameBuf.messages notifications ↔
      ∀ batch ∈ frameBuf.batches notifications, (batch.filterMap parsed?).length ≤ 1 := by
  have heads : delivered frameBuf notifications =
      ((frameBuf.batches notifications).map (List.filterMap parsed?)).filterMap List.head? := by
    rw [List.filterMap_map]
    rfl
  rw [heads, messages_eq_flatten, filterMap_head?_eq_flatten, List.forall_mem_map]

section Polling

variable {T : Type} [FloatScale]

/-- Only the first message of a batch is handled. -/
theorem firstMessage_eq (self : Hub Ready T) {frames : List Bytes}
    (safe : ∀ frame ∈ frames, (parse frame).Returns) :
    self.firstMessage frames = .ret
      (match (frames.filterMap parsed?).head? with
        | none => (none, self)
        | some msg => (some msg, self.handled [msg])) := by
  induction frames with
  | nil => rfl
  | cons frame frames ih =>
      obtain ⟨result, parsed⟩ := safe frame (by simp)
      cases result with
      | error error =>
          rw [List.filterMap_cons_none (parsed?_of_error parsed), firstMessage, parsed]
          exact ih fun later membership => safe later (by simp [membership])
      | ok msg =>
          rw [List.filterMap_cons_some (parsed?_eq_some.mpr parsed), firstMessage, parsed]
          simp [handleMessage_eq]

/-- The loop over the frames returns with the first message, and has handled it. -/
theorem firstMessage_eq_ret {self next : Hub Ready T} {frames : List Bytes}
    {answer : Option LpfMessage} (looped : self.firstMessage frames = .ret (answer, next)) :
    (frames.filterMap parsed?).head? = answer ∧ next = self.handled answer.toList := by
  induction frames with
  | nil =>
      cases looped
      exact ⟨rfl, rfl⟩
  | cons frame frames ih =>
      rw [firstMessage] at looped
      obtain ⟨result, parsed, rest⟩ := Checked.bind_eq_ret.mp looped
      cases result with
      | error error =>
          rw [List.filterMap_cons_none (parsed?_of_error parsed)]
          exact ih rest
      | ok msg =>
          simp only [handleMessage_eq, Checked.ret_bind] at rest
          cases rest
          exact ⟨by rw [List.filterMap_cons_some (parsed?_eq_some.mpr parsed), List.head?_cons], rfl⟩

theorem nextMessageFrom_eq_ret {self next : Hub Ready T} {rx : Receiver}
    {answer : Option LpfMessage} (polled : self.nextMessageFrom rx = .ret (answer, next)) :
    ∃ rest frameBuf, next = (self.handled answer.toList).withStream rest frameBuf ∧
      delivered self.state.frameBuf rx = answer.toList ++ delivered frameBuf rest := by
  induction rx generalizing self with
  | nil =>
      cases polled
      exact ⟨[], self.state.frameBuf, rfl, rfl⟩
  | cons raw rx ih =>
      rw [nextMessageFrom] at polled
      obtain ⟨⟨batch, frameBuf⟩, pushed, looping⟩ := Checked.bind_eq_ret.mp polled
      obtain ⟨⟨found, middle⟩, looped, continued⟩ := Checked.bind_eq_ret.mp looping
      obtain ⟨first, rfl⟩ := firstMessage_eq_ret looped
      rw [delivered_cons pushed, first]
      cases found with
      | none => exact ih continued
      | some msg =>
          cases continued
          exact ⟨rx, frameBuf, rfl, rfl⟩

/-- What a poll can do: it handles the message it answers with, which is the next
one to be delivered. -/
theorem nextMessage_eq_ret {self next : Hub Ready T} {answer : Option LpfMessage}
    (polled : self.nextMessage = .ret (answer, next)) :
    next = (self.handled answer.toList).withStream next.state.rx next.state.frameBuf ∧
      delivered self.state.frameBuf self.state.rx =
        answer.toList ++ delivered next.state.frameBuf next.state.rx := by
  obtain ⟨rest, frameBuf, rfl, split⟩ := nextMessageFrom_eq_ret polled
  exact ⟨rfl, split⟩

/-- Any number of polls: the messages answered so far have been handled, and they are
those that are delivered first. -/
theorem calls_nextMessage {self next : Hub Ready T} {log : List LpfMessage}
    (polls : Calls nextMessage self log next) :
    next = (self.handled log).withStream next.state.rx next.state.frameBuf ∧
      delivered self.state.frameBuf self.state.rx =
        log ++ delivered next.state.frameBuf next.state.rx := by
  induction polls with
  | stop => exact ⟨rfl, rfl⟩
  | call polled _ ih =>
      obtain ⟨handled, split⟩ := nextMessage_eq_ret polled
      obtain ⟨restHandled, restSplit⟩ := ih
      refine ⟨?_, by rw [split, restSplit, List.append_assoc]⟩
      rw [restHandled, handled_append, handled]
      rfl

/-- Polling until `None` delivers the first message of every notification, handles
exactly the messages it delivers, and keeps the unfinished bytes. -/
theorem nextMessage_drains (self : Hub Ready T)
    (safe : ∀ frame ∈ self.state.frameBuf.frames self.state.rx, (parse frame).Returns) :
    Drains nextMessage self (delivered self.state.frameBuf self.state.rx)
      ((self.handled (delivered self.state.frameBuf self.state.rx)).withStream []
        (self.state.frameBuf.residual self.state.rx)) := by
  obtain ⟨transport, hubType, lpf2Char, portMap, props, rx, frameBuf, devices⟩ := self
  induction rx generalizing props frameBuf devices with
  | nil => exact .done rfl
  | cons raw rx ih =>
      obtain ⟨batch, next, pushed⟩ := frameBuf.exists_push raw
      dsimp only at safe ih ⊢
      rw [FrameBuffer.frames_cons pushed] at safe
      have batchSafe : ∀ frame ∈ batch, (parse frame).Returns :=
        fun frame membership => safe frame (List.mem_append_left _ membership)
      have restSafe : ∀ frame ∈ next.frames rx, (parse frame).Returns :=
        fun frame membership => safe frame (List.mem_append_right _ membership)
      rw [FrameBuffer.residual_cons pushed, delivered_cons pushed]
      cases first : (batch.filterMap parsed?).head? with
      | none =>
          refine .of_first_eq ?_ (ih props next devices restSafe)
          simp only [nextMessage, nextMessageFrom, pushed, Checked.ret_bind,
            firstMessage_eq _ batchSafe, first]
          rfl
      | some msg =>
          refine .more ?_ (ih _ next _ restSafe)
          simp only [nextMessage, nextMessageFrom, pushed, Checked.ret_bind,
            firstMessage_eq _ batchSafe, first]
          rfl

/-- Polling until `None` delivers all messages of the stream in order and handles
each of them once exactly when no notification completes two messages.  What it
then delivers does not depend on how the stream is cut. -/
theorem nextMessage_lossless_iff (self : Hub Ready T)
    (safe : ∀ frame ∈ self.state.frameBuf.frames self.state.rx, (parse frame).Returns) :
    ((∃ final handled,
        Drains nextMessage self (self.state.frameBuf.messages self.state.rx) final ∧
        (self.state.frameBuf.messages self.state.rx).foldlM handleMessage self = .ret handled ∧
        final = handled.withStream [] (self.state.frameBuf.residual self.state.rx)) ↔
      ∀ batch ∈ self.state.frameBuf.batches self.state.rx,
        (batch.filterMap parsed?).length ≤ 1) ∧
    (self.state.frameBuf.Reachable → ∀ chunks : List Bytes,
      chunks.flatten = self.state.rx.flatten →
      self.state.frameBuf.messages chunks = self.state.frameBuf.messages self.state.rx ∧
      self.state.frameBuf.residual chunks = self.state.frameBuf.residual self.state.rx) := by
  have drained := nextMessage_drains self safe
  refine ⟨?_, fun reachable chunks cut =>
    FrameBuffer.messages_of_flatten_eq reachable.exhausted cut⟩
  rw [← delivered_eq_messages]
  constructor
  · rintro ⟨final, handled, all, _⟩
    exact (drained.unique all).1
  · intro complete
    rw [complete] at drained
    exact ⟨_, _, drained, foldlM_handleMessage self _, rfl⟩

end Polling

/-- Three notifications that complete no message, one and one, with an unparsable
frame in front of the last. -/
theorem nextMessage_lossless_iff_one_each :
    ∃ final, Drains (@nextMessage Scripted .exact)
      (readyWith [[4, 0], [2, 1], [3, 0, 2, 4, 0, 2, 2]])
      [.hubAction .switchOffHub, .hubAction .disconnect] final := by
  obtain ⟨final, _, drained, _⟩ := (@nextMessage_lossless_iff Scripted .exact
    (readyWith [[4, 0], [2, 1], [3, 0, 2, 4, 0, 2, 2]]) (by decide)).1.mpr (by decide)
  exact ⟨final, drained⟩

/-- The second of two messages in one notification is never delivered. -/
theorem nextMessage_drops_second :
    (∀ frame ∈ FrameBuffer.new.frames [[4, 0, 2, 1, 4, 0, 2, 2]], (parse frame).Returns) ∧
    FrameBuffer.new.messages [[4, 0, 2, 1, 4, 0, 2, 2]] =
      [.hubAction .switchOffHub, .hubAction .disconnect] ∧
    ¬∃ final, Drains (@nextMessage Scripted .exact) (readyWith [[4, 0, 2, 1, 4, 0, 2, 2]])
      (FrameBuffer.new.messages [[4, 0, 2, 1, 4, 0, 2, 2]]) final := by
  refine ⟨by decide, by decide, ?_⟩
  rintro ⟨final, drained⟩
  have first : Drains (@nextMessage Scripted .exact) (readyWith [[4, 0, 2, 1, 4, 0, 2, 2]])
      [.hubAction .switchOffHub] (readyWith []) := .more rfl (.done rfl)
  have equal := (drained.unique first).1
  exact absurd equal (by decide)

end Hub

end PoweredUp

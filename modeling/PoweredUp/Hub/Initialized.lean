import PoweredUp.Hub.Initialize

/-!
# When initialization ends

The drain loop stops exactly at the shortest prefix of the notifications that
answers every mandatory property; without such a prefix it reports that the hub
disconnected.
-/

namespace PoweredUp

open Rust

/-- The state of the drain loop at its start. -/
abbrev drainStart (frameBuf : FrameBuffer) (props : HubProperties) : FrameBuffer × Progress :=
  (frameBuf, { props, pending := mandatoryProperties })

/-- Stopping for the first time means having read the shortest answering
prefix. -/
theorem shortestAnswering_of_stopsFirst {frameBuf : FrameBuffer} {props : HubProperties}
    {consumed : List Bytes} {final : FrameBuffer × Progress}
    (stops : StopsFirst initialized (onNotification initMessage) (drainStart frameBuf props)
      consumed final) (rest : List Bytes) :
    ShortestAnswering frameBuf (consumed ++ rest) consumed ∧
      (hubProperties (frameBuf.messages consumed)).foldlM applyHubProperty props =
        .ret final.2.props ∧
      final.1 = frameBuf.residual consumed := by
  have safe := parse_returns_of_foldlM_onNotification stops.reads
  obtain ⟨progress, reads, folded, ends⟩ := read_notifications safe props
  obtain rfl : final = (frameBuf.residual consumed, progress) :=
    Checked.ret.inj (stops.reads.symm.trans reads)
  refine ⟨⟨List.prefix_append consumed rest, ends.mp stops.stops, ?_⟩, folded, rfl⟩
  intro shorter isPrefix proper answered
  have shorterSafe : ∀ frame ∈ frameBuf.frames shorter, (parse frame).Returns :=
    fun frame membership => safe frame (FrameBuffer.mem_frames_of_prefix isPrefix membership)
  obtain ⟨middle, shorterReads, _, shorterEnds⟩ := read_notifications shorterSafe props
  have goesOn := stops.first shorter isPrefix proper _ shorterReads
  rw [shorterEnds.mpr answered] at goesOn
  cases goesOn

/-- The shortest answering prefix is unique. -/
theorem ShortestAnswering.unique {frameBuf : FrameBuffer}
    {notifications consumed consumed' : List Bytes}
    (left : ShortestAnswering frameBuf notifications consumed)
    (right : ShortestAnswering frameBuf notifications consumed') : consumed = consumed' := by
  by_contra different
  rcases List.prefix_or_prefix_of_prefix left.isPrefix right.isPrefix with shorter | shorter
  · exact right.first consumed shorter different left.answers
  · exact left.first consumed' shorter (Ne.symm different) right.answers

namespace Hub

variable {T : Type}

theorem becomeReady_eq (self : Hub Connected T) :
    self.becomeReady = do
      let (done, rx, frameBuf, progress) ←
        readUntil initialized (onNotification initMessage) self.state.rx
          (drainStart self.state.frameBuf self.props)
      return if done then
        .ok { self with
          props := progress.props
          state := { rx, frameBuf, devices := HashMap.new } }
      else
        .error (.ble "hub disconnected during initialisation", self.transport) := by
  rw [becomeReady, drainUntilInitialized, bind_assoc]
  congr 1
  funext outcome
  obtain ⟨done, rx, frameBuf, progress⟩ := outcome
  cases done <;> rfl

/-- What is known about a hub that became ready. -/
theorem becomeReady_eq_ok {self : Hub Connected T} {ready : Hub Ready T}
    (initialized : self.becomeReady = .ret (.ok ready)) :
    ∃ consumed, self.state.rx = consumed ++ ready.state.rx ∧
      ShortestAnswering self.state.frameBuf self.state.rx consumed ∧
      (hubProperties (self.state.frameBuf.messages consumed)).foldlM applyHubProperty self.props =
        .ret ready.props ∧
      ready.state.frameBuf = self.state.frameBuf.residual consumed ∧
      ready.state.devices = HashMap.new := by
  rw [becomeReady_eq] at initialized
  obtain ⟨⟨done, rx, frameBuf, progress⟩, looped, equality⟩ := Checked.bind_eq_ret.mp initialized
  cases done with
  | false => cases equality
  | true =>
      cases equality
      obtain ⟨consumed, split, stops⟩ := stopsFirst_of_readUntil looped
      obtain ⟨shortest, folded, residual⟩ := shortestAnswering_of_stopsFirst stops rx
      exact ⟨consumed, split, split ▸ shortest, folded, residual, rfl⟩

/-- Awaiting the answers succeeds exactly when some prefix has them all. -/
theorem becomeReady_complete (self : Hub Connected T)
    (safe : ∀ frame ∈ self.state.frameBuf.frames self.state.rx, (parse frame).Returns) :
    (∃ ready, self.becomeReady = .ret (.ok ready)) ∨
      (∀ consumed, consumed <+: self.state.rx →
        ¬AllAnswered (self.state.frameBuf.messages consumed)) ∧
      self.becomeReady =
        .ret (.error (.ble "hub disconnected during initialisation", self.transport)) := by
  obtain ⟨all, reads, -⟩ := read_notifications safe self.props
  obtain ⟨⟨done, rx, final⟩, looped⟩ :
      (readUntil initialized (onNotification initMessage) self.state.rx
        (drainStart self.state.frameBuf self.props)).Returns := readUntil_returns ⟨_, reads⟩
  rw [becomeReady_eq, looped]
  cases done with
  | true => exact .inl ⟨_, rfl⟩
  | false =>
      refine .inr ⟨?_, rfl⟩
      intro consumed isPrefix answered
      have prefixSafe : ∀ frame ∈ self.state.frameBuf.frames consumed, (parse frame).Returns :=
        fun frame membership => safe frame (FrameBuffer.mem_frames_of_prefix isPrefix membership)
      obtain ⟨middle, prefixReads, _, ends⟩ := read_notifications prefixSafe self.props
      have goesOn := readUntil_false looped consumed isPrefix _ prefixReads
      rw [ends.mpr answered] at goesOn
      cases goesOn

/-! ## From a new connection -/

section Connection

variable [BleTransport T] {transport : T} {hubType : HubType} {portMap : HashMap String UInt8}
variable {hub : Hub Connected T}

/-- A hub that has been connected and initialized has read the shortest answering
prefix from an empty buffer and folded its property messages from the default. -/
theorem initializeHub_eq_ok (connected : (Hub.new transport hubType portMap).connect = .ret (.ok hub))
    {ready : Hub Ready T} (initialized : hub.initializeHub = .ret (.ok ready)) :
    ∃ consumed, hub.state.rx = consumed ++ ready.state.rx ∧
      ShortestAnswering .new hub.state.rx consumed ∧
      (hubProperties (FrameBuffer.new.messages consumed)).foldlM applyHubProperty {} =
        .ret ready.props ∧
      ready.state.frameBuf = FrameBuffer.new.residual consumed ∧
      ready.state.devices = HashMap.new := by
  obtain ⟨_, blank, empty⟩ := connect_eq_ok connected
  rw [initializeHub_eq] at initialized
  obtain ⟨_, transport', _, becomes⟩ := orDrop_eq_ok.mp initialized
  obtain ⟨consumed, split, shortest, folded, residual, devices⟩ := becomeReady_eq_ok becomes
  rw [empty] at shortest folded residual
  rw [blank] at folded
  exact ⟨consumed, split, shortest, folded, residual, devices⟩

/-- With all requests written, initialization succeeds exactly when some prefix of
the notifications answers all three mandatory properties; it then consumes the
shortest such prefix, folds its property messages and keeps its unfinished bytes.
Otherwise it returns an error. -/
theorem initializeHub_exact
    (connected : (Hub.new transport hubType portMap).connect = .ret (.ok hub)) {transport' : T}
    (written : writeAll hub.lpf2Char initRequests hub.transport = (.ok (), transport'))
    (safe : ∀ frame ∈ FrameBuffer.new.frames hub.state.rx, (parse frame).Returns) :
    ((∃ ready, hub.initializeHub = .ret (.ok ready)) ↔
      ∃ consumed, consumed <+: hub.state.rx ∧ AllAnswered (FrameBuffer.new.messages consumed)) ∧
    (∀ ready, hub.initializeHub = .ret (.ok ready) →
      ∃ consumed, hub.state.rx = consumed ++ ready.state.rx ∧
        ShortestAnswering .new hub.state.rx consumed ∧
        (hubProperties (FrameBuffer.new.messages consumed)).foldlM applyHubProperty {} =
          .ret ready.props ∧
        ready.state.frameBuf = FrameBuffer.new.residual consumed) ∧
    ((¬∃ consumed, consumed <+: hub.state.rx ∧ AllAnswered (FrameBuffer.new.messages consumed)) →
      ∃ error dropped, hub.initializeHub = .ret (.error (error, dropped))) := by
  obtain ⟨_, _, empty⟩ := connect_eq_ok connected
  have outcome := initializeHub_eq hub
  rw [written, orDrop_ok] at outcome
  have complete := becomeReady_complete { hub with transport := transport' }
  simp only [empty] at complete
  refine ⟨⟨?_, ?_⟩, ?_, ?_⟩
  · rintro ⟨ready, initialized⟩
    obtain ⟨consumed, _, shortest, _⟩ := initializeHub_eq_ok connected initialized
    exact ⟨consumed, shortest.isPrefix, shortest.answers⟩
  · rintro ⟨consumed, isPrefix, answered⟩
    rw [outcome]
    exact (complete safe).resolve_right fun failed => failed.1 consumed isPrefix answered
  · intro ready initialized
    obtain ⟨consumed, split, shortest, folded, residual, _⟩ :=
      initializeHub_eq_ok connected initialized
    exact ⟨consumed, split, shortest, folded, residual⟩
  · intro unanswered
    rw [outcome]
    rcases complete safe with ⟨ready, initialized⟩ | ⟨_, failed⟩
    · obtain ⟨consumed, _, shortest, _⟩ := becomeReady_eq_ok initialized
      simp only [empty] at shortest
      exact (unanswered ⟨consumed, shortest.isPrefix, shortest.answers⟩).elim
    · exact ⟨_, _, failed⟩

end Connection

end Hub

/-! ## Scripted answers -/

/-- A firmware version answer. -/
def fwResponse : Bytes := [9, 0, 1, 3, 6, 0, 0, 0, 0x10]

/-- A hardware version answer. -/
def hwResponse : Bytes := [9, 0, 1, 4, 6, 0, 0, 0, 0x10]

/-- A MAC address answer. -/
def macResponse : Bytes := [11, 0, 1, 13, 6, 0xAA, 0xBB, 0xCC, 0xDD, 0xEE, 0xFF]

namespace Hub

/-- A hub connected to a scripted peer. -/
def connectedTo (notifications : List Bytes) : Hub Connected Scripted :=
  { (new { connected := true, notifications } .hub HashMap.new) with
    state := { rx := notifications, frameBuf := .new } }

theorem connect_scripted (notifications : List Bytes) :
    (new { notifications } .hub HashMap.new).connect = .ret (.ok (connectedTo notifications)) := rfl

/-- Three answers in two notifications, cut inside the second answer and followed
by the front of another frame. -/
theorem initializeHub_exact_fragmented :
    ∃ ready, (connectedTo [fwResponse ++ [9, 0, 1], [4, 6, 0, 0, 0, 0x10] ++ macResponse ++ [5, 0],
      [0x42]]).initializeHub = .ret (.ok ready) :=
  (initializeHub_exact (connect_scripted _) rfl (by decide)).1.mpr
    ⟨[fwResponse ++ [9, 0, 1], [4, 6, 0, 0, 0, 0x10] ++ macResponse ++ [5, 0]], ⟨[[0x42]], rfl⟩,
      by decide⟩

end Hub

end PoweredUp

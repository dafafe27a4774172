import PoweredUp.Hub.Initialized
import PoweredUp.Hub.NextMessage

/-!
# Continuous reports

Battery level, signal strength and button state are reported again and again.
Both property handlers treat them alike: each is a register that holds what the
last message about it has written.  For the battery level this may be nothing, and
neither it nor the signal strength is awaited during initialization.
-/

namespace PoweredUp

open Rust KeyedLog

/-- The continuously reported properties. -/
structure Reports where
  batteryLevel : Option UInt8
  rssi : Option Int8
  buttonPressed : Bool
  deriving DecidableEq, Repr

def HubProperties.reports (props : HubProperties) : Reports where
  batteryLevel := props.batteryLevel
  rssi := props.rssi
  buttonPressed := props.buttonPressed

/-- What a property message does to the reports. -/
def Reports.update (reports : Reports) (m : HubPropertyMessage) : Reports :=
  match m.property with
  | .batteryVoltage => { reports with batteryLevel := m.payload.head? }
  | .rssi => { reports with rssi := some (m.payload.head?.getD 0).toInt8 }
  | .button => { reports with buttonPressed := m.payload.head?.getD 0 != 0 }
  | _ => reports

theorem connectedApplyHubProperty_reports (props : HubProperties) (m : HubPropertyMessage) :
    (connectedApplyHubProperty props m).reports = props.reports.update m := by
  obtain ⟨property, operation, payload⟩ := m
  cases property <;> rfl

/-- The handler of the initialization agrees with that of a ready hub. -/
theorem applyHubProperty_reports {props props' : HubProperties} {m : HubPropertyMessage}
    (applied : applyHubProperty props m = .ret props') :
    props'.reports = props.reports.update m := by
  have oneShot (isMandatory : m.property ∈ mandatoryProperties) :
      props.reports.update m = props.reports := by
    have references : m.property = .fwVersion ∨ m.property = .hwVersion ∨
        m.property = .primaryMacAddress := by
      simpa [mandatoryProperties] using isMandatory
    rcases references with answers | answers | answers <;> simp [Reports.update, answers]
  rcases applyHubProperty_cases applied with ⟨version, answers, _, rfl⟩ |
    ⟨version, answers, _, rfl⟩ | ⟨mac, answers, _, rfl⟩ | ⟨short, rfl⟩ | ⟨_, rfl⟩
  · exact (oneShot (by simp [answers, mandatoryProperties])).symm
  · exact (oneShot (by simp [answers, mandatoryProperties])).symm
  · exact (oneShot (by simp [answers, mandatoryProperties])).symm
  · refine (oneShot ?_).symm
    cases about : m.property <;> simp_all [answerLength, mandatoryProperties]
  · exact connectedApplyHubProperty_reports props m

/-- Folding property messages during the initialization. -/
theorem foldlM_applyHubProperty_reports {messages : List HubPropertyMessage}
    {props final : HubProperties} (folded : messages.foldlM applyHubProperty props = .ret final) :
    final.reports = messages.foldl Reports.update props.reports := by
  induction messages generalizing props with
  | nil =>
      cases folded
      rfl
  | cons m messages ih =>
      rw [List.foldlM_cons] at folded
      obtain ⟨middle, applied, rest⟩ := Checked.bind_eq_ret.mp folded
      rw [ih rest, applyHubProperty_reports applied, List.foldl_cons]

/-- A ready hub handles the property messages among the others. -/
theorem foldl_propertyEffect (log : List LpfMessage) (props : HubProperties) :
    log.foldl propertyEffect props =
      (hubProperties log).foldl connectedApplyHubProperty props := by
  induction log generalizing props with
  | nil => rfl
  | cons message log ih =>
      rw [List.foldl_cons, ih]
      cases message with
      | hubProperty m => rw [hubProperties_cons, List.foldl_cons, propertyEffect]
      | _ => rfl

/-- Folding property messages in a ready hub. -/
theorem foldl_connectedApplyHubProperty_reports (messages : List HubPropertyMessage)
    (props : HubProperties) :
    (messages.foldl connectedApplyHubProperty props).reports =
      messages.foldl Reports.update props.reports :=
  (List.foldl_hom HubProperties.reports
    fun props m => (connectedApplyHubProperty_reports props m).symm).symm

/-- Folding messages in a ready hub. -/
theorem foldl_propertyEffect_reports (log : List LpfMessage) (props : HubProperties) :
    (log.foldl propertyEffect props).reports =
      (hubProperties log).foldl Reports.update props.reports := by
  rw [foldl_propertyEffect, foldl_connectedApplyHubProperty_reports]

/-! ## The end of the initialization -/

/-- The properties that are answered once. -/
structure OneShot where
  firmwareVersion : Option Version
  hardwareVersion : Option Version
  primaryMac : Option String
  deriving DecidableEq, Repr

def HubProperties.oneShot (props : HubProperties) : OneShot where
  firmwareVersion := props.firmwareVersion
  hardwareVersion := props.hardwareVersion
  primaryMac := props.primaryMac

theorem connectedApplyHubProperty_oneShot (props : HubProperties) (m : HubPropertyMessage) :
    (connectedApplyHubProperty props m).oneShot = props.oneShot := by
  obtain ⟨property, operation, payload⟩ := m
  cases property <;> rfl

/-- A ready hub keeps the answers of the initialization. -/
theorem foldl_connectedApplyHubProperty_oneShot (messages : List HubPropertyMessage)
    (props : HubProperties) :
    (messages.foldl connectedApplyHubProperty props).oneShot = props.oneShot := by
  induction messages generalizing props with
  | nil => rfl
  | cons m messages ih => rw [List.foldl_cons, ih, connectedApplyHubProperty_oneShot]

theorem foldlM_applyHubProperty_returns (messages : List HubPropertyMessage)
    (props : HubProperties) : (messages.foldlM applyHubProperty props).Returns := by
  induction messages generalizing props with
  | nil => exact Checked.returns_ret props
  | cons m messages ih =>
      obtain ⟨props', applied⟩ := applyHubProperty_returns props m
      rw [List.foldlM_cons, applied, Checked.ret_bind]
      exact ih props'

/-- The reports do not depend on where the initialization ends, and the one-shot
properties are those of its end. -/
theorem reports_split {T : Type} [FloatScale] :
    (∀ (front back : List HubPropertyMessage) (props : HubProperties),
      ∃ middle whole, front.foldlM applyHubProperty props = .ret middle ∧
        (front ++ back).foldlM applyHubProperty props = .ret whole ∧
        (back.foldl connectedApplyHubProperty middle).reports = whole.reports ∧
        (back.foldl connectedApplyHubProperty middle).oneShot = middle.oneShot) ∧
    ∀ (ready : Hub Ready T) (log : List LpfMessage),
      ∃ next, log.foldlM Hub.handleMessage ready = .ret next ∧
        next.props = (hubProperties log).foldl connectedApplyHubProperty ready.props ∧
        next.props.oneShot = ready.props.oneShot := by
  constructor
  · intro front back props
    obtain ⟨middle, folded⟩ := foldlM_applyHubProperty_returns front props
    obtain ⟨whole, completed⟩ := foldlM_applyHubProperty_returns (front ++ back) props
    refine ⟨middle, whole, folded, completed, ?_, foldl_connectedApplyHubProperty_oneShot back _⟩
    rw [foldl_connectedApplyHubProperty_reports, foldlM_applyHubProperty_reports folded,
      foldlM_applyHubProperty_reports completed, List.foldl_append]
  · intro ready log
    have props : (ready.handled log).props =
        (hubProperties log).foldl connectedApplyHubProperty ready.props :=
      foldl_propertyEffect log ready.props
    refine ⟨ready.handled log, ready.foldlM_handleMessage log, props, ?_⟩
    rw [props, foldl_connectedApplyHubProperty_oneShot]

/-! ## The last report -/

/-- The payload of a message about a property. -/
def HubPropertyMessage.about (reference : HubPropertyReference) (m : HubPropertyMessage) :
    Option Bytes :=
  if m.property = reference then some m.payload else none

/-- The payload of the last message about a property. -/
def lastReport (reference : HubPropertyReference) (messages : List HubPropertyMessage) :
    Option Bytes :=
  (messages.filterMap (HubPropertyMessage.about reference)).getLast?

theorem exists_of_lastReport {reference : HubPropertyReference} {messages : List HubPropertyMessage}
    {payload : Bytes} (reported : lastReport reference messages = some payload) :
    ∃ m ∈ messages, m.property = reference ∧ m.payload = payload := by
  obtain ⟨m, membership, about⟩ := List.mem_filterMap.mp (List.mem_of_getLast? reported)
  unfold HubPropertyMessage.about at about
  split at about
  case isTrue same => exact ⟨m, membership, same, Option.some.inj about⟩
  case isFalse => cases about

/-- The battery level is the front of the last report about it. -/
theorem batteryLevel_foldl_update (messages : List HubPropertyMessage) (reports : Reports) :
    (messages.foldl Reports.update reports).batteryLevel =
      (lastReport .batteryVoltage messages).elim reports.batteryLevel List.head? := by
  refine foldl_register ?_ messages reports
  intro reports m
  cases property : m.property <;> simp [Reports.update, HubPropertyMessage.about, property]

/-- The signal strength is known once it has been reported. -/
theorem rssi_foldl_update (messages : List HubPropertyMessage) (reports : Reports) :
    (messages.foldl Reports.update reports).rssi =
      (lastReport .rssi messages).elim reports.rssi
        fun payload => some (payload.head?.getD 0).toInt8 := by
  refine foldl_register ?_ messages reports
  intro reports m
  cases property : m.property <;> simp [Reports.update, HubPropertyMessage.about, property]

/-- The last battery report has a value, and the signal strength is reported. -/
def BothReported (messages : List HubPropertyMessage) : Prop :=
  (∃ payload, lastReport .batteryVoltage messages = some payload ∧ payload ≠ []) ∧
    ∃ payload, lastReport .rssi messages = some payload

/-- No battery report is without a value. -/
def KeepsBattery (messages : List HubPropertyMessage) : Prop :=
  ∀ m ∈ messages, m.property = .batteryVoltage → m.payload ≠ []

instance : DecidablePred KeepsBattery := fun messages =>
  inferInstanceAs (Decidable (∀ m ∈ messages, m.property = .batteryVoltage → m.payload ≠ []))

namespace Reports

/-- Battery level and signal strength are known. -/
def Known (reports : Reports) : Prop :=
  reports.batteryLevel.isSome ∧ reports.rssi.isSome

theorem known_foldl_update (messages : List HubPropertyMessage) :
    (messages.foldl update ⟨none, none, false⟩).Known ↔ BothReported messages := by
  rw [Known, batteryLevel_foldl_update, rssi_foldl_update, BothReported]
  refine and_congr ?_ ?_
  · cases lastReport .batteryVoltage messages with
    | none => simp
    | some payload => cases payload <;> simp
  · cases lastReport .rssi messages <;> simp

/-- Reports stay known as long as no battery report is without a value. -/
theorem Known.foldl_update {reports : Reports} (known : reports.Known)
    {messages : List HubPropertyMessage} (keeps : KeepsBattery messages) :
    (messages.foldl update reports).Known := by
  rw [Known, batteryLevel_foldl_update, rssi_foldl_update]
  refine ⟨?_, ?_⟩
  · cases reported : lastReport .batteryVoltage messages with
    | none => exact known.1
    | some payload =>
        obtain ⟨m, membership, property, rfl⟩ := exists_of_lastReport reported
        rw [Option.elim_some, List.isSome_head?]
        exact keeps m membership property
  · cases lastReport .rssi messages with
    | none => exact known.2
    | some payload => rfl

/-- A battery report without a value loses the battery level. -/
theorem not_known_update {reports : Reports} {m : HubPropertyMessage}
    (property : m.property = .batteryVoltage) (empty : m.payload = []) :
    ¬(reports.update m).Known := by
  simp [Known, update, property, empty]

end Reports

namespace Hub

section Polling

variable {T : Type} [FloatScale]

/-- Battery level and signal strength are known, however often the hub is polled. -/
def ReportsStayKnown (ready : Hub Ready T) : Prop :=
  ∀ log next, Calls nextMessage ready log next →
    next.props.batteryLevel.isSome ∧ next.props.rssi.isSome

theorem reports_of_calls {ready next : Hub Ready T} {log : List LpfMessage}
    (polls : Calls nextMessage ready log next) :
    next.props.reports = (hubProperties log).foldl Reports.update ready.props.reports := by
  obtain ⟨handled, _⟩ := calls_nextMessage polls
  rw [← foldl_propertyEffect_reports, handled]
  rfl

/-- Known reports stay known while no battery report without a value is delivered. -/
theorem reportsStayKnown {ready : Hub Ready T} (known : ready.props.reports.Known)
    (keeps : KeepsBattery (hubProperties (delivered ready.state.frameBuf ready.state.rx))) :
    ready.ReportsStayKnown := by
  intro log next polls
  change next.props.reports.Known
  rw [reports_of_calls polls]
  refine known.foldl_update ?_
  intro m membership
  obtain ⟨_, split⟩ := calls_nextMessage polls
  refine keeps m ?_
  rw [split, hubProperties_append]
  exact List.mem_append_left _ membership

/-- A battery report without a value is a message that makes the level unknown. -/
theorem keepsBattery_of_reportsStayKnown {ready : Hub Ready T}
    (safe : ∀ frame ∈ ready.state.frameBuf.frames ready.state.rx, (parse frame).Returns)
    (staysKnown : ready.ReportsStayKnown) :
    KeepsBattery (hubProperties (delivered ready.state.frameBuf ready.state.rx)) := by
  intro m membership property empty
  obtain ⟨before, after, split⟩ := List.append_of_mem (mem_hubProperties.mp membership)
  have isPrefix : before ++ [.hubProperty m] <+:
      delivered ready.state.frameBuf ready.state.rx :=
    ⟨after, by rw [split, List.append_assoc]; rfl⟩
  obtain ⟨next, polls⟩ := (nextMessage_drains ready safe).calls isPrefix
  have known : next.props.reports.Known := staysKnown _ _ polls
  rw [reports_of_calls polls, hubProperties_append, List.foldl_append] at known
  exact Reports.not_known_update property empty known

end Polling

section Connection

variable {T : Type} [BleTransport T] [FloatScale]
variable {transport : T} {hubType : HubType} {portMap : HashMap String UInt8}
variable {hub : Hub Connected T}

/-- Battery level and signal strength are known from initialization on and stay known
exactly when both were reported in the shortest answering prefix of the
notifications, the battery level last with a value, and no battery report without
a value is delivered later. -/
theorem initializeHub_reports_iff
    (connected : (Hub.new transport hubType portMap).connect = .ret (.ok hub))
    {ready : Hub Ready T} (initialized : hub.initializeHub = .ret (.ok ready))
    {consumed rest : List Bytes} (split : hub.state.rx = consumed ++ rest)
    (shortest : ShortestAnswering .new hub.state.rx consumed) :
    (BothReported (hubProperties (FrameBuffer.new.messages consumed)) ∧
        KeepsBattery (hubProperties (delivered (FrameBuffer.new.residual consumed) rest)) →
      ready.ReportsStayKnown) ∧
    ((∀ frame ∈ (FrameBuffer.new.residual consumed).frames rest, (parse frame).Returns) →
      ready.ReportsStayKnown →
      BothReported (hubProperties (FrameBuffer.new.messages consumed)) ∧
        KeepsBattery (hubProperties (delivered (FrameBuffer.new.residual consumed) rest))) := by
  obtain ⟨consumed', split', shortest', folded, residual, _⟩ :=
    initializeHub_eq_ok connected initialized
  obtain rfl := shortest.unique shortest'
  obtain rfl : rest = ready.state.rx := List.append_cancel_left (split.symm.trans split')
  have known : ready.props.reports.Known ↔
      BothReported (hubProperties (FrameBuffer.new.messages consumed)) := by
    rw [foldlM_applyHubProperty_reports folded]
    exact Reports.known_foldl_update _
  rw [← known, ← residual]
  constructor
  · rintro ⟨reported, keeps⟩
    exact reportsStayKnown reported keeps
  · intro safe staysKnown
    exact ⟨staysKnown [] ready (.stop ready), keepsBattery_of_reportsStayKnown safe staysKnown⟩

end Connection

/-- A battery report. -/
def batteryReport (value : Bytes) : Bytes := [UInt8.ofNat (5 + value.length), 0, 1, 6, 6] ++ value

/-- A report on the signal strength. -/
def rssiReport : Bytes := [6, 0, 1, 5, 6, 0xC4]

/-- Both are reported among the answers, and the battery level once more later. -/
theorem initializeHub_reports_iff_reported :
    ∃ ready, (connectedTo [batteryReport [90] ++ fwResponse, rssiReport, hwResponse, macResponse,
        batteryReport [89]]).initializeHub = .ret (.ok ready) ∧
      @ReportsStayKnown Scripted .exact ready := by
  obtain ⟨consumed, split, shortest, _⟩ := initializeHub_eq_ok (connect_scripted
    [batteryReport [90] ++ fwResponse, rssiReport, hwResponse, macResponse, batteryReport [89]]) rfl
  obtain rfl : consumed = [batteryReport [90] ++ fwResponse, rssiReport, hwResponse, macResponse] :=
    List.append_cancel_right (split.symm.trans rfl)
  have rest : (connectedTo [batteryReport [90] ++ fwResponse, rssiReport, hwResponse, macResponse,
      batteryReport [89]]).state.rx = [batteryReport [90] ++ fwResponse, rssiReport, hwResponse,
        macResponse] ++ [batteryReport [89]] := rfl
  exact ⟨_, rfl, (@initializeHub_reports_iff Scripted _ .exact _ _ _ _
    (connect_scripted _) _ rfl _ _ rest shortest).1
      ⟨⟨⟨[90], by decide, by decide⟩, [0xC4], by decide⟩, by decide⟩⟩

/-- Three answers make the hub ready with both unknown, and a battery report without
a value loses a known level. -/
theorem initializeHub_reports_unknown :
    (∃ ready, (connectedTo [fwResponse, hwResponse, macResponse]).initializeHub =
        .ret (.ok ready) ∧ ready.props.batteryLevel = none ∧ ready.props.rssi = none) ∧
    ∃ ready answer next, (connectedTo [batteryReport [90], rssiReport, fwResponse, hwResponse,
        macResponse, batteryReport []]).initializeHub = .ret (.ok ready) ∧
      ready.props.batteryLevel = some 90 ∧
      @nextMessage Scripted .exact ready = .ret (some answer, next) ∧
      next.props.batteryLevel = none :=
  ⟨⟨_, rfl, rfl, rfl⟩, _, _, _, rfl, rfl, rfl, rfl⟩

end Hub

end PoweredUp

import PoweredUp.Foundation.KeyedHistory
import PoweredUp.Hub.Registry
import PoweredUp.Hub.Reports

/-!
# The history of a ready hub

The devices and the continuous reports of a ready hub are the slots of one keyed log:
a port holds a device, and a report holds its last payload.  So the state of the hub
depends only on the order of the messages for each subject, and only on a bounded
number of them.
-/

namespace PoweredUp

open Rust KeyedLog

/-- What a message is about. -/
inductive Subject where
  | port (portId : UInt8)
  | report (reference : HubPropertyReference)
  deriving DecidableEq, Repr

/-- The subject of the messages that a ready hub acts on. -/
def LpfMessage.subject? : LpfMessage → Option Subject
  | .hubAttachedIo m => some (.port m.portId)
  | .portInputFormatSingle m => some (.port m.portId)
  | .hubProperty m => some (.report m.property)
  | _ => none

/-- The continuously reported properties. -/
def continuousReports : List HubPropertyReference := [.batteryVoltage, .rssi, .button]

/-- A device, or the payload of a report. -/
abbrev Holding := BoxDevice ⊕ Bytes

/-- The action of a message on the registry, among the subjects. -/
def liftAction : UInt8 × Action BoxDevice UInt8 → Subject × Action Holding UInt8
  | (port, .insert device) => (.port port, .insert (.inl device))
  | (port, .remove) => (.port port, .remove)
  | (port, .adjust mode) => (.port port, .adjust mode)

/-- What a message does, and to which subject. -/
def hubAction : LpfMessage → Option (Subject × Action Holding UInt8)
  | .hubProperty m =>
      if m.property ∈ continuousReports then
        some (.report m.property, .insert (.inr m.payload))
      else
        none
  | message => (deviceAction message).map liftAction

/-- The payload that a message reports. -/
def reportOn (reference : HubPropertyReference) : LpfMessage → Option Bytes
  | .hubProperty m => m.about reference
  | _ => none

theorem lastReport_hubProperties (reference : HubPropertyReference) (log : List LpfMessage) :
    lastReport reference (hubProperties log) = (log.filterMap (reportOn reference)).getLast? := by
  rw [lastReport, hubProperties, List.filterMap_filterMap]
  congr 2
  funext message
  cases message <;> rfl

/-- The button state is that of the last report about it. -/
theorem buttonPressed_foldl_update (messages : List HubPropertyMessage) (reports : Reports) :
    (messages.foldl Reports.update reports).buttonPressed =
      (lastReport .button messages).elim reports.buttonPressed
        fun payload => payload.head?.getD 0 != 0 := by
  refine foldl_register ?_ messages reports
  intro reports m
  cases property : m.property <;> simp [Reports.update, HubPropertyMessage.about, property]

/-- Properties are reports and one-shot answers. -/
theorem HubProperties.eq_of_parts {props props' : HubProperties}
    (reports : props.reports = props'.reports) (oneShot : props.oneShot = props'.oneShot) :
    props = props' := by
  cases props
  cases props'
  simp only [HubProperties.reports, HubProperties.oneShot, Reports.mk.injEq,
    OneShot.mk.injEq] at reports oneShot
  simp only [reports, oneShot]

/-- An attachment or a mode for each of the first ports. -/
def portTags (ports : ℕ) (adjusts : Bool) : Finset (Subject × Bool) :=
  (Finset.range ports).image fun port => (.port (UInt8.ofNat port), adjusts)

theorem mem_portTags {ports : ℕ} {port : UInt8} (small : port.toNat < ports) (adjusts : Bool) :
    (.port port, adjusts) ∈ portTags ports adjusts :=
  Finset.mem_image.mpr ⟨port.toNat, Finset.mem_range.mpr small, by rw [UInt8.ofNat_toNat]⟩

theorem card_portTags (ports : ℕ) (adjusts : Bool) : (portTags ports adjusts).card ≤ ports :=
  Finset.card_image_le.trans (Finset.card_range ports).le

/-- A payload for each report. -/
def reportTags : Finset (Subject × Bool) :=
  {(.report .batteryVoltage, false), (.report .rssi, false), (.report .button, false)}

/-- The tags of the messages that a ready hub acts on. -/
def hubTags (ports : ℕ) : Finset (Subject × Bool) :=
  (portTags ports false ∪ portTags ports true) ∪ reportTags

theorem card_hubTags (ports : ℕ) : (hubTags ports).card ≤ 2 * ports + 3 := by
  have attachments := card_portTags ports false
  have modes := card_portTags ports true
  have reports : reportTags.card ≤ 3 := Finset.card_le_three
  have both := Finset.card_union_le (portTags ports false) (portTags ports true)
  have all := Finset.card_union_le (portTags ports false ∪ portTags ports true) reportTags
  rw [hubTags]
  omega

/-- An action is one on the subject of its message. -/
theorem subject_of_hubAction {message : LpfMessage} {subject : Subject}
    {action : Action Holding UInt8} (acts : hubAction message = some (subject, action)) :
    message.subject? = some subject := by
  have lifted {target : UInt8} (addressed : Option (UInt8 × Action BoxDevice UInt8))
      (on : ∀ pair ∈ addressed, pair.1 = target)
      (acts : addressed.map liftAction = some (subject, action)) : subject = .port target := by
    obtain ⟨⟨port, action'⟩, found, lifts⟩ := Option.map_eq_some_iff.mp acts
    rw [← on _ found]
    cases action' <;> cases lifts <;> rfl
  cases message with
  | hubProperty m =>
      by_cases continuous : m.property ∈ continuousReports
      · rw [hubAction, if_pos continuous] at acts
        cases acts
        rfl
      · rw [hubAction, if_neg continuous] at acts
        cases acts
  | hubAttachedIo m =>
      rw [lifted (deviceAction (.hubAttachedIo m)) ?_ acts]
      · rfl
      · intro pair member
        obtain ⟨_, _, rfl⟩ := Option.map_eq_some_iff.mp member
        rfl
  | portInputFormatSingle m =>
      cases acts
      rfl
  | _ => cases acts

section History

variable {T : Type} [FloatScale]

/-- The reading of messages for a whole hub. -/
def hubReading : Reading LpfMessage Subject Holding UInt8 where
  action := hubAction
  set
    | .inl device, mode => .inl (Device.setMode device mode)
    | .inr payload, _ => .inr payload
  set_set
    | .inl device, mode, mode' => congrArg Sum.inl (LawfulDevice.setMode_setMode device mode mode')
    | .inr _, _, _ => rfl

namespace Hub

/-- The slots of a hub before any report. -/
def slots (self : Hub Ready T) : Subject → Option Holding
  | .port port => (self.state.devices port).map .inl
  | .report _ => none

/-- The payload held for a report. -/
def payloadOf (reference : HubPropertyReference) (slots : Subject → Option Holding) :
    Option Bytes :=
  (slots (.report reference)).bind Sum.getRight?

/-- A hub that holds what the slots hold. -/
def holding (self : Hub Ready T) (slots : Subject → Option Holding) : Hub Ready T :=
  { self.withDevices fun port => (slots (.port port)).bind Sum.getLeft? with
    props := { self.props with
      batteryLevel := (payloadOf .batteryVoltage slots).elim self.props.batteryLevel List.head?
      rssi := (payloadOf .rssi slots).elim self.props.rssi fun payload =>
        some (payload.head?.getD 0).toInt8
      buttonPressed := (payloadOf .button slots).elim self.props.buttonPressed fun payload =>
        payload.head?.getD 0 != 0 } }

/-- At a port the reading is that of the registry. -/
theorem overwrite_port (port : UInt8) (message : LpfMessage) :
    hubReading.overwrite (.port port) message =
      (registry.overwrite port message).map (Option.map .inl) := by
  have lifted (addressed : Option (UInt8 × Action BoxDevice UInt8))
      (acts : hubAction message = addressed.map liftAction)
      (acts' : deviceAction message = addressed) :
      hubReading.overwrite (.port port) message =
        (registry.overwrite port message).map (Option.map .inl) := by
    simp only [Reading.overwrite, hubReading, registry, acts, acts']
    rcases addressed with _ | ⟨target, action⟩
    · rfl
    · by_cases same : target = port
      · cases action <;> simp [liftAction, same]
      · cases action <;> simp [liftAction, same]
  cases message with
  | hubProperty m =>
      by_cases continuous : m.property ∈ continuousReports
      · simp [Reading.overwrite, hubReading, hubAction, continuous, registry, deviceAction]
      · simp [Reading.overwrite, hubReading, hubAction, continuous, registry, deviceAction]
  | _ => exact lifted _ rfl rfl

theorem setting_port (port : UInt8) (message : LpfMessage) :
    hubReading.setting (.port port) message = registry.setting port message := by
  have lifted (addressed : Option (UInt8 × Action BoxDevice UInt8))
      (acts : hubAction message = addressed.map liftAction)
      (acts' : deviceAction message = addressed) :
      hubReading.setting (.port port) message = registry.setting port message := by
    simp only [Reading.setting, hubReading, registry, acts, acts']
    rcases addressed with _ | ⟨target, action⟩
    · rfl
    · by_cases same : target = port
      · cases action <;> simp [liftAction, same]
      · cases action <;> simp [liftAction, same]
  cases message with
  | hubProperty m =>
      by_cases continuous : m.property ∈ continuousReports
      · simp [Reading.setting, hubReading, hubAction, continuous, registry, deviceAction]
      · simp [Reading.setting, hubReading, hubAction, continuous, registry, deviceAction]
  | _ => exact lifted _ rfl rfl

/-- The slot of a port holds its device. -/
theorem port_replay (devices : HashMap UInt8 BoxDevice) {slots : Subject → Option Holding}
    {port : UInt8} (same : slots (.port port) = (devices port).map .inl) (log : List LpfMessage) :
    hubReading.replay slots log (.port port) = (registry.replay devices log port).map .inl := by
  induction log generalizing devices slots with
  | nil => exact same
  | cons message log ih =>
      refine ih (registry.apply devices message) ?_
      rw [Reading.apply_at, Reading.apply_at, overwrite_port, setting_port, same]
      cases registry.overwrite port message with
      | some slot => rfl
      | none =>
          cases registry.setting port message with
          | none => rfl
          | some mode => cases devices port <;> rfl

/-- A report replaces the payload, and nothing else touches it. -/
theorem overwrite_report {reference : HubPropertyReference}
    (continuous : reference ∈ continuousReports) (message : LpfMessage) :
    hubReading.overwrite (.report reference) message =
      (reportOn reference message).map fun payload => some (.inr payload) := by
  cases message with
  | hubProperty m =>
      by_cases same : m.property = reference
      · subst same
        simp [Reading.overwrite, hubReading, hubAction, continuous, reportOn,
          HubPropertyMessage.about]
      · by_cases other : m.property ∈ continuousReports <;>
          simp [Reading.overwrite, hubReading, hubAction, other, same, reportOn,
            HubPropertyMessage.about]
  | hubAttachedIo m =>
      simp only [Reading.overwrite, hubReading, hubAction, deviceAction, reportOn]
      rcases m.attachment with _ | ⟨_ | _⟩ <;> simp [Attachment.action, liftAction]
  | _ => rfl

theorem setting_report (reference : HubPropertyReference) (message : LpfMessage) :
    hubReading.setting (.report reference) message = none := by
  cases message with
  | hubProperty m =>
      by_cases continuous : m.property ∈ continuousReports <;>
        simp [Reading.setting, hubReading, hubAction, continuous]
  | hubAttachedIo m =>
      simp only [Reading.setting, hubReading, hubAction, deviceAction]
      rcases m.attachment with _ | ⟨_ | _⟩ <;> simp [Attachment.action, liftAction]
  | portInputFormatSingle m =>
      simp [Reading.setting, hubReading, hubAction, deviceAction, liftAction]
  | _ => rfl

/-- The slot of a report holds its last payload. -/
theorem payloadOf_replay {reference : HubPropertyReference}
    (continuous : reference ∈ continuousReports) {slots : Subject → Option Holding}
    (empty : slots (.report reference) = none) (log : List LpfMessage) :
    payloadOf reference (hubReading.replay slots log) =
      lastReport reference (hubProperties log) := by
  have register : payloadOf reference (log.foldl hubReading.apply slots) =
      ((log.filterMap (reportOn reference)).getLast?).elim (payloadOf reference slots) some := by
    refine foldl_register ?_ log slots
    intro slots message
    rw [payloadOf, payloadOf, Reading.apply_at, overwrite_report continuous, setting_report]
    cases reportOn reference message <;> rfl
  have start : payloadOf reference slots = none := by rw [payloadOf, empty, Option.bind_none]
  rw [Reading.replay, register, start, lastReport_hubProperties]
  cases (log.filterMap (reportOn reference)).getLast? <;> rfl

/-- The hub after a log holds what the slots hold after it. -/
theorem handled_eq_holding (self : Hub Ready T) (log : List LpfMessage) :
    self.handled log = self.holding (hubReading.replay self.slots log) := by
  have devices : registry.replay self.state.devices log = fun port =>
      (hubReading.replay self.slots log (.port port)).bind Sum.getLeft? := by
    funext port
    rw [port_replay self.state.devices rfl log]
    cases registry.replay self.state.devices log port <;> rfl
  have battery := payloadOf_replay (by decide : .batteryVoltage ∈ continuousReports)
    (rfl : self.slots (.report .batteryVoltage) = none) log
  have rssi := payloadOf_replay (by decide : .rssi ∈ continuousReports)
    (rfl : self.slots (.report .rssi) = none) log
  have button := payloadOf_replay (by decide : .button ∈ continuousReports)
    (rfl : self.slots (.report .button) = none) log
  rw [handled, holding, devices, battery, rssi, button]
  congr 1
  refine HubProperties.eq_of_parts ?_ ?_
  · rw [foldl_propertyEffect_reports]
    have level := batteryLevel_foldl_update (hubProperties log) self.props.reports
    have strength := rssi_foldl_update (hubProperties log) self.props.reports
    have pressed := buttonPressed_foldl_update (hubProperties log) self.props.reports
    generalize (hubProperties log).foldl Reports.update self.props.reports = reports
      at level strength pressed ⊢
    obtain ⟨_, _, _⟩ := reports
    cases level
    cases strength
    cases pressed
    rfl
  · rw [foldl_propertyEffect, foldl_connectedApplyHubProperty_oneShot]
    rfl

theorem mem_hubTags {message : LpfMessage} {tag : Subject × Bool}
    (tagged : hubReading.tag message = some tag) : tag ∈ hubTags UInt8.size := by
  obtain ⟨⟨subject, action⟩, acts, rfl⟩ := Option.map_eq_some_iff.mp tagged
  cases subject with
  | port port =>
      cases action with
      | adjust mode =>
          exact Finset.mem_union_left _ (Finset.mem_union_right _ (mem_portTags port.toNat_lt true))
      | _ =>
          exact Finset.mem_union_left _ (Finset.mem_union_left _ (mem_portTags port.toNat_lt false))
  | report reference =>
      have about := subject_of_hubAction acts
      cases message with
      | hubProperty m =>
          have acts : hubAction (.hubProperty m) = some (.report reference, action) := acts
          by_cases continuous : m.property ∈ continuousReports
          · rw [hubAction, if_pos continuous] at acts
            cases acts
            refine Finset.mem_union_right _ ?_
            simpa [reportTags, continuousReports] using continuous
          · rw [hubAction, if_neg continuous] at acts
            cases acts
      | _ => cases about

/-- An event for a slot is a message about its subject. -/
theorem subject_of_touches {subject : Subject} {message : LpfMessage}
    (touched : hubReading.touches subject message = true) :
    message.subject? = some subject := by
  obtain ⟨action, acts⟩ := hubReading.action_of_touches touched
  exact subject_of_hubAction acts

/-- Messages about different subjects may arrive in any order: as long as the messages
about each port and about each property come in the same order, the hub ends up in the
same state. -/
theorem handleMessage_interleaving (self : Hub Ready T) {log log' : List LpfMessage}
    (same : ∀ subject, (log.filter fun message => message.subject? = some subject) =
      log'.filter fun message => message.subject? = some subject) :
    ∃ final, log.foldlM handleMessage self = .ret final ∧
      log'.foldlM handleMessage self = .ret final := by
  have stores : hubReading.replay self.slots log = hubReading.replay self.slots log' := by
    refine hubReading.replay_congr (fun subject => ?_) self.slots
    have narrowed (log : List LpfMessage) : log.filter (hubReading.touches subject) =
        (log.filter fun message => message.subject? = some subject).filter
          (hubReading.touches subject) := by
      rw [List.filter_filter]
      refine List.filter_congr fun message _ => ?_
      cases touched : hubReading.touches subject message with
      | true => simp [subject_of_touches touched]
      | false => rfl
    rw [narrowed log, narrowed log', same]
  refine ⟨_, foldlM_handleMessage self log, ?_⟩
  rw [foldlM_handleMessage, handled_eq_holding, handled_eq_holding, stores]

/-- The state of a hub after any log is that after at most 515 of its messages. -/
theorem handleMessage_bounded (self : Hub Ready T) (log : List LpfMessage) :
    ∃ (kept : List LpfMessage) (final : Hub Ready T), kept.Sublist log ∧ kept.length ≤ 515 ∧
      log.foldlM handleMessage self = .ret final ∧
      kept.foldlM handleMessage self = .ret final := by
  refine ⟨hubReading.compact log, _, hubReading.compact_sublist log, ?_,
    foldlM_handleMessage self log, ?_⟩
  · exact (hubReading.length_compact_le fun _ _ _ tagged => mem_hubTags tagged).trans
      (card_hubTags UInt8.size)
  · rw [foldlM_handleMessage, handled_eq_holding, handled_eq_holding, hubReading.replay_compact]

end Hub

end History

/-- A battery report may overtake a mode, but not another battery report. -/
theorem Hub.handleMessage_interleaving_battery :
    ∃ final, [.portInputFormatSingle ⟨0, 3⟩, .hubProperty ⟨.batteryVoltage, .updateUpstream, [90]⟩,
        .hubProperty ⟨.batteryVoltage, .updateUpstream, [89]⟩].foldlM
          (@Hub.handleMessage Scripted .exact) (Hub.readyWith []) = .ret final ∧
      [.hubProperty ⟨.batteryVoltage, .updateUpstream, [90]⟩,
        .hubProperty ⟨.batteryVoltage, .updateUpstream, [89]⟩, .portInputFormatSingle ⟨0, 3⟩].foldlM
          (@Hub.handleMessage Scripted .exact) (Hub.readyWith []) = .ret final := by
  refine @Hub.handleMessage_interleaving Scripted .exact (Hub.readyWith []) _ _ fun subject => ?_
  rcases subject with port | reference
  · by_cases same : (0 : UInt8) = port <;> simp [LpfMessage.subject?, same]
  · by_cases same : HubPropertyReference.batteryVoltage = reference <;>
      simp [LpfMessage.subject?, same]

end PoweredUp

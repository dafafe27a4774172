import PoweredUp.Hub.NextMessage
import PoweredUp.Hub.ReadyState
import PoweredUp.Hub.Reports

/-!
# What a hub says about itself

The answers to the one-shot requests identify a peripheral.  Bring-up succeeds with
every peripheral that answers them, and what it then shows identifies the peripheral
again: no two are shown alike.
-/

namespace PoweredUp

open Rust Numerals

/-! ## Reading the texts back -/

/-- A padded decimal text is the text of one number only. -/
theorem decimalPadded_injective (width : Nat) : Function.Injective (decimalPadded width) := by
  have read (value : Nat) : Nat.ofDigitChars 10 (decimalPadded width value) 0 = value := by
    rw [decimalPadded, List.leftpad, Nat.ofDigitChars_append, Nat.ofDigitChars_replicate_zero,
      Nat.mul_zero, Nat.ofDigitChars_ten_toDigits]
  intro value value' same
  rw [← read value, same, read]

/-- Versions are printed differently unless they are equal. -/
theorem Version.toString_injective : Function.Injective Version.toString := by
  intro version version' same
  have fields (width value : Nat) : '.' ∉ decimalPadded width value :=
    notMem_leftpad_toDigits rfl width value
  have single (value : Nat) : Nat.toDigits 10 value = decimalPadded 1 value :=
    (leftpad_one_toDigits 10 value).symm
  simp only [Version.toString, String.ofList_inj, single] at same
  rw [append_separator_inj (fields _ _) (fields _ _),
    append_separator_inj (fields _ _) (fields _ _),
    append_separator_inj (fields _ _) (fields _ _)] at same
  obtain ⟨major, minor, patch, build⟩ := same
  obtain ⟨_, _, _, _⟩ := version
  obtain ⟨_, _, _, _⟩ := version'
  cases UInt8.toNat_inj.mp (decimalPadded_injective 1 major)
  cases UInt8.toNat_inj.mp (decimalPadded_injective 1 minor)
  cases UInt8.toNat_inj.mp (decimalPadded_injective 2 patch)
  cases UInt16.toNat_inj.mp (decimalPadded_injective 4 build)
  rfl

theorem lowerHexPadded_byte (byte : UInt8) :
    lowerHexPadded 2 byte.toNat = fixedDigits 16 2 byte.toNat :=
  leftpad_toDigits (by decide) (by decide) byte.toNat_lt

theorem u8FromHex_lowerHexPadded (byte : UInt8) :
    u8FromHex (lowerHexPadded 2 byte.toNat) = byte := by
  have bound : byte.toNat < 16 ^ (1 + 1) := byte.toNat_lt
  rw [lowerHexPadded_byte, u8FromHex_fixedDigits _ (Nat.le_refl 1), Nat.mod_eq_of_lt bound,
    UInt8.ofNat_toNat]

/-- The bytes of a MAC address. -/
def readMac (text : String) : Bytes := (text.toList.splitOn ':').map u8FromHex

theorem readMac_formatMac {bytes : Bytes} (nonempty : bytes ≠ []) :
    readMac (formatMac bytes) = bytes := by
  have notDigit : ∀ digit : Fin 16, Nat.digitChar digit ≠ ':' := by decide
  have texts : (formatMac bytes).toList =
      [':'].intercalate (bytes.map fun byte => lowerHexPadded 2 byte.toNat) := by
    rw [formatMac, String.toList_intercalate, List.map_map]
    congr 1
    exact List.map_congr_left fun _ _ => String.toList_ofList
  rw [readMac, texts, List.splitOn_intercalate]
  · rw [List.map_map]
    exact (List.map_congr_left fun byte _ => u8FromHex_lowerHexPadded byte).trans (List.map_id _)
  · intro text member
    obtain ⟨byte, _, rfl⟩ := List.mem_map.mp member
    rw [lowerHexPadded_byte]
    exact notMem_fixedDigits notDigit (by decide) (Nat.le_refl 16) _ _
  · exact fun empty => nonempty (List.map_eq_nil_iff.mp empty)

/-! ## Peripherals -/

/-- What the one-shot requests ask a peripheral for. -/
structure Identity where
  firmware : Int32
  hardware : Int32
  mac : { bytes : Bytes // bytes.length = 6 }
  deriving DecidableEq

namespace Identity

/-- The data that the peripheral answers a request with. -/
def answer (identity : Identity) : HubPropertyReference → Option Bytes
  | .fwVersion => some (LittleEndian.ofI32 identity.firmware)
  | .hwVersion => some (LittleEndian.ofI32 identity.hardware)
  | .primaryMacAddress => some identity.mac.val
  | _ => none

/-- All answers are given in full; more data may follow. -/
def Sends (identity : Identity) (messages : List LpfMessage) : Prop :=
  ∀ m ∈ hubProperties messages, ∀ data ∈ identity.answer m.property, data <+: m.payload

instance (identity : Identity) : DecidablePred identity.Sends := fun messages =>
  inferInstanceAs (Decidable (∀ m ∈ hubProperties messages,
    ∀ data ∈ identity.answer m.property, data <+: m.payload))

/-- What has been stored is what the peripheral said. -/
structure Agrees (identity : Identity) (props : HubProperties) : Prop where
  firmware : ∀ version ∈ props.firmwareVersion,
    Version.fromLeI32 identity.firmware = .ret version
  hardware : ∀ version ∈ props.hardwareVersion,
    Version.fromLeI32 identity.hardware = .ret version
  mac : ∀ text ∈ props.primaryMac, text = formatMac identity.mac.val

/-- The peripheral is shown: its versions as texts, and its address. -/
structure ShownAs (identity : Identity) (shown : OneShot) : Prop where
  firmware : ∃ version, Version.fromLeI32 identity.firmware = .ret version ∧
    shown.firmwareVersion.map Version.toString = some version.toString
  hardware : ∃ version, Version.fromLeI32 identity.hardware = .ret version ∧
    shown.hardwareVersion.map Version.toString = some version.toString
  mac : shown.primaryMac = some (formatMac identity.mac.val)

variable {identity : Identity} {props : HubProperties}

/-- An answer in full is long enough. -/
theorem answerLength_le (identity : Identity) {reference : HubPropertyReference}
    (isMandatory : reference ∈ mandatoryProperties) {payload : Bytes}
    (starts : ∀ data ∈ identity.answer reference, data <+: payload) :
    answerLength reference ≤ payload.length := by
  have references : reference = .fwVersion ∨ reference = .hwVersion ∨
      reference = .primaryMacAddress := by
    simpa [mandatoryProperties] using isMandatory
  rcases references with rfl | rfl | rfl
  · exact (starts _ rfl).length_le
  · exact (starts _ rfl).length_le
  · have long := (starts _ rfl).length_le
    rwa [identity.mac.property] at long

theorem agrees_default : identity.Agrees {} where
  firmware := nofun
  hardware := nofun
  mac := nofun

/-- Decoding the four bytes of a version. -/
theorem decode_ofI32 {raw : Int32} {payload : Bytes} (starts : LittleEndian.ofI32 raw <+: payload)
    (store : Version → HubProperties) :
    4 ≤ payload.length ∧ ∃ version, Version.fromLeI32 raw = .ret version ∧
      (do
        let raw := LittleEndian.i32 (← index payload 0) (← index payload 1) (← index payload 2)
          (← index payload 3)
        let version ← Version.fromLeI32 raw
        return store version) = Checked.ret (store version) := by
  obtain ⟨byte0, byte1, byte2, byte3, bytes, reads⟩ := LittleEndian.exists_ofI32 raw
  obtain ⟨rest, rfl⟩ := starts
  obtain ⟨version, decoded⟩ := Version.fromLeI32_returns raw
  rw [bytes]
  refine ⟨by simp, version, decoded, ?_⟩
  simp [reads, decoded]

/-- An answer of the peripheral stores what it says. -/
theorem Agrees.apply (agrees : identity.Agrees props) {m : HubPropertyMessage}
    (starts : ∀ data ∈ identity.answer m.property, data <+: m.payload) {props' : HubProperties}
    (applied : applyHubProperty props m = .ret props') : identity.Agrees props' := by
  obtain ⟨property, operation, payload⟩ := m
  cases property with
  | fwVersion =>
      obtain ⟨long, version, decoded, stores⟩ := decode_ofI32 (starts _ rfl)
        fun version => { props with firmwareVersion := some version }
      change (if payload.length ≥ 4 then _ else _) = _ at applied
      rw [if_pos long] at applied
      cases stores.symm.trans applied
      exact ⟨fun _ stored => Option.some.inj stored ▸ decoded, agrees.hardware, agrees.mac⟩
  | hwVersion =>
      obtain ⟨long, version, decoded, stores⟩ := decode_ofI32 (starts _ rfl)
        fun version => { props with hardwareVersion := some version }
      change (if payload.length ≥ 4 then _ else _) = _ at applied
      rw [if_pos long] at applied
      cases stores.symm.trans applied
      exact ⟨agrees.firmware, fun _ stored => Option.some.inj stored ▸ decoded, agrees.mac⟩
  | primaryMacAddress =>
      have size := identity.mac.property
      have long : 6 ≤ payload.length := size ▸ (starts _ rfl).length_le
      have taken : (payload.take 6).drop 0 = identity.mac.val := by
        rw [List.drop_zero, List.prefix_iff_eq_take.mp (starts _ rfl), size]
      change (if payload.length ≥ 6 then _ else _) = _ at applied
      rw [if_pos long, slice_eq_ret (Nat.zero_le 6) long, taken] at applied
      cases applied
      exact ⟨agrees.firmware, agrees.hardware, fun _ stored => (Option.some.inj stored).symm⟩
  | _ =>
      cases applied
      exact ⟨agrees.firmware, agrees.hardware, agrees.mac⟩

theorem Agrees.foldlM {answers : List HubPropertyMessage} (agrees : identity.Agrees props)
    (starts : ∀ m ∈ answers, ∀ data ∈ identity.answer m.property, data <+: m.payload)
    {final : HubProperties} (folded : answers.foldlM applyHubProperty props = .ret final) :
    identity.Agrees final := by
  induction answers generalizing props with
  | nil =>
      cases folded
      exact agrees
  | cons m answers ih =>
      obtain ⟨first, rest⟩ := List.forall_mem_cons.mp starts
      rw [List.foldlM_cons] at folded
      obtain ⟨middle, applied, continued⟩ := Checked.bind_eq_ret.mp folded
      exact ih (agrees.apply first applied) rest continued

/-- What is stored of all three properties shows the peripheral. -/
theorem Agrees.shownAs (agrees : identity.Agrees props)
    (known : ∀ reference ∈ mandatoryProperties, props.knows reference = true) :
    identity.ShownAs props.oneShot := by
  obtain ⟨firmware, storedFirmware⟩ := Option.isSome_iff_exists.mp (known .fwVersion (by decide))
  obtain ⟨hardware, storedHardware⟩ := Option.isSome_iff_exists.mp (known .hwVersion (by decide))
  obtain ⟨mac, storedMac⟩ := Option.isSome_iff_exists.mp (known .primaryMacAddress (by decide))
  refine ⟨⟨firmware, agrees.firmware _ storedFirmware, ?_⟩,
    ⟨hardware, agrees.hardware _ storedHardware, ?_⟩, ?_⟩
  · rw [HubProperties.oneShot, storedFirmware]
    rfl
  · rw [HubProperties.oneShot, storedHardware]
    rfl
  · rw [HubProperties.oneShot, storedMac, agrees.mac _ storedMac]

/-- Raw versions with the same text are equal. -/
theorem raw_eq_of_toString {raw raw' : Int32} {version version' : Version} {stored : Option Version}
    (decoded : Version.fromLeI32 raw = .ret version)
    (decoded' : Version.fromLeI32 raw' = .ret version')
    (shown : stored.map Version.toString = some version.toString)
    (shown' : stored.map Version.toString = some version'.toString) : raw = raw' := by
  have same := Version.toString_injective (Option.some.inj (shown.symm.trans shown'))
  rw [Version.fromLeI32_eq] at decoded decoded'
  exact HexVersion.ofRaw_injective
    (Subtype.ext ((Checked.ret.inj decoded).trans (same.trans (Checked.ret.inj decoded').symm)))

/-- No two peripherals are shown alike. -/
theorem ShownAs.unique {other : Identity} {shown : OneShot} (shows : identity.ShownAs shown)
    (shows' : other.ShownAs shown) : identity = other := by
  obtain ⟨⟨_, firmwareDecoded, firmware⟩, ⟨_, hardwareDecoded, hardware⟩, mac⟩ := shows
  obtain ⟨⟨_, firmwareDecoded', firmware'⟩, ⟨_, hardwareDecoded', hardware'⟩, mac'⟩ := shows'
  have nonempty (identity : Identity) : identity.mac.val ≠ [] :=
    List.ne_nil_of_length_eq_add_one identity.mac.property
  have address : identity.mac = other.mac := by
    apply Subtype.ext
    rw [← readMac_formatMac (nonempty identity), ← readMac_formatMac (nonempty other),
      Option.some.inj (mac.symm.trans mac')]
  cases identity
  cases other
  cases raw_eq_of_toString firmwareDecoded firmwareDecoded' firmware firmware'
  cases raw_eq_of_toString hardwareDecoded hardwareDecoded' hardware hardware'
  cases address
  rfl

end Identity

namespace Hub

variable {T : Type} [BleTransport T] [FloatScale]

/-- Bring-up succeeds with every peripheral that answers the requests in full, whatever
else it sends, in whatever order, and however its notifications are cut.  From then on,
whatever is polled, the hub shows this peripheral and no other. -/
theorem identified {transport transport' : T} {hubType : HubType} {portMap : HashMap String UInt8}
    {hub : Hub Connected T}
    (connected : (Hub.new transport hubType portMap).connect = .ret (.ok hub))
    (written : writeAll hub.lpf2Char initRequests hub.transport = (.ok (), transport'))
    (safe : ∀ frame ∈ FrameBuffer.new.frames hub.state.rx, (parse frame).Returns)
    {identity : Identity} (sends : identity.Sends (FrameBuffer.new.messages hub.state.rx))
    (answered : AllAnswered (FrameBuffer.new.messages hub.state.rx)) :
    ∃ ready, hub.initializeHub = .ret (.ok ready) ∧
      ∀ log next, Calls nextMessage ready log next →
        ∀ other : Identity, other.ShownAs next.props.oneShot ↔ other = identity := by
  obtain ⟨_, _, empty⟩ := connect_eq_ok connected
  have becomes := initializeHub_eq hub
  rw [written, orDrop_ok] at becomes
  have complete := becomeReady_complete { hub with transport := transport' }
  simp only [empty] at complete
  obtain ⟨ready, started⟩ := (complete safe).resolve_right fun failed =>
    failed.1 hub.state.rx (List.prefix_refl _) answered
  have initialized := becomes.trans started
  obtain ⟨consumed, split, shortest, folded, _⟩ := initializeHub_eq_ok connected initialized
  have seen : ∀ m ∈ hubProperties (FrameBuffer.new.messages consumed),
      ∀ data ∈ identity.answer m.property, data <+: m.payload := by
    intro m member
    refine sends m ?_
    rw [split, FrameBuffer.messages, FrameBuffer.frames_append, List.filterMap_append,
      hubProperties_append]
    exact List.mem_append_left _ member
  have shown : identity.ShownAs ready.props.oneShot := by
    refine (Identity.agrees_default.foldlM seen folded).shownAs fun reference isMandatory => ?_
    rw [foldlM_applyHubProperty_knows folded isMandatory]
    obtain ⟨m, member, answers⟩ := shortest.answers reference isMandatory
    exact .inr ⟨m, member, answers, identity.answerLength_le isMandatory (answers ▸ seen m member)⟩
  refine ⟨ready, initialized, fun log next polled other => ?_⟩
  have kept : next.props.oneShot = ready.props.oneShot := by
    rw [(calls_nextMessage polled).1]
    exact (congrArg _ (foldl_propertyEffect log ready.props)).trans
      (foldl_connectedApplyHubProperty_oneShot _ _)
  rw [kept]
  exact ⟨fun shows => shows.unique shown, fun same => same ▸ shown⟩

end Hub

/-- The peripheral that the tests are scripted with. -/
def scriptedIdentity : Identity where
  firmware := 0x10000000
  hardware := 0x10000000
  mac := ⟨[0xAA, 0xBB, 0xCC, 0xDD, 0xEE, 0xFF], rfl⟩

/-- Its answers are cut, and a button report comes between them. -/
theorem Hub.identified_fragmented :
    ∃ ready, (connectedTo [macResponse ++ [9, 0, 1], [3, 6, 0, 0, 0, 0x10, 6, 0, 1, 2, 6, 1],
        hwResponse, [6, 0, 1, 6, 6, 90]]).initializeHub = .ret (.ok ready) ∧
      ∀ log next, Calls (@nextMessage Scripted .exact) ready log next →
        ∀ other : Identity, other.ShownAs next.props.oneShot ↔ other = scriptedIdentity :=
  @identified Scripted _ .exact _ _ _ _ _ (connect_scripted _) rfl (by decide) _
    (by decide) (by decide)

end PoweredUp

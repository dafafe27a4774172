import Mathlib.Logic.Relation
import PoweredUp.Foundation.Text
import PoweredUp.Protocol.Consts

/-!
# Advertisements

`HubType::from_advertisement` recognises a hub by the services it advertises and by
one byte of its manufacturer data.  UUIDs are compared without dashes and case, so
the result depends on the keys of the UUIDs only, and not on their order or number.
-/

namespace PoweredUp

open Text

/-! ## Services and models -/

/-- `ble_uuid::WEDO2_SERVICE`. -/
def wedo2Service : String := "00001523-1212-efde-1523-785feabcd123"

/-- `ble_uuid::LPF2_SERVICE`. -/
def lpf2Service : String := "00001623-1212-efde-1623-785feabcd123"

/-- The manufacturer data byte that tells LPF2 hub models apart. -/
inductive BleManufacturerId where
  | duploTrainBase
  | moveHub
  | hub
  | remoteControl
  | mario
  | luigi
  | peach
  | technicMediumHub
  | technicSmallHub
  deriving DecidableEq, Repr

namespace BleManufacturerId

def asU8 : BleManufacturerId → UInt8
  | .duploTrainBase => 32
  | .moveHub => 64
  | .hub => 65
  | .remoteControl => 66
  | .mario => 67
  | .luigi => 68
  | .peach => 69
  | .technicMediumHub => 128
  | .technicSmallHub => 131

instance : WireEnum BleManufacturerId where
  name := "BleManufacturerId"
  variants := [.duploTrainBase, .moveHub, .hub, .remoteControl, .mario, .luigi, .peach,
    .technicMediumHub, .technicSmallHub]
  asU8 := asU8
  mem_variants := by intro variant; cases variant <;> decide
  nodup := by decide

/-- The hub type of the same model. -/
def hubType : BleManufacturerId → HubType
  | .duploTrainBase => .duploTrainBase
  | .moveHub => .moveHub
  | .hub => .hub
  | .remoteControl => .remoteControl
  | .mario => .mario
  | .luigi => .luigi
  | .peach => .peach
  | .technicMediumHub => .technicMediumHub
  | .technicSmallHub => .technicSmallHub

end BleManufacturerId

namespace HubType

/-- The closure `has_service`. -/
def hasService (serviceUuids : List String) (uuid : String) : Bool :=
  let plain := replace uuid '-' ""
  serviceUuids.any fun s => eqIgnoreAsciiCase (replace s '-' "") plain

/-- `HubType::from_advertisement`. -/
def fromAdvertisement (serviceUuids : List String) (manufacturerData : Bytes) :
    Option HubType :=
  if hasService serviceUuids wedo2Service then
    some .weDo2SmartHub
  else if !hasService serviceUuids lpf2Service then
    none
  else do
    let idByte ← manufacturerData[3]?
    match (WireEnum.tryFrom idByte : Result BleManufacturerId) with
    | .ok .moveHub => some .moveHub
    | .ok .hub => some .hub
    | .ok .remoteControl => some .remoteControl
    | .ok .duploTrainBase => some .duploTrainBase
    | .ok .technicMediumHub => some .technicMediumHub
    | .ok .technicSmallHub => some .technicSmallHub
    | .ok .mario => some .mario
    | .ok .luigi => some .luigi
    | .ok .peach => some .peach
    | .error _ => none

end HubType

/-! ## What is detected -/

/-- A UUID without dashes, in lower case. -/
def normalise (uuid : String) : List Char := key '-' uuid.toList

/-- A service is among the advertised ones. -/
def Advertises (serviceUuids : List String) (service : String) : Prop :=
  ∃ uuid ∈ serviceUuids, normalise uuid = normalise service

/-- The hub type that belongs to an advertisement: the WeDo 2.0 service decides
alone, and the LPF2 service together with the manufacturer byte. -/
structure Detects (serviceUuids : List String) (manufacturerData : Bytes)
    (detected : Option HubType) : Prop where
  wedo2 : Advertises serviceUuids wedo2Service → detected = some .weDo2SmartHub
  lpf2 : ¬Advertises serviceUuids wedo2Service → Advertises serviceUuids lpf2Service →
    ∀ id : BleManufacturerId, manufacturerData[3]? = some id.asU8 → detected = some id.hubType
  unknown : ¬Advertises serviceUuids wedo2Service →
    ¬(Advertises serviceUuids lpf2Service ∧
      ∃ id : BleManufacturerId, manufacturerData[3]? = some id.asU8) → detected = none

namespace HubType

theorem hasService_iff (serviceUuids : List String) (uuid : String) :
    hasService serviceUuids uuid = true ↔ Advertises serviceUuids uuid := by
  simp only [hasService, List.any_eq_true, eqIgnoreAsciiCase_replace, Advertises, normalise]

theorem hasService_eq_false_iff (serviceUuids : List String) (uuid : String) :
    hasService serviceUuids uuid = false ↔ ¬Advertises serviceUuids uuid := by
  rw [← hasService_iff, Bool.not_eq_true]

/-- The hub type of a manufacturer byte. -/
def ofIdByte (idByte : UInt8) : Option HubType :=
  (WireEnum.tryFrom idByte : Result BleManufacturerId).toOption.map BleManufacturerId.hubType

theorem ofIdByte_asU8 (id : BleManufacturerId) : ofIdByte id.asU8 = some id.hubType := by
  have read : WireEnum.tryFrom id.asU8 = Except.ok id := WireEnum.tryFrom_asU8 id
  rw [ofIdByte, read]
  rfl

theorem ofIdByte_eq_none {idByte : UInt8} (unknown : ∀ id : BleManufacturerId, idByte ≠ id.asU8) :
    ofIdByte idByte = none := by
  rw [ofIdByte]
  cases read : (WireEnum.tryFrom idByte : Result BleManufacturerId) with
  | ok id => exact absurd (WireEnum.tryFrom_eq_ok.mp read).symm (unknown id)
  | error error => rfl

theorem fromAdvertisement_of_wedo2 {serviceUuids : List String}
    (wedo2 : Advertises serviceUuids wedo2Service) (manufacturerData : Bytes) :
    fromAdvertisement serviceUuids manufacturerData = some .weDo2SmartHub := by
  rw [fromAdvertisement, if_pos ((hasService_iff _ _).mpr wedo2)]

theorem fromAdvertisement_of_lpf2 {serviceUuids : List String}
    (notWedo2 : ¬Advertises serviceUuids wedo2Service)
    (lpf2 : Advertises serviceUuids lpf2Service) (manufacturerData : Bytes) :
    fromAdvertisement serviceUuids manufacturerData = manufacturerData[3]?.bind ofIdByte := by
  have first := (hasService_eq_false_iff serviceUuids wedo2Service).mpr notWedo2
  have second := (hasService_iff serviceUuids lpf2Service).mpr lpf2
  rw [fromAdvertisement, first, second]
  cases manufacturerData[3]? with
  | none => rfl
  | some idByte =>
      change _ = ofIdByte idByte
      rw [ofIdByte]
      cases read : (WireEnum.tryFrom idByte : Result BleManufacturerId) with
      | ok id => cases id <;> simp [read, Except.toOption, BleManufacturerId.hubType]
      | error error => simp [read, Except.toOption]

theorem fromAdvertisement_of_other {serviceUuids : List String}
    (notWedo2 : ¬Advertises serviceUuids wedo2Service)
    (notLpf2 : ¬Advertises serviceUuids lpf2Service) (manufacturerData : Bytes) :
    fromAdvertisement serviceUuids manufacturerData = none := by
  have first := (hasService_eq_false_iff serviceUuids wedo2Service).mpr notWedo2
  have second := (hasService_eq_false_iff serviceUuids lpf2Service).mpr notLpf2
  rw [fromAdvertisement, first, second]
  rfl

theorem fromAdvertisement_detects (serviceUuids : List String) (manufacturerData : Bytes) :
    Detects serviceUuids manufacturerData (fromAdvertisement serviceUuids manufacturerData) where
  wedo2 wedo2 := fromAdvertisement_of_wedo2 wedo2 manufacturerData
  lpf2 notWedo2 lpf2 id found := by
    rw [fromAdvertisement_of_lpf2 notWedo2 lpf2, found]
    exact ofIdByte_asU8 id
  unknown notWedo2 unidentified := by
    by_cases lpf2 : Advertises serviceUuids lpf2Service
    · rw [fromAdvertisement_of_lpf2 notWedo2 lpf2]
      cases found : manufacturerData[3]? with
      | none => rfl
      | some idByte =>
          refine ofIdByte_eq_none ?_
          rintro id rfl
          exact unidentified ⟨lpf2, id, found⟩
    · exact fromAdvertisement_of_other notWedo2 lpf2 manufacturerData

end HubType

/-- What is detected is determined by the two services and the manufacturer byte. -/
theorem Detects.congr {serviceUuids serviceUuids' : List String}
    {manufacturerData manufacturerData' : Bytes} {detected detected' : Option HubType}
    (detects : Detects serviceUuids manufacturerData detected)
    (detects' : Detects serviceUuids' manufacturerData' detected')
    (wedo2 : Advertises serviceUuids wedo2Service ↔ Advertises serviceUuids' wedo2Service)
    (lpf2 : Advertises serviceUuids lpf2Service ↔ Advertises serviceUuids' lpf2Service)
    (idByte : manufacturerData[3]? = manufacturerData'[3]?) : detected = detected' := by
  by_cases isWedo2 : Advertises serviceUuids wedo2Service
  · rw [detects.wedo2 isWedo2, detects'.wedo2 (wedo2.mp isWedo2)]
  · have isWedo2' : ¬Advertises serviceUuids' wedo2Service := fun other => isWedo2 (wedo2.mpr other)
    by_cases identified : Advertises serviceUuids lpf2Service ∧
        ∃ id : BleManufacturerId, manufacturerData[3]? = some id.asU8
    · obtain ⟨isLpf2, id, found⟩ := identified
      rw [detects.lpf2 isWedo2 isLpf2 id found,
        detects'.lpf2 isWedo2' (lpf2.mp isLpf2) id (idByte.symm.trans found)]
    · rw [detects.unknown isWedo2 identified]
      refine (detects'.unknown isWedo2' ?_).symm
      rwa [← lpf2, ← idByte]

/-! ## Changes without effect -/

/-- What a peripheral advertises. -/
structure Advertisement where
  serviceUuids : List String
  manufacturerData : Bytes
  deriving DecidableEq, Repr

/-- A change that is of no importance. -/
inductive Immaterial : Advertisement → Advertisement → Prop where
  | reordered {uuids uuids' : List String} {data : Bytes} (permuted : uuids.Perm uuids') :
      Immaterial ⟨uuids, data⟩ ⟨uuids', data⟩
  | duplicated {uuid : String} {uuids : List String} {data : Bytes} (member : uuid ∈ uuids) :
      Immaterial ⟨uuids, data⟩ ⟨uuid :: uuids, data⟩
  | respelled {uuid uuid' : String} {uuids : List String} {data : Bytes}
      (same : Respelled '-' uuid.toList uuid'.toList) :
      Immaterial ⟨uuid :: uuids, data⟩ ⟨uuid' :: uuids, data⟩
  | added {uuid : String} {uuids : List String} {data : Bytes}
      (notWedo2 : normalise uuid ≠ normalise wedo2Service)
      (notLpf2 : normalise uuid ≠ normalise lpf2Service) :
      Immaterial ⟨uuids, data⟩ ⟨uuid :: uuids, data⟩
  | overwritten {uuids : List String} {data : Bytes} {i : Nat} {byte : UInt8} (other : i ≠ 3) :
      Immaterial ⟨uuids, data⟩ ⟨uuids, data.set i byte⟩

theorem advertises_cons {uuid : String} {uuids : List String} {service : String} :
    Advertises (uuid :: uuids) service ↔
      normalise uuid = normalise service ∨ Advertises uuids service := by
  simp [Advertises]

namespace Immaterial

variable {advertisement advertisement' : Advertisement}

theorem advertises_iff (change : Immaterial advertisement advertisement') {service : String}
    (hubService : service = wedo2Service ∨ service = lpf2Service) :
    Advertises advertisement.serviceUuids service ↔
      Advertises advertisement'.serviceUuids service := by
  cases change with
  | reordered permuted => simp only [Advertises, permuted.mem_iff]
  | @duplicated uuid uuids data member =>
      rw [advertises_cons]
      refine (or_iff_right_of_imp ?_).symm
      intro same
      exact ⟨uuid, member, same⟩
  | @respelled uuid uuid' uuids data same =>
      have keys : normalise uuid = normalise uuid' := same.key_eq dash_caseless
      rw [advertises_cons, advertises_cons, keys]
  | added notWedo2 notLpf2 =>
      rw [advertises_cons]
      refine (or_iff_right ?_).symm
      rcases hubService with rfl | rfl
      · exact notWedo2
      · exact notLpf2
  | overwritten other => rfl

theorem idByte_eq (change : Immaterial advertisement advertisement') :
    advertisement.manufacturerData[3]? = advertisement'.manufacturerData[3]? := by
  cases change with
  | overwritten other => exact (List.getElem?_set_ne other).symm
  | _ => rfl

theorem fromAdvertisement_eq (change : Immaterial advertisement advertisement') :
    HubType.fromAdvertisement advertisement.serviceUuids advertisement.manufacturerData =
      HubType.fromAdvertisement advertisement'.serviceUuids advertisement'.manufacturerData :=
  Detects.congr (HubType.fromAdvertisement_detects _ _) (HubType.fromAdvertisement_detects _ _)
    (change.advertises_iff (.inl rfl)) (change.advertises_iff (.inr rfl)) change.idByte_eq

end Immaterial

/-- Any number of immaterial changes, made or undone, leaves the hub type. -/
theorem fromAdvertisement_eq_of_immaterial {advertisement advertisement' : Advertisement}
    (changes : Relation.EqvGen Immaterial advertisement advertisement') :
    HubType.fromAdvertisement advertisement.serviceUuids advertisement.manufacturerData =
      HubType.fromAdvertisement advertisement'.serviceUuids advertisement'.manufacturerData := by
  induction changes with
  | rel _ _ change => exact change.fromAdvertisement_eq
  | refl => rfl
  | symm _ _ _ ih => exact ih.symm
  | trans _ _ _ _ _ first second => exact first.trans second

end PoweredUp

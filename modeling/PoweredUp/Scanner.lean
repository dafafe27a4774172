import PoweredUp.Hub.PortMaps
import PoweredUp.Protocol.Advertisement

/-!
# Scanner

From an advertisement to a hub that is ready to be connected.  The hub is of the
model that the advertisement stands for, which is the same for all ways of writing
it.
-/

namespace PoweredUp

/-- The result of parsing an advertisement. -/
structure AdvertisedHub where
  hubType : HubType
  deriving DecidableEq, Repr

namespace AdvertisedHub

/-- `AdvertisedHub::from_advertisement`. -/
def fromAdvertisement (serviceUuids : List String) (manufacturerData : Bytes) :
    Option AdvertisedHub :=
  (HubType.fromAdvertisement serviceUuids manufacturerData).map fun hubType => { hubType }

/-- `into_hub`.  Models without a port map of their own get an empty one. -/
def intoHub {T : Type} (self : AdvertisedHub) (transport : T) : Hub Disconnected T :=
  match self.hubType with
  | .hub => .poweredUpHub transport
  | .moveHub => .moveHub transport
  | .technicMediumHub => .technicMediumHub transport
  | .technicSmallHub => .technicSmallHub transport
  | .remoteControl => .remoteControl transport
  | .duploTrainBase => .duploTrainBase transport
  | .weDo2SmartHub => .wedo2SmartHub transport
  | .mario | .luigi | .peach | .unknown => .new transport self.hubType HashMap.new

theorem hubType_intoHub {T : Type} (self : AdvertisedHub) (transport : T) :
    (self.intoHub transport).hubType = self.hubType := by
  obtain ⟨hubType⟩ := self
  cases hubType <;> rfl

/-- The model follows from the normalised services and the manufacturer byte,
immaterial changes keep it, and the hub is built for it. -/
theorem fromAdvertisement_normalised {T : Type} :
    (∀ uuids data, Detects uuids data ((fromAdvertisement uuids data).map hubType)) ∧
    (∀ advertisement advertisement', Relation.EqvGen Immaterial advertisement advertisement' →
      fromAdvertisement advertisement.serviceUuids advertisement.manufacturerData =
        fromAdvertisement advertisement'.serviceUuids advertisement'.manufacturerData) ∧
    ∀ (self : AdvertisedHub) (transport : T), (self.intoHub transport).hubType = self.hubType := by
  refine ⟨?_, ?_, hubType_intoHub⟩
  · intro uuids data
    have types : (fromAdvertisement uuids data).map hubType =
        HubType.fromAdvertisement uuids data := by
      rw [fromAdvertisement, Option.map_map]
      exact Option.map_id'
    rw [types]
    exact HubType.fromAdvertisement_detects uuids data
  · intro advertisement advertisement' changes
    rw [fromAdvertisement, fromAdvertisement, fromAdvertisement_eq_of_immaterial changes]

example : fromAdvertisement ["00001623-1212-EFDE-1623785feabcd123"] [0x97, 3, 0, 64] =
    some ⟨.moveHub⟩ := by decide

end AdvertisedHub

end PoweredUp

import PoweredUp.Hub.State

/-!
# Hub models

The port names of every hub model and the constructors that configure a hub for
its model.
-/

namespace PoweredUp

/-- `HashMap::from`. -/
def HashMap.ofEntries {κ ν : Type} [DecidableEq κ] (entries : List (κ × ν)) : HashMap κ ν :=
  entries.foldl (fun map entry => map.insert entry.1 entry.2) HashMap.new

namespace PortMaps

/-- Port map for the Powered UP Hub. -/
def poweredUpHub : HashMap String UInt8 :=
  .ofEntries [("A", 0), ("B", 1), ("HUB_LED", 50), ("CURRENT_SENSOR", 59), ("VOLTAGE_SENSOR", 60)]

/-- Port map for the BOOST Move Hub. -/
def moveHub : HashMap String UInt8 :=
  .ofEntries [("A", 0), ("B", 1), ("C", 2), ("D", 3), ("HUB_LED", 50), ("TILT_SENSOR", 58),
    ("CURRENT_SENSOR", 59), ("VOLTAGE_SENSOR", 60)]

/-- Port map for the Technic Medium Hub. -/
def technicMediumHub : HashMap String UInt8 :=
  .ofEntries [("A", 0), ("B", 1), ("C", 2), ("D", 3), ("HUB_LED", 50), ("CURRENT_SENSOR", 59),
    ("VOLTAGE_SENSOR", 60), ("ACCELEROMETER", 97), ("GYRO_SENSOR", 98), ("TILT_SENSOR", 99)]

/-- Port map for the Technic Small Hub. -/
def technicSmallHub : HashMap String UInt8 :=
  .ofEntries [("A", 0), ("B", 1), ("HUB_LED", 49), ("CURRENT_SENSOR", 59), ("VOLTAGE_SENSOR", 60),
    ("ACCELEROMETER", 97), ("GYRO_SENSOR", 98), ("TILT_SENSOR", 99)]

/-- Port map for the Powered UP Remote Control. -/
def remoteControl : HashMap String UInt8 :=
  .ofEntries [("LEFT", 0), ("RIGHT", 1), ("HUB_LED", 52), ("VOLTAGE_SENSOR", 59),
    ("REMOTE_CONTROL_RSSI", 60)]

/-- Port map for the DUPLO Train Base. -/
def duploTrainBase : HashMap String UInt8 :=
  .ofEntries [("MOTOR", 0), ("COLOR", 18), ("SPEEDOMETER", 19)]

/-- Port map for the WeDo 2.0 Smart Hub. -/
def wedo2SmartHub : HashMap String UInt8 :=
  .ofEntries [("A", 1), ("B", 2), ("CURRENT_SENSOR", 3), ("VOLTAGE_SENSOR", 4),
    ("PIEZO_BUZZER", 5), ("HUB_LED", 6)]

end PortMaps

namespace Hub

variable {T : Type}

def poweredUpHub (transport : T) : Hub Disconnected T :=
  new transport .hub PortMaps.poweredUpHub

def moveHub (transport : T) : Hub Disconnected T :=
  new transport .moveHub PortMaps.moveHub

def technicMediumHub (transport : T) : Hub Disconnected T :=
  new transport .technicMediumHub PortMaps.technicMediumHub

def technicSmallHub (transport : T) : Hub Disconnected T :=
  new transport .technicSmallHub PortMaps.technicSmallHub

def remoteControl (transport : T) : Hub Disconnected T :=
  new transport .remoteControl PortMaps.remoteControl

def duploTrainBase (transport : T) : Hub Disconnected T :=
  new transport .duploTrainBase PortMaps.duploTrainBase

def wedo2SmartHub (transport : T) : Hub Disconnected T :=
  new transport .weDo2SmartHub PortMaps.wedo2SmartHub

end Hub

end PoweredUp

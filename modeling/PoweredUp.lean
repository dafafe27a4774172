import PoweredUp.Ble.Flushing
import PoweredUp.Ble.MockCalls
import PoweredUp.Device.MotorRefinement
import PoweredUp.Device.Scaling
import PoweredUp.Device.Session
import PoweredUp.Hub.Attachment
import PoweredUp.Hub.BringUp
import PoweredUp.Hub.Commands
import PoweredUp.Hub.Containment
import PoweredUp.Hub.History
import PoweredUp.Hub.Identity
import PoweredUp.Hub.Peripheral
import PoweredUp.Hub.ReadyState
import PoweredUp.Hub.ReceivePath
import PoweredUp.Hub.Reports
import PoweredUp.Hub.Session
import PoweredUp.Hub.Telemetry
import PoweredUp.Hub.Write
import PoweredUp.Protocol.Reassembly
import PoweredUp.Protocol.Reencode
import PoweredUp.Protocol.Wedo2
import PoweredUp.Scanner

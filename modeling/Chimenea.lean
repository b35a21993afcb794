import Chimenea.Reactive.Run
import Chimenea.Reactive.Outputs
import Chimenea.Off
import Chimenea.Supervision
import Chimenea.ValveOrder
import Chimenea.Spark
import Chimenea.Countdown
import Chimenea.Attempts
import Chimenea.Lockout
import Chimenea.Sources
import Chimenea.Ignition
import Chimenea.Flame
import Chimenea.OffFirst
import Chimenea.Press
import Chimenea.Broadcast
import Chimenea.Setpoint
import Chimenea.Tick
import Chimenea.Hold
import Chimenea.Wifi
import Chimenea.Request
import Chimenea.Clients
import Chimenea.Silent
import Chimenea.Json.InPlace
import Chimenea.Json.RoundTrip
import Chimenea.Page
import Chimenea.System
import Chimenea.Standby
import Chimenea.Arranque

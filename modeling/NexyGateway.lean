import NexyGateway.ModbusGuards
import NexyGateway.WifiConnects
import NexyGateway.LiftTelemetry
import NexyGateway.AhlCoherence
import NexyGateway.SerialFraming
import NexyGateway.FileProvenance
import NexyGateway.PollReports
import NexyGateway.WifiTicks
import NexyGateway.ModbusSpelling
import NexyGateway.DoorCounters
import NexyGateway.ColdStart
import NexyGateway.LiftWrites
import NexyGateway.BusExclusivity
import NexyGateway.DesiredTwin
import NexyGateway.FrameRouting
import NexyGateway.SerialDeadlines
import NexyGateway.SerialFidelity
import NexyGateway.ExactDiffs
import NexyGateway.FileWrites
import NexyGateway.WriteAgreement
import NexyGateway.RegisterCodec
import NexyGateway.ChangedIds
import NexyGateway.RejectedCounts
import NexyGateway.CounterWrites
import NexyGateway.TracePasses
import NexyGateway.UpgradePackages
import NexyGateway.ClosingTimes
import NexyGateway.Provisioning
import NexyGateway.ParamIds
import NexyGateway.FileDownload
import NexyGateway.TraceFiles
import NexyGateway.WifiScan
import NexyGateway.StatusSize
import NexyGateway.StatusReadings
import NexyGateway.BluetoothRefinement
import NexyGateway.BluetoothRequests
import NexyGateway.BluetoothScans
import NexyGateway.MethodAnswers
import NexyGateway.HandlerLock
import NexyGateway.ThousandTelemetry
import NexyGateway.MainLifecycle
import NexyGateway.ModbusPort

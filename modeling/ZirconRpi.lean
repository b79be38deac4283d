import ZirconRpi.Gap.Decision
import ZirconRpi.Gap.Machine
import ZirconRpi.Gap.Table
import ZirconRpi.Gap.Trace
import ZirconRpi.Gap.Consistency
import ZirconRpi.Gap.Signal
import ZirconRpi.Gap.Lifecycle
import ZirconRpi.Gap.Security
import ZirconRpi.Gap.Failure
import ZirconRpi.Gap.Delegate
import ZirconRpi.Gap.Coalesce
import ZirconRpi.Gap.Order
import ZirconRpi.Audio.DriverOutput
import ZirconRpi.Audio.MixJob
import ZirconRpi.Audio.Lifecycle
import ZirconRpi.Pci.DeviceProtocol
import ZirconRpi.Pci.Rpc

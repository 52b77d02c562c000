import DeviceGateway.Backend.Pool
import DeviceGateway.Backend.Recorder
import DeviceGateway.Backend.Routed
import DeviceGateway.Certificate.Holder
import DeviceGateway.Connection.Handler
import DeviceGateway.Connection.Listener
import DeviceGateway.Metrics.Exposition
import DeviceGateway.Proofs.Address.Templates
import DeviceGateway.Proofs.Backend.Framing
import DeviceGateway.Proofs.Backend.Streams
import DeviceGateway.Proofs.Connection.Agreement
import DeviceGateway.Proofs.Connection.Balance
import DeviceGateway.Proofs.Connection.Bookkeeping
import DeviceGateway.Proofs.Connection.Parcels
import DeviceGateway.Proofs.Connection.Silence
import DeviceGateway.Proofs.Connection.Spokesman
import DeviceGateway.Proofs.Connection.Throttling
import DeviceGateway.Proofs.Connection.Timing
import DeviceGateway.Proofs.Connection.Undisturbed
import DeviceGateway.Proofs.Connection.Upstream
import DeviceGateway.Proofs.Device.Admission
import DeviceGateway.Proofs.Environment.References
import DeviceGateway.Proofs.Session.Ceiling
import DeviceGateway.Proofs.Session.Closing
import DeviceGateway.Proofs.Session.Standing
import DeviceGateway.Proofs.Session.Supervision
import DeviceGateway.Proofs.Tenancy.Entries
import DeviceGateway.Proofs.Tenancy.Subjects
import DeviceGateway.Proofs.Wire.Lengths
import DeviceGateway.Proofs.Wire.Recovery
import DeviceGateway.Proofs.Wire.Resumption
import DeviceGateway.Proofs.Wire.Segments
import DeviceGateway.Proofs.Wire.Wrapping
import DeviceGateway.Settings.Read
import DeviceGateway.Tls.Acceptor

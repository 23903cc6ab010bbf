import GpuPassthrough.Controller.Recorder
import GpuPassthrough.Main
import GpuPassthrough.Proofs.Cdi.ClassNames
import GpuPassthrough.Proofs.Cdi.Containment
import GpuPassthrough.Proofs.Cdi.Coverage
import GpuPassthrough.Proofs.Cdi.Entries
import GpuPassthrough.Proofs.Cdi.ReadBack
import GpuPassthrough.Proofs.Cdi.Regeneration
import GpuPassthrough.Proofs.Cdi.Shares
import GpuPassthrough.Proofs.Config.Layers
import GpuPassthrough.Proofs.Config.Loading
import GpuPassthrough.Proofs.Controller.Supervision
import GpuPassthrough.Proofs.Discovery
import GpuPassthrough.Proofs.Lifecycle.Gauge
import GpuPassthrough.Proofs.Lifecycle.Operation
import GpuPassthrough.Proofs.Lifecycle.Retries
import GpuPassthrough.Proofs.Lifecycle.Sensing
import GpuPassthrough.Proofs.Lifecycle.Shutdown
import GpuPassthrough.Proofs.Naming.Rewriting
import GpuPassthrough.Proofs.Pci.Enumeration
import GpuPassthrough.Proofs.Pci.Numbers
import GpuPassthrough.Proofs.Plugin.Agreement
import GpuPassthrough.Proofs.Plugin.Answers
import GpuPassthrough.Proofs.Plugin.Endpoint
import GpuPassthrough.Proofs.Plugin.Grants
import GpuPassthrough.Proofs.Plugin.Reordering
import GpuPassthrough.Proofs.Session.Dismissal
import GpuPassthrough.Proofs.Session.Freshness
import GpuPassthrough.Proofs.Session.Release
import GpuPassthrough.Proofs.Session.Seniority
import GpuPassthrough.Proofs.Session.Told
import GpuPassthrough.Proofs.Snapshot.Keys
import GpuPassthrough.Proofs.Snapshot.Names
import GpuPassthrough.Proofs.Snapshot.Representation
import GpuPassthrough.Proofs.Watch.Directory
import GpuPassthrough.Shutdown

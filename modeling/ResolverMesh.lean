import ResolverMesh.Address.Parser
import ResolverMesh.Address.Printer
import ResolverMesh.Host.Setup
import ResolverMesh.Lifecycle
import ResolverMesh.Report.Changes
import ResolverMesh.Report.Journal
import ResolverMesh.Proofs.Announcement
import ResolverMesh.Proofs.ChainCalls
import ResolverMesh.Proofs.DaemonConfig
import ResolverMesh.Proofs.DefaultServerFiles
import ResolverMesh.Proofs.DefaultServers
import ResolverMesh.Proofs.DomainUniqueness
import ResolverMesh.Proofs.FailedAttachment
import ResolverMesh.Proofs.FreshFiles
import ResolverMesh.Proofs.HostsFileLaws
import ResolverMesh.Proofs.HostsLedger
import ResolverMesh.Proofs.Leftovers
import ResolverMesh.Proofs.LockDiscipline
import ResolverMesh.Proofs.MeshInvariant
import ResolverMesh.Proofs.Neighbours
import ResolverMesh.Proofs.PidFiles
import ResolverMesh.Proofs.PodsSpared
import ResolverMesh.Proofs.Repair
import ResolverMesh.Proofs.RetriedDetachment
import ResolverMesh.Proofs.RevisionLaws
import ResolverMesh.Proofs.SelfForwarding
import ResolverMesh.Proofs.SiblingsSpared
import ResolverMesh.Proofs.Supervision

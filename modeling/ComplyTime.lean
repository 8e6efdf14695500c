import ComplyTime.Authn.GroupRoles
import ComplyTime.Authn.IssuerClasses
import ComplyTime.Authn.Replay
import ComplyTime.Authn.ScannerKeys
import ComplyTime.Authz.PrincipalIdentifiers
import ComplyTime.Gateway.OneType
import ComplyTime.Gateway.PublishGate
import ComplyTime.Gateway.WholeBody
import ComplyTime.Graph.Attribution
import ComplyTime.Graph.CoverageReport
import ComplyTime.Graph.EvidenceIdentity
import ComplyTime.Graph.OrderIndependence
import ComplyTime.Graph.Pagination
import ComplyTime.Graph.PermanentErrors
import ComplyTime.Graph.ThreatModelSources
import ComplyTime.Graph.ThreatModelUnique
import ComplyTime.Graph.TypeSummaries
import ComplyTime.Locker.FetchReceipt
import ComplyTime.Locker.IndexAgreement
import ComplyTime.Locker.LedgerNames
import ComplyTime.Locker.TileContainment
import ComplyTime.Pipeline.DeadLetters
import ComplyTime.Pipeline.Registration
import ComplyTime.Pipeline.SealNotification
import ComplyTime.Pipeline.StorageReferences
import ComplyTime.Pipeline.TrustRebuild
import ComplyTime.Platform.ShownEvidence
import ComplyTime.Trust.Linearizability

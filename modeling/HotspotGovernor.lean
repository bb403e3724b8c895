import HotspotGovernor.Lib.SortedList
import HotspotGovernor.Lib.LittleEndian
import HotspotGovernor.Lib.Crc
import HotspotGovernor.Lib.Csr
import HotspotGovernor.Lib.DepthFirst
import HotspotGovernor.Lib.Trace
import HotspotGovernor.Lib.Ancestors
import HotspotGovernor.Lib.Upsert
import HotspotGovernor.Foundation
import HotspotGovernor.ByteIo
import HotspotGovernor.Topology
import HotspotGovernor.TopologyIndex
import HotspotGovernor.Evidence
import HotspotGovernor.Framing
import HotspotGovernor.Codec
import HotspotGovernor.Transport
import HotspotGovernor.Reassembly
import HotspotGovernor.Authority
import HotspotGovernor.Detection
import HotspotGovernor.Sampling
import HotspotGovernor.Hotspots
import HotspotGovernor.Ratio
import HotspotGovernor.Detect
import HotspotGovernor.Admissibility
import HotspotGovernor.Components
import HotspotGovernor.Reporting
import HotspotGovernor.Persistence
import HotspotGovernor.Intervention
import HotspotGovernor.Decisions
import HotspotGovernor.Unknown
import HotspotGovernor.Durable
import HotspotGovernor.Registry
import HotspotGovernor.Governance
import HotspotGovernor.Admission
import HotspotGovernor.Operations
import HotspotGovernor.Atomicity
import HotspotGovernor.Effects
import HotspotGovernor.Fencing
import HotspotGovernor.Generations
import HotspotGovernor.Coordination
import HotspotGovernor.Sessions
import HotspotGovernor.Revocation
import HotspotGovernor.Verdicts
import HotspotGovernor.Coverage
import HotspotGovernor.PathIndex
import HotspotGovernor.Demand
import HotspotGovernor.Mitigation
import HotspotGovernor.Justification
import HotspotGovernor.Noninterference
import HotspotGovernor.Preverified
import HotspotGovernor.RoundTrip
import HotspotGovernor.Lib.Volume
import HotspotGovernor.Lib.Procedures
import HotspotGovernor.Journal
import HotspotGovernor.Storage
import HotspotGovernor.Durability
import HotspotGovernor.Recoverable
import HotspotGovernor.Integrity
import HotspotGovernor.Delimiting
import HotspotGovernor.Escalation
import HotspotGovernor.Rows
import HotspotGovernor.Classification
import HotspotGovernor.Severity
import HotspotGovernor.Truncation
import HotspotGovernor.Ranking
import HotspotGovernor.Freshness
import HotspotGovernor.Lib.BoundedLog
import HotspotGovernor.Suppression
import HotspotGovernor.Turns
import HotspotGovernor.Isolation
import HotspotGovernor.Containment
import HotspotGovernor.Installation
import HotspotGovernor.Deaths
import HotspotGovernor.Replay
import HotspotGovernor.Epochs
import HotspotGovernor.Restart
import HotspotGovernor.Usability
import HotspotGovernor.Accounting
import HotspotGovernor.Validation
import HotspotGovernor.Chains
import HotspotGovernor.Canonical
import HotspotGovernor.Identities
import HotspotGovernor.History
import HotspotGovernor.Tails
import HotspotGovernor.ShortWrites
import HotspotGovernor.Workers
import HotspotGovernor.Connections
import HotspotGovernor.Rendering
import HotspotGovernor.Lib.Register
import HotspotGovernor.Linearization
import HotspotGovernor.Entitlement
import HotspotGovernor.Lib.Erasure
import HotspotGovernor.Redelivery
import HotspotGovernor.Lifetimes
import HotspotGovernor.Lib.Tally
import HotspotGovernor.Tallies
import HotspotGovernor.Delegation
import HotspotGovernor.Provenance
import HotspotGovernor.Synthetic
import HotspotGovernor.Publishing
import HotspotGovernor.Lib.Recent
import HotspotGovernor.Grounds

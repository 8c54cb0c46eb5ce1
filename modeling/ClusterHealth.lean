import ClusterHealth.Proofs.Log.Fidelity
import ClusterHealth.Proofs.Report.Layouts
import ClusterHealth.Proofs.Session.Accepted
import ClusterHealth.Proofs.Session.FailedNodes
import ClusterHealth.Proofs.Session.Forms
import ClusterHealth.Proofs.Session.Journal
import ClusterHealth.Proofs.Session.Keys
import ClusterHealth.Proofs.Session.Kinds
import ClusterHealth.Proofs.Session.Layout
import ClusterHealth.Proofs.Session.Loading
import ClusterHealth.Proofs.Session.Logger
import ClusterHealth.Proofs.Session.Names
import ClusterHealth.Proofs.Session.Notes
import ClusterHealth.Proofs.Session.Nulls
import ClusterHealth.Proofs.Session.Omission
import ClusterHealth.Proofs.Session.Overriding
import ClusterHealth.Proofs.Session.Routes
import ClusterHealth.Proofs.Session.Times
import ClusterHealth.Proofs.Session.Traces
import ClusterHealth.Proofs.Session.Uncut
import ClusterHealth.Proofs.Session.Unwritable
import ClusterHealth.Record.Equality
import ClusterHealth.Record.Insight
import ClusterHealth.Record.Walk

import SqlComposer.Cluster.Config
import SqlComposer.Cluster.Routing
import SqlComposer.Record.Samples
import SqlComposer.Session.Outline
import SqlComposer.Session.Scripted
import SqlComposer.Proofs.Cluster.Collection
import SqlComposer.Proofs.Cluster.Rotation
import SqlComposer.Proofs.Filter.Described
import SqlComposer.Proofs.Filter.Faults
import SqlComposer.Proofs.Filter.Operand
import SqlComposer.Proofs.Reading.Scanned
import SqlComposer.Proofs.Record.Delivery
import SqlComposer.Proofs.Record.Fields
import SqlComposer.Proofs.Record.Fitted
import SqlComposer.Proofs.Record.Objects
import SqlComposer.Proofs.Record.Wrapped
import SqlComposer.Proofs.Session.Connections
import SqlComposer.Proofs.Session.Identity
import SqlComposer.Proofs.Session.Logging
import SqlComposer.Proofs.Session.Paging
import SqlComposer.Proofs.Statement.Histories
import SqlComposer.Proofs.Statement.Stripped

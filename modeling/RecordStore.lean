import RecordStore.Buffer.Edit
import RecordStore.Buffer.Reader
import RecordStore.Engine.Memory
import RecordStore.Model.Edit
import RecordStore.Samples
import RecordStore.Schema.Load
import RecordStore.Source.Folder
import RecordStore.Store.Box
import RecordStore.Proofs.Buffer.Agreement
import RecordStore.Proofs.Buffer.Building
import RecordStore.Proofs.Buffer.Correspondence
import RecordStore.Proofs.Buffer.Extension
import RecordStore.Proofs.Buffer.References
import RecordStore.Proofs.Buffer.Reuse
import RecordStore.Proofs.Buffer.Slots
import RecordStore.Proofs.Engine.Atomicity
import RecordStore.Proofs.IdUid
import RecordStore.Proofs.Model.Offsets
import RecordStore.Proofs.Model.WellFormed
import RecordStore.Proofs.Schema.Capacity
import RecordStore.Proofs.Schema.Failure
import RecordStore.Proofs.Schema.Findings
import RecordStore.Proofs.Schema.Growth
import RecordStore.Proofs.Schema.Identifiers
import RecordStore.Proofs.Schema.Members
import RecordStore.Proofs.Schema.Modelled
import RecordStore.Proofs.Schema.Routes
import RecordStore.Proofs.Schema.Truncation
import RecordStore.Proofs.Query.Answers
import RecordStore.Proofs.Query.Evaluation
import RecordStore.Proofs.Query.Recreation
import RecordStore.Proofs.Query.Totality
import RecordStore.Proofs.Store.Freshness
import RecordStore.Proofs.Store.Refinement
import RecordStore.Proofs.Store.Batch
import RecordStore.Proofs.Store.Exhaustion
import RecordStore.Proofs.Source.FieldNames
import RecordStore.Proofs.Source.UnitNames

import Catalog.Text.Quoted
import Catalog.Text.Integer
import Catalog.Number.Notation
import Catalog.Filter.Compile
import Catalog.Json.Decode
import Catalog.Json.Printer
import Catalog.Name
import Catalog.Paging.Cursor
import Catalog.Config.Source
import Catalog.Config.Endpoint
import Catalog.Record.Note
import Catalog.Record.Occurrence
import Catalog.Record.Project
import Catalog.Record.Summary
import Catalog.Time.Text
import Catalog.Store.Connect
import Catalog.Store.Occurrence
import Catalog.Store.Summary
import Catalog.Command.Run
import Catalog.Main
import Catalog.Store.Script
import Catalog.Proofs.Context
import Catalog.Proofs.Filter.Interchange
import Catalog.Proofs.Filter.Parsing
import Catalog.Proofs.Filter.Meaning
import Catalog.Proofs.Store.Isolation
import Catalog.Proofs.Store.Writers
import Catalog.Proofs.Store.Unchanged
import Catalog.Proofs.Store.Refinement
import Catalog.Proofs.Store.Keeping
import Catalog.Proofs.Paging.Opening
import Catalog.Proofs.Paging.Configuration
import Catalog.Proofs.Paging.Rotation
import Catalog.Proofs.Record.RoundTrip
import Catalog.Proofs.Store.Agreement
import Catalog.Proofs.Store.Discretion
import Catalog.Proofs.Filter.Faults
import Catalog.Proofs.Filter.Containment
import Catalog.Proofs.Filter.Subscript
import Catalog.Proofs.Filter.Refusals
import Catalog.Proofs.Filter.Sendable
import Catalog.Proofs.Filter.Budget
import Catalog.Proofs.Store.Batch
import Catalog.Proofs.Store.Leniency
import Catalog.Proofs.Store.Snapshot
import Catalog.Proofs.Filter.Respelling
import Catalog.Proofs.Config.Host
import Catalog.Proofs.Store.PageSize
import Catalog.Proofs.Filter.Anchoring
import Catalog.Proofs.Filter.Dotted

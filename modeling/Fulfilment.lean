import Fulfilment.Bus
import Fulfilment.Catalog
import Fulfilment.Customer.Notice
import Fulfilment.Customer.Receipt
import Fulfilment.Customer.Webhook
import Fulfilment.Decimal.Basic
import Fulfilment.Decimal.Text
import Fulfilment.Document.Compare
import Fulfilment.Document.Entries
import Fulfilment.Document.Enumeration
import Fulfilment.Document.Literal
import Fulfilment.Document.Name
import Fulfilment.Document.Sorting
import Fulfilment.Document.Value
import Fulfilment.Execution.Call
import Fulfilment.Execution.Outcome
import Fulfilment.Execution.Record
import Fulfilment.Execution.Service
import Fulfilment.Execution.Visit
import Fulfilment.Execution.Walk
import Fulfilment.Execution.Write
import Fulfilment.Failure
import Fulfilment.Http
import Fulfilment.Identifier
import Fulfilment.Intake.Endpoint
import Fulfilment.Intake.Form
import Fulfilment.Intake.Invocation
import Fulfilment.Intake.Submission
import Fulfilment.Number.Binary64
import Fulfilment.Number.Extended
import Fulfilment.Number.Numeral
import Fulfilment.Number.Power
import Fulfilment.Number.Rounding
import Fulfilment.Number.Shortest
import Fulfilment.Order.Change
import Fulfilment.Order.Line
import Fulfilment.Order.Product
import Fulfilment.Order.Record
import Fulfilment.Order.Status
import Fulfilment.Processing.Desk
import Fulfilment.Processing.Pipeline
import Fulfilment.Processing.Process
import Fulfilment.Processing.Report
import Fulfilment.Processing.Review
import Fulfilment.Processing.Steps
import Fulfilment.Processing.Validation
import Fulfilment.Program
import Fulfilment.Proofs.Adjusting
import Fulfilment.Proofs.Agreement
import Fulfilment.Proofs.Amounts
import Fulfilment.Proofs.Attempt
import Fulfilment.Proofs.Calls
import Fulfilment.Proofs.Contributions
import Fulfilment.Proofs.Credits
import Fulfilment.Proofs.Diary
import Fulfilment.Proofs.Environment
import Fulfilment.Proofs.Fitness
import Fulfilment.Proofs.Itinerary
import Fulfilment.Proofs.Later
import Fulfilment.Proofs.Lifecycle
import Fulfilment.Proofs.MemoryDesk
import Fulfilment.Proofs.Parallel
import Fulfilment.Proofs.Replay
import Fulfilment.Proofs.Reports
import Fulfilment.Proofs.Retry
import Fulfilment.Proofs.Rows
import Fulfilment.Proofs.Session
import Fulfilment.Proofs.StatusWrites
import Fulfilment.Proofs.Stores
import Fulfilment.Registry
import Fulfilment.Rehearsal.Desk
import Fulfilment.Rehearsal.Engine
import Fulfilment.Rehearsal.Faults
import Fulfilment.Rehearsal.Script
import Fulfilment.Rehearsal.Session
import Fulfilment.Schema.Checked
import Fulfilment.Schema.Issue
import Fulfilment.Schema.Object
import Fulfilment.Schema.Scalar
import Fulfilment.Settings.Dotenv
import Fulfilment.Settings.Sections
import Fulfilment.Settings.Sources
import Fulfilment.Store.Call
import Fulfilment.Store.Column
import Fulfilment.Store.Figure
import Fulfilment.Store.Memory
import Fulfilment.Store.Table
import Fulfilment.Text.Base64
import Fulfilment.Text.Basic
import Fulfilment.Text.Classes
import Fulfilment.Text.Letters
import Fulfilment.Text.Quoted
import Fulfilment.Time.Iso
import Fulfilment.Time.Timestamp
import Fulfilment.Timetable
import Fulfilment.Workflow.Condition
import Fulfilment.Workflow.Definition
import Fulfilment.Workflow.Node
import Fulfilment.Workflow.Transform
import Fulfilment.Proofs.Notices
import Fulfilment.Proofs.Batch
import Fulfilment.Proofs.Interruption
import Fulfilment.Proofs.Bookings
import Fulfilment.Proofs.Overselling
import Fulfilment.Proofs.Admission
import Fulfilment.Proofs.VisitLimit
import Fulfilment.Proofs.Routes
import Fulfilment.Proofs.Loops
import Fulfilment.Proofs.Cadence
import Fulfilment.Proofs.Repetition
import Fulfilment.Proofs.Reach
import Fulfilment.Proofs.Revision
import Fulfilment.Proofs.Warnings
import Fulfilment.Proofs.PipelineLaw
import Fulfilment.Proofs.Delivery
import Fulfilment.Proofs.Locality
import Fulfilment.Proofs.Independence
import Fulfilment.Proofs.Particulars
import Fulfilment.Proofs.Findings
import Fulfilment.Proofs.Dispatch
import Fulfilment.Proofs.Paths
import Fulfilment.Proofs.Assignment
import Fulfilment.Proofs.Conditions
import Fulfilment.Proofs.Exactness
import Fulfilment.Proofs.Written
import Fulfilment.Proofs.Totals
import Fulfilment.Proofs.Addresses
import Fulfilment.Proofs.Confinement
import Fulfilment.Proofs.Census

import ConnectionJobs.Assembly
import ConnectionJobs.Catalog
import ConnectionJobs.Connection
import ConnectionJobs.Connection.Document
import ConnectionJobs.Database.Argument
import ConnectionJobs.Database.Dialect
import ConnectionJobs.Database.Engine
import ConnectionJobs.Database.Url
import ConnectionJobs.Digest.Sha256
import ConnectionJobs.Double.Basic
import ConnectionJobs.Double.Layout
import ConnectionJobs.Double.Nearest
import ConnectionJobs.Double.Shortest
import ConnectionJobs.Failure
import ConnectionJobs.Flag.Context
import ConnectionJobs.Flag.Table
import ConnectionJobs.Job.Builder
import ConnectionJobs.Job.Config
import ConnectionJobs.Job.Creation
import ConnectionJobs.Job.Decoding
import ConnectionJobs.Job.Eligibility
import ConnectionJobs.Job.Encoding
import ConnectionJobs.Job.Generations
import ConnectionJobs.Json.Basic
import ConnectionJobs.Json.Reader
import ConnectionJobs.Json.Shown
import ConnectionJobs.Json.Token
import ConnectionJobs.Json.Writer
import ConnectionJobs.Keyed
import ConnectionJobs.Log.Clock
import ConnectionJobs.Log.Directive
import ConnectionJobs.Log.Event
import ConnectionJobs.Log.Record
import ConnectionJobs.Log.Setup
import ConnectionJobs.Log.Template
import ConnectionJobs.Ports
import ConnectionJobs.Proofs.Catalog.Reset
import ConnectionJobs.Proofs.Catalog.Stamping
import ConnectionJobs.Proofs.Creation.Clearing
import ConnectionJobs.Proofs.Creation.Configuration
import ConnectionJobs.Proofs.Creation.Consistency
import ConnectionJobs.Proofs.Creation.Course
import ConnectionJobs.Proofs.Creation.Frame
import ConnectionJobs.Proofs.Creation.Interleaving
import ConnectionJobs.Proofs.Creation.PatchFailure
import ConnectionJobs.Proofs.Creation.Protocol
import ConnectionJobs.Proofs.Creation.Reach
import ConnectionJobs.Proofs.Creation.Roles
import ConnectionJobs.Proofs.Creation.Stamping
import ConnectionJobs.Proofs.Creation.Survival
import ConnectionJobs.Proofs.Double.Forms
import ConnectionJobs.Proofs.Double.Nearest
import ConnectionJobs.Proofs.Flag.Precedence
import ConnectionJobs.Proofs.Generation.Counting
import ConnectionJobs.Proofs.Generation.Interleaving
import ConnectionJobs.Proofs.Generation.Recording
import ConnectionJobs.Proofs.Generation.Store
import ConnectionJobs.Proofs.Job.Decoding
import ConnectionJobs.Proofs.Job.NormalForm
import ConnectionJobs.Proofs.Job.RoundTrip
import ConnectionJobs.Proofs.Json.Document
import ConnectionJobs.Proofs.Json.Grammar
import ConnectionJobs.Proofs.Json.LongNumber
import ConnectionJobs.Proofs.Json.Numeral
import ConnectionJobs.Proofs.Json.Spelling
import ConnectionJobs.Proofs.Json.Unambiguous
import ConnectionJobs.Proofs.Json.Nested
import ConnectionJobs.Proofs.Json.Value
import ConnectionJobs.Proofs.Json.Visible
import ConnectionJobs.Proofs.Keyed
import ConnectionJobs.Proofs.Log.Clock
import ConnectionJobs.Proofs.Log.Line
import ConnectionJobs.Proofs.Outcome
import ConnectionJobs.Proofs.Program
import ConnectionJobs.Proofs.Queue.Database
import ConnectionJobs.Proofs.Queue.Dialogue
import ConnectionJobs.Proofs.Queue.Exclusion
import ConnectionJobs.Proofs.Resource.Asking
import ConnectionJobs.Proofs.Resource.Fallback
import ConnectionJobs.Proofs.Resource.Merging
import ConnectionJobs.Proofs.Resource.Override
import ConnectionJobs.Proofs.Resource.Precedence
import ConnectionJobs.Proofs.Resource.Settling
import ConnectionJobs.Proofs.Settings.DatabaseUrl
import ConnectionJobs.Proofs.Settings.DefaultsTable
import ConnectionJobs.Proofs.Settings.FlagOverrides
import ConnectionJobs.Proofs.Settings.Loading
import ConnectionJobs.Proofs.Settings.WrittenQuantities
import ConnectionJobs.Proofs.State.Database
import ConnectionJobs.Proofs.State.Document
import ConnectionJobs.Proofs.State.Handover
import ConnectionJobs.Proofs.State.Store
import ConnectionJobs.Proofs.State.Stripping
import ConnectionJobs.Proofs.State.Writable
import ConnectionJobs.Proofs.Store.Atomicity
import ConnectionJobs.Proofs.Store.Tables
import ConnectionJobs.Proofs.Text.Digit
import ConnectionJobs.Proofs.Validation.Decoder
import ConnectionJobs.Rehearsal.World
import ConnectionJobs.Resource.Bundle
import ConnectionJobs.Resource.Defaults
import ConnectionJobs.Resource.Override
import ConnectionJobs.Resource.Policy
import ConnectionJobs.Resource.Quantities
import ConnectionJobs.Resource.Resolution
import ConnectionJobs.Resource.Role
import ConnectionJobs.Schema.Ddl
import ConnectionJobs.Schema.Migration
import ConnectionJobs.Schema.Reference
import ConnectionJobs.Schema.Revision
import ConnectionJobs.Schema.Script
import ConnectionJobs.Schema.Table
import ConnectionJobs.Service
import ConnectionJobs.Settings.Basic
import ConnectionJobs.Settings.Document
import ConnectionJobs.Settings.DotEnv
import ConnectionJobs.Settings.Load
import ConnectionJobs.Settings.Sources
import ConnectionJobs.Sql.Cell
import ConnectionJobs.Sql.Script
import ConnectionJobs.Sql.Session
import ConnectionJobs.Sql.Statement
import ConnectionJobs.Sql.Stores
import ConnectionJobs.State.Basic
import ConnectionJobs.State.Document
import ConnectionJobs.State.Refresh
import ConnectionJobs.State.Strip
import ConnectionJobs.Text.Alphanumeric
import ConnectionJobs.Text.Blank
import ConnectionJobs.Text.Fraction
import ConnectionJobs.Text.Hexadecimal
import ConnectionJobs.Text.Numeral
import ConnectionJobs.Text.Percent
import ConnectionJobs.Text.Printable
import ConnectionJobs.Text.Quoted
import ConnectionJobs.Text.SmallLetter
import ConnectionJobs.Text.Split
import ConnectionJobs.Text.Surrogate
import ConnectionJobs.Text.Utf8
import ConnectionJobs.Uuid
import ConnectionJobs.Validation.Checked
import ConnectionJobs.Validation.Problem
import ConnectionJobs.Validation.Scalar

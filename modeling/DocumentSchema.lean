import DocumentSchema.Main
import DocumentSchema.Registry
import DocumentSchema.Proofs.Path.Steps
import DocumentSchema.Proofs.Outcomes
import DocumentSchema.Proofs.Path.Template
import DocumentSchema.Proofs.Path.Grammar
import DocumentSchema.Proofs.Schema.Walk
import DocumentSchema.Proofs.Schema.Reachable
import DocumentSchema.Proofs.Document.Location
import DocumentSchema.Proofs.Index.Entries
import DocumentSchema.Proofs.Validation.Values
import DocumentSchema.Proofs.Validation.Missing
import DocumentSchema.Proofs.Schema.Rules
import DocumentSchema.Proofs.Validation.Cascade
import DocumentSchema.Proofs.Schema.Digest
import DocumentSchema.Proofs.Validation.Order
import DocumentSchema.Proofs.SchemaFile.Demands
import DocumentSchema.Proofs.SchemaFile.Reordering
import DocumentSchema.Proofs.Schema.Growth
import DocumentSchema.Proofs.Schema.Agreement
import DocumentSchema.Proofs.Schema.WellFormed
import DocumentSchema.Proofs.SchemaFile.Pairs
import DocumentSchema.Proofs.Index.Members
import DocumentSchema.Proofs.Validation.Extra
import DocumentSchema.Proofs.Registry.History
import DocumentSchema.Proofs.Document.Descent
import DocumentSchema.Proofs.Index.Account
import DocumentSchema.Proofs.Document.Replacement
import DocumentSchema.Proofs.Validation.Locality
import DocumentSchema.Proofs.Lines.Numbered
import DocumentSchema.Proofs.CommandLine.Partition
import DocumentSchema.Proofs.Check.Faults
import DocumentSchema.Proofs.Schema.Contradiction
import DocumentSchema.Proofs.Schema.Nullability
import DocumentSchema.Proofs.Lines.Passes
import DocumentSchema.Proofs.Json.Tokens
import DocumentSchema.Proofs.Text.Utf8
import DocumentSchema.Proofs.Json.Printed
import DocumentSchema.Proofs.Lines.RoundTrip
import DocumentSchema.Proofs.Index.Extension
import DocumentSchema.Proofs.Lines.OpenFile
import DocumentSchema.Proofs.Lines.LastRun
import DocumentSchema.Proofs.CommandLine.Outputs
import DocumentSchema.Proofs.Check.WholeMatch
import DocumentSchema.Proofs.Numeric.Rounding
import DocumentSchema.Proofs.Check.Parameters
import DocumentSchema.Proofs.Check.NumberVerdict
import DocumentSchema.Proofs.Check.ExactIntegers
import DocumentSchema.Proofs.Check.SameEntries
import DocumentSchema.Proofs.Check.TextVerdict
import DocumentSchema.Proofs.Schema.Redeclared
import DocumentSchema.Proofs.Message.Wire
import DocumentSchema.Proofs.Lines.Directory
import DocumentSchema.Proofs.Schema.Upwards
import DocumentSchema.Proofs.Index.ConcretePaths

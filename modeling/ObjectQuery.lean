import ObjectQuery.Calendar.Date
import ObjectQuery.Calendar.DateTime
import ObjectQuery.Calendar.Layout
import ObjectQuery.Calendar.Reader
import ObjectQuery.Calendar.Time
import ObjectQuery.Catalog.Basic
import ObjectQuery.Catalog.Counting
import ObjectQuery.Catalog.Entity
import ObjectQuery.Catalog.Fixed
import ObjectQuery.Codec.Catalog
import ObjectQuery.Codec.CatalogSource
import ObjectQuery.Codec.CatalogYaml
import ObjectQuery.Codec.Configuration
import ObjectQuery.Codec.Construction
import ObjectQuery.Codec.Error
import ObjectQuery.Codec.FunctionSpelling
import ObjectQuery.Codec.NodeReader
import ObjectQuery.Codec.NodeWriter
import ObjectQuery.Codec.Operation
import ObjectQuery.Codec.Resolver
import ObjectQuery.Codec.Row
import ObjectQuery.Codec.Statement
import ObjectQuery.Codec.Summary
import ObjectQuery.Codec.Value
import ObjectQuery.Codec.Words
import ObjectQuery.Compiler.Basic
import ObjectQuery.Compiler.Configuration
import ObjectQuery.Composition.Operation
import ObjectQuery.Composition.Select
import ObjectQuery.Composition.Write
import ObjectQuery.Dialect
import ObjectQuery.Evaluation.Basic
import ObjectQuery.Evaluation.Rebinding
import ObjectQuery.Expression.Basic
import ObjectQuery.Expression.Build
import ObjectQuery.Expression.Standard
import ObjectQuery.Expression.Validation
import ObjectQuery.FunctionSpelling
import ObjectQuery.Json.Basic
import ObjectQuery.Json.Reader
import ObjectQuery.Json.Record
import ObjectQuery.Json.Writer
import ObjectQuery.Number.Binary64
import ObjectQuery.Number.Layout
import ObjectQuery.Number.Reader
import ObjectQuery.Number.Shortest
import ObjectQuery.Operation.Basic
import ObjectQuery.Platform
import ObjectQuery.Proofs.Aliases.Correlated
import ObjectQuery.Proofs.Aliases.Distinct
import ObjectQuery.Proofs.Aliases.Generated
import ObjectQuery.Proofs.Aliases.Unaliased
import ObjectQuery.Proofs.Aliases.Visible
import ObjectQuery.Proofs.Allotment.Basic
import ObjectQuery.Proofs.Allotment.Nodes
import ObjectQuery.Proofs.Allotment.Statement
import ObjectQuery.Proofs.Allotment.Steps
import ObjectQuery.Proofs.Ambiguity
import ObjectQuery.Proofs.Bare.Flat
import ObjectQuery.Proofs.Bare.Nodes
import ObjectQuery.Proofs.Bare.Statement
import ObjectQuery.Proofs.Bare.Steps
import ObjectQuery.Proofs.Bare.Text
import ObjectQuery.Proofs.Caching.Answers
import ObjectQuery.Proofs.Caching.Memory
import ObjectQuery.Proofs.Caching.Statement
import ObjectQuery.Proofs.Comparisons
import ObjectQuery.Proofs.Definitions
import ObjectQuery.Proofs.Ensures
import ObjectQuery.Proofs.Frame.Joins
import ObjectQuery.Proofs.Frame.Nodes
import ObjectQuery.Proofs.Frame.Statement
import ObjectQuery.Proofs.Frame.Steps
import ObjectQuery.Proofs.Hereditary.Nodes
import ObjectQuery.Proofs.Hereditary.Statement
import ObjectQuery.Proofs.Hereditary.Steps
import ObjectQuery.Proofs.Inert.Alike
import ObjectQuery.Proofs.Inert.Statement
import ObjectQuery.Proofs.Inquiries.Basic
import ObjectQuery.Proofs.Inquiries.Nodes
import ObjectQuery.Proofs.Inquiries.Statement
import ObjectQuery.Proofs.Inquiries.Steps
import ObjectQuery.Proofs.Inquiries.Validation
import ObjectQuery.Proofs.Joins
import ObjectQuery.Proofs.Lists.Basic
import ObjectQuery.Proofs.Lists.Statement
import ObjectQuery.Proofs.Lists.Validation
import ObjectQuery.Proofs.Literals.Scanning
import ObjectQuery.Proofs.Literals.Statement
import ObjectQuery.Proofs.Literals.Values
import ObjectQuery.Proofs.Loading
import ObjectQuery.Proofs.Matching
import ObjectQuery.Proofs.Nesting.Calls
import ObjectQuery.Proofs.Nesting.Enclosed
import ObjectQuery.Proofs.Nesting.Nodes
import ObjectQuery.Proofs.Nesting.Outline
import ObjectQuery.Proofs.Nesting.Pieces
import ObjectQuery.Proofs.Nesting.Statement
import ObjectQuery.Proofs.Occurrence
import ObjectQuery.Proofs.Parameters.BuiltIn
import ObjectQuery.Proofs.Parameters.Ledger
import ObjectQuery.Proofs.Parameters.Literals
import ObjectQuery.Proofs.Parameters.Names
import ObjectQuery.Proofs.Parameters.Nodes
import ObjectQuery.Proofs.Parameters.Scanning
import ObjectQuery.Proofs.Parameters.Slots
import ObjectQuery.Proofs.Parameters.Statement
import ObjectQuery.Proofs.Parameters.Steps
import ObjectQuery.Proofs.Parts.Basic
import ObjectQuery.Proofs.Parts.Clauses
import ObjectQuery.Proofs.Parts.Statement
import ObjectQuery.Proofs.Payload.BuiltIn
import ObjectQuery.Proofs.Payload.Draft
import ObjectQuery.Proofs.Payload.Lockstep
import ObjectQuery.Proofs.Payload.Masking
import ObjectQuery.Proofs.Payload.Statement
import ObjectQuery.Proofs.Payload.Validation
import ObjectQuery.Proofs.Phrases.Meaning
import ObjectQuery.Proofs.Phrases.Patterns
import ObjectQuery.Proofs.Phrases.Reading
import ObjectQuery.Proofs.Phrases.Statement
import ObjectQuery.Proofs.Phrases.Syntax
import ObjectQuery.Proofs.Phrases.Writing
import ObjectQuery.Proofs.Rebinding.Lowered
import ObjectQuery.Proofs.Rebinding.Patterns
import ObjectQuery.Proofs.Rebinding.Statement
import ObjectQuery.Proofs.Rebinding.Steps
import ObjectQuery.Proofs.Release
import ObjectQuery.Proofs.RoundTrip.Calendar
import ObjectQuery.Proofs.RoundTrip.Nodes
import ObjectQuery.Proofs.RoundTrip.Statement
import ObjectQuery.Proofs.RoundTrip.Values
import ObjectQuery.Proofs.Rows.Coercion
import ObjectQuery.Proofs.Rows.Lossless
import ObjectQuery.Proofs.Rows.Nulls
import ObjectQuery.Proofs.Rows.Plans
import ObjectQuery.Proofs.Rows.Records
import ObjectQuery.Proofs.Rows.Statement
import ObjectQuery.Proofs.Signs.Literals
import ObjectQuery.Proofs.Signs.Names
import ObjectQuery.Proofs.Signs.Nodes
import ObjectQuery.Proofs.Signs.Scanning
import ObjectQuery.Proofs.Signs.Statement
import ObjectQuery.Proofs.Signs.Steps
import ObjectQuery.Proofs.Sketch.Assigned
import ObjectQuery.Proofs.Sketch.Basic
import ObjectQuery.Proofs.Sketch.BuiltIn
import ObjectQuery.Proofs.Sketch.Conventions
import ObjectQuery.Proofs.Sketch.Effect
import ObjectQuery.Proofs.Sketch.Exposed
import ObjectQuery.Proofs.Sketch.Guarded
import ObjectQuery.Proofs.Sketch.Nodes
import ObjectQuery.Proofs.Sketch.Parameters
import ObjectQuery.Proofs.Sketch.Places
import ObjectQuery.Proofs.Sketch.Sources
import ObjectQuery.Proofs.Sketch.Statement
import ObjectQuery.Proofs.Sketch.Steps
import ObjectQuery.Proofs.Spelling
import ObjectQuery.Proofs.Tables
import ObjectQuery.Proofs.Templates.Parts
import ObjectQuery.Proofs.Templates.Statement
import ObjectQuery.Proofs.Throughout
import ObjectQuery.Proofs.Vacuity.Basic
import ObjectQuery.Proofs.Vacuity.Nodes
import ObjectQuery.Proofs.Vacuity.Statement
import ObjectQuery.Proofs.Vacuity.Steps
import ObjectQuery.Proofs.Writes.Calls
import ObjectQuery.Proofs.Writes.Statement
import ObjectQuery.Resolution.Basic
import ObjectQuery.Resolution.BuiltIn
import ObjectQuery.Resolution.Context
import ObjectQuery.Resolution.Error
import ObjectQuery.Resolution.Host
import ObjectQuery.Resolution.Parameter
import ObjectQuery.Resolution.Resolvers
import ObjectQuery.Resolution.Scope
import ObjectQuery.Resolution.Scripted
import ObjectQuery.Row.Basic
import ObjectQuery.Row.Plan
import ObjectQuery.Sample
import ObjectQuery.Sample.Custom
import ObjectQuery.Table
import ObjectQuery.Text.Ascii
import ObjectQuery.Text.Blank
import ObjectQuery.Text.Case
import ObjectQuery.Text.CaseTable
import ObjectQuery.Text.Identifier
import ObjectQuery.Text.Pattern
import ObjectQuery.Text.Picture
import ObjectQuery.Text.PictureTable
import ObjectQuery.Text.Quoted
import ObjectQuery.Text.Scan
import ObjectQuery.Text.Search
import ObjectQuery.Value.Basic
import ObjectQuery.Value.Coercion
import ObjectQuery.Value.Layout
import ObjectQuery.Yaml.Basic
import ObjectQuery.Yaml.Reader
import ObjectQuery.Yaml.Token

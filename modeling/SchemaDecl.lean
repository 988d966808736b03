import SchemaDecl.Main
import SchemaDecl.Session
import SchemaDecl.Proofs.Merge.Visit
import SchemaDecl.Proofs.Merge.Base
import SchemaDecl.Proofs.Merge.Retention
import SchemaDecl.Proofs.Merge.ClosedForm
import SchemaDecl.Proofs.Collect
import SchemaDecl.Proofs.Merge.Union
import SchemaDecl.Proofs.Merge.Order
import SchemaDecl.Proofs.Conformance
import SchemaDecl.Proofs.Acceptance
import SchemaDecl.Proofs.Merge.Trimming
import SchemaDecl.Proofs.Naming
import SchemaDecl.Proofs.Rendering
import SchemaDecl.Proofs.Merge.Restriction
import SchemaDecl.Proofs.Reduction
import SchemaDecl.Proofs.Inlining
import SchemaDecl.Proofs.Joining
import SchemaDecl.Proofs.Visible
import SchemaDecl.Proofs.Plural
import SchemaDecl.Proofs.Paragraphs
import SchemaDecl.Proofs.Legibility
import SchemaDecl.Proofs.Readback
import SchemaDecl.Proofs.Merge.Independence
import SchemaDecl.Proofs.Merge.Repetition
import SchemaDecl.Proofs.Merge.Provenance
import SchemaDecl.Proofs.Merge.Tags
import SchemaDecl.Proofs.Aggregation
import SchemaDecl.Proofs.TypeReference
import SchemaDecl.Proofs.Unresolved
import SchemaDecl.Proofs.Sdl.TypeText
import SchemaDecl.Proofs.Sdl.Lexing
import SchemaDecl.Proofs.Sdl.Following
import SchemaDecl.Proofs.Sdl.Reading
import SchemaDecl.Proofs.Sdl.Definitions
import SchemaDecl.Proofs.Sdl.Joined
import SchemaDecl.Proofs.Loading
import SchemaDecl.Proofs.Collector
import SchemaDecl.Proofs.Identifiers
import SchemaDecl.Proofs.Export
import SchemaDecl.Proofs.Sdl.Contents
import SchemaDecl.Proofs.Json
import SchemaDecl.Proofs.ShapeData
import SchemaDecl.Proofs.ItemData
import SchemaDecl.Proofs.TypeName
import SchemaDecl.Proofs.Enumerants
import SchemaDecl.Proofs.SchemaPaths
import SchemaDecl.Proofs.Writing
import SchemaDecl.Proofs.Outcome
import SchemaDecl.Proofs.Appending

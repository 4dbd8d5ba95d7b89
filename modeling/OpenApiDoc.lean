import OpenApiDoc.Config.Reader
import OpenApiDoc.Document
import OpenApiDoc.Example.Request
import OpenApiDoc.Json.Reader
import OpenApiDoc.Resolver.Parameters
import OpenApiDoc.Resolver.Rows
import OpenApiDoc.Proofs.Schema.Nesting
import OpenApiDoc.Proofs.Schema.Shape
import OpenApiDoc.Proofs.Definitions.Reachability
import OpenApiDoc.Proofs.Definitions.Extension
import OpenApiDoc.Proofs.Resolver.Unfolding
import OpenApiDoc.Proofs.Resolver.SharedChain
import OpenApiDoc.Proofs.Example.Draft
import OpenApiDoc.Proofs.Resolver.Provenance
import OpenApiDoc.Proofs.Example.Calls
import OpenApiDoc.Proofs.Example.Visits
import OpenApiDoc.Proofs.Example.Depth
import OpenApiDoc.Proofs.Example.Expansion
import OpenApiDoc.Proofs.Resolver.Locality
import OpenApiDoc.Proofs.Resolver.Composition
import OpenApiDoc.Proofs.Resolver.Links
import OpenApiDoc.Proofs.Resolver.InlineNames
import OpenApiDoc.Proofs.Resolver.DeclaredRows
import OpenApiDoc.Proofs.Locality
import OpenApiDoc.Proofs.Example.Routes
import OpenApiDoc.Proofs.Example.Spine
import OpenApiDoc.Proofs.Example.Hoisting
import OpenApiDoc.Proofs.Example.Truncation
import OpenApiDoc.Proofs.Example.RequiredRows
import OpenApiDoc.Proofs.Example.RowExamples
import OpenApiDoc.Proofs.Decoding
import OpenApiDoc.Proofs.Entries
import OpenApiDoc.Proofs.Operation.Order
import OpenApiDoc.Proofs.Document.Modern
import OpenApiDoc.Proofs.Document.Preparation
import OpenApiDoc.Proofs.Document.Dialects
import OpenApiDoc.Proofs.Document.BooleanSchemas
import OpenApiDoc.Proofs.Document.Lifting
import OpenApiDoc.Proofs.Document.ConstSchemas
import OpenApiDoc.Proofs.Document.Unified
import OpenApiDoc.Proofs.Document.UnifiedSchemas
import OpenApiDoc.Proofs.Document.Reached
import OpenApiDoc.Proofs.Document.DistinctNames
import OpenApiDoc.Proofs.Document.Following
import OpenApiDoc.Proofs.Document.Parameters
import OpenApiDoc.Proofs.Document.ConstDefinitions
import OpenApiDoc.Proofs.Example.EntryPoints
import OpenApiDoc.Proofs.Link
import OpenApiDoc.Proofs.Example.RequestPath
import OpenApiDoc.Proofs.Text.FileName
import OpenApiDoc.Proofs.Resolver.AliasNames
import OpenApiDoc.Proofs.Example.AuthoredParameters
import OpenApiDoc.Proofs.Example.EnumLabels
import OpenApiDoc.Proofs.Example.QueryString
import OpenApiDoc.Proofs.Reference.Name
import OpenApiDoc.Proofs.Resolver.FlatBodies
import OpenApiDoc.Proofs.Example.RequiredTypes
import OpenApiDoc.Proofs.Resolver.Hoisting
import OpenApiDoc.Proofs.Document.Removal
import OpenApiDoc.Proofs.Text.Words
import OpenApiDoc.Proofs.Example.Paths
import OpenApiDoc.Proofs.Example.TypeExpansion
import OpenApiDoc.Proofs.Decimal.Nearest
import OpenApiDoc.Proofs.Example.TextExamples

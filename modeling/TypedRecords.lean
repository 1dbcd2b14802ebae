import TypedRecords.Device.Labels
import TypedRecords.Files.Tree
import TypedRecords.Main
import TypedRecords.Mixin.Basic
import TypedRecords.Proofs.Coercion.Conformance
import TypedRecords.Proofs.Coercion.Milliseconds
import TypedRecords.Proofs.Coercion.Nesting
import TypedRecords.Proofs.Coercion.NotNumber
import TypedRecords.Proofs.Coercion.NumberLists
import TypedRecords.Proofs.Coercion.Parts
import TypedRecords.Proofs.Coercion.Stability
import TypedRecords.Proofs.Command.Dates
import TypedRecords.Proofs.Command.Endings
import TypedRecords.Proofs.Command.Formatting
import TypedRecords.Proofs.Command.Records
import TypedRecords.Proofs.Device.UniqueId
import TypedRecords.Proofs.Extraction.Envelope
import TypedRecords.Proofs.Extraction.Grid
import TypedRecords.Proofs.Extraction.History
import TypedRecords.Proofs.Extraction.Lookups
import TypedRecords.Proofs.Extraction.Strictness
import TypedRecords.Proofs.Mixin.Accessors
import TypedRecords.Proofs.Path.Inclusion
import TypedRecords.Proofs.Path.Reach
import TypedRecords.Proofs.Path.Recency
import TypedRecords.Proofs.Path.Totality
import TypedRecords.Proofs.Path.Transparency
import TypedRecords.Proofs.SemanticType.Reading
import TypedRecords.Proofs.SemanticType.Rendering
import TypedRecords.Proofs.Settings.Endings
import TypedRecords.Proofs.Settings.Refusals
import TypedRecords.Proofs.Settings.Restating
import TypedRecords.Proofs.Signature.Data
import TypedRecords.Proofs.Signature.FileEndings
import TypedRecords.Proofs.Source.Survival
import TypedRecords.Proofs.Template.Escaping
import TypedRecords.Proofs.Template.Filling
import TypedRecords.Proofs.Template.Scopes
import TypedRecords.Proofs.Url.PublicHosts
import TypedRecords.Source.Poll
import TypedRecords.Url.Public
import TypedRecords.Proofs.Command.Formatting

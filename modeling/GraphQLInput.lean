import GraphQLInput.Journal
import GraphQLInput.Schema.BuiltIn
import GraphQLInput.Settings
import GraphQLInput.Proofs.Acceptance
import GraphQLInput.Proofs.Conformance.Signature
import GraphQLInput.Proofs.FirstSupplied
import GraphQLInput.Proofs.Inlining.Signature
import GraphQLInput.Proofs.Places
import GraphQLInput.Proofs.Reordering
import GraphQLInput.Proofs.Reporting
import GraphQLInput.Proofs.Rewriting.Defaults
import GraphQLInput.Proofs.Rewriting.Tidying
import GraphQLInput.Proofs.Termination
import GraphQLInput.Proofs.Transcription.Agreement
import GraphQLInput.Proofs.Validity
import GraphQLInput.Proofs.Verbatim

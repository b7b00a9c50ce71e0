import ArtifactTrust.Files.Tree
import ArtifactTrust.Main
import ArtifactTrust.Proofs.Command.Arguments
import ArtifactTrust.Proofs.Command.Credentials
import ArtifactTrust.Proofs.Command.Governance
import ArtifactTrust.Proofs.Command.Lines
import ArtifactTrust.Proofs.Command.Pairs
import ArtifactTrust.Proofs.Command.Pinning
import ArtifactTrust.Proofs.Command.Presence
import ArtifactTrust.Proofs.Command.Requests
import ArtifactTrust.Proofs.Command.Transcript
import ArtifactTrust.Proofs.Digest
import ArtifactTrust.Proofs.Digest.Content
import ArtifactTrust.Proofs.Effects
import ArtifactTrust.Proofs.Except
import ArtifactTrust.Proofs.Hash.Blockwise
import ArtifactTrust.Proofs.Inspection
import ArtifactTrust.Proofs.Json.Documents
import ArtifactTrust.Proofs.Json.Records
import ArtifactTrust.Proofs.Json.Tokens
import ArtifactTrust.Proofs.Json.Values
import ArtifactTrust.Proofs.NameMap
import ArtifactTrust.Proofs.Policy.Rules
import ArtifactTrust.Proofs.Policy.Selection
import ArtifactTrust.Proofs.Policy.TrustStore
import ArtifactTrust.Proofs.Policy.Validity
import ArtifactTrust.Proofs.Reference
import ArtifactTrust.Proofs.Reference.Component
import ArtifactTrust.Proofs.Reference.Grammar
import ArtifactTrust.Proofs.Reference.Layouts
import ArtifactTrust.Proofs.Registry.Attempts
import ArtifactTrust.Proofs.Registry.Confinement
import ArtifactTrust.Proofs.Registry.Endpoints
import ArtifactTrust.Proofs.Registry.Exchanges
import ArtifactTrust.Proofs.Registry.Referrers
import ArtifactTrust.Proofs.Registry.Repetition
import ArtifactTrust.Proofs.Registry.Retries
import ArtifactTrust.Proofs.Repository.Addressing
import ArtifactTrust.Proofs.Repository.Containment
import ArtifactTrust.Proofs.Repository.Listing
import ArtifactTrust.Proofs.Repository.Neighbours
import ArtifactTrust.Proofs.Repository.Queries
import ArtifactTrust.Proofs.Repository.Resolution
import ArtifactTrust.Proofs.Repository.Undescribed
import ArtifactTrust.Proofs.Signature.Encoding
import ArtifactTrust.Proofs.Signature.Key
import ArtifactTrust.Proofs.Text.Base64
import ArtifactTrust.Proofs.Text.Composition
import ArtifactTrust.Proofs.Text.Cut
import ArtifactTrust.Proofs.Text.Decimal
import ArtifactTrust.Proofs.Time.Text
import ArtifactTrust.Proofs.Url.Authority
import ArtifactTrust.Proofs.Url.Host
import ArtifactTrust.Proofs.Url.Path
import ArtifactTrust.Proofs.Verification.Acceptance
import ArtifactTrust.Proofs.Verification.Calls
import ArtifactTrust.Proofs.Verification.Isolation
import ArtifactTrust.Proofs.Verification.Loading
import ArtifactTrust.Proofs.Verification.Masking
import ArtifactTrust.Proofs.Verification.Run
import ArtifactTrust.Proofs.Verification.Search
import ArtifactTrust.Proofs.Verification.Signing
import ArtifactTrust.Proofs.Verification.Strictness

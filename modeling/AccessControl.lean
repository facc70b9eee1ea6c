import AccessControl.Deployment.Session
import AccessControl.Json.Reader
import AccessControl.LogEvent
import AccessControl.Model.Samples
import AccessControl.Policy.Operation
import AccessControl.Proofs.Deployment.Commit
import AccessControl.Proofs.Deployment.Interruption
import AccessControl.Proofs.Deployment.Transparency
import AccessControl.Proofs.Enforcer.BatchRemoval
import AccessControl.Storage.Operation
import AccessControl.Proofs.Role.Links
import AccessControl.Proofs.Role.Neighbours
import AccessControl.Proofs.Role.Search
import AccessControl.Proofs.Role.Remnant
import AccessControl.Proofs.Role.Isolation
import AccessControl.Proofs.Enforcer.Rows
import AccessControl.Proofs.Enforcer.RoleLinks
import AccessControl.Proofs.Enforcer.Linked
import AccessControl.Proofs.Enforcer.Rebuilt
import AccessControl.Proofs.Enforcer.Staging
import AccessControl.Proofs.Enforcer.Mirror
import AccessControl.Proofs.Deployment.Mirror
import AccessControl.Proofs.Enforcer.Revocation
import AccessControl.Proofs.Deployment.Loading
import AccessControl.Proofs.Enforcer.PartialBatch
import AccessControl.Proofs.Deployment.Interleaving
import AccessControl.Proofs.Enforcer.Agreement
import AccessControl.Proofs.Deployment.Twins
import AccessControl.Proofs.Policy.FieldIndex
import AccessControl.Proofs.Deployment.WellFormed
import AccessControl.Proofs.Policy.Refinement
import AccessControl.Proofs.Deployment.SaveLoad
import AccessControl.Proofs.Matcher.Evaluation
import AccessControl.Proofs.Matcher.Grammar
import AccessControl.Proofs.Matcher.Lowering
import AccessControl.Proofs.Matcher.References
import AccessControl.Proofs.Text.Parts
import AccessControl.Proofs.RequestKey.Identity
import AccessControl.Proofs.Enforcer.Bindings
import AccessControl.Proofs.Matcher.Operators
import AccessControl.Proofs.Matcher.Membership
import AccessControl.Proofs.Enforcer.Faults
import AccessControl.Proofs.Matcher.Spelling
import AccessControl.Proofs.Model.Spelling
import AccessControl.Proofs.Model.RoundTrip
import AccessControl.Proofs.Model.Acceptance
import AccessControl.Proofs.Deployment.Isolation
import AccessControl.Proofs.Enforcer.Order
import AccessControl.Proofs.Role.Nearest
import AccessControl.Proofs.Enforcer.FilteredQuery
import AccessControl.Proofs.Deployment.Monotone
import AccessControl.Proofs.Policy.Replacement
import AccessControl.Proofs.Policy.Distinct
import AccessControl.Proofs.Policy.Batch
import AccessControl.Proofs.Deployment.Outcome
import AccessControl.Proofs.Effect.Finality
import AccessControl.Proofs.DecisionCache.Recency
import AccessControl.Proofs.Role.EarlyStop
import AccessControl.Proofs.Enforcer.Matchings
import AccessControl.Proofs.Matcher.Quotation
import AccessControl.Proofs.Matcher.Skimming
import AccessControl.Proofs.Matcher.Lexing
import AccessControl.Proofs.Matcher.Respelling
import AccessControl.Proofs.Matcher.Margins
import AccessControl.Proofs.Matcher.Adjacency
import AccessControl.Proofs.Matcher.Literals
import AccessControl.Proofs.Role.Direct
import AccessControl.Proofs.Effect.Spelling
import AccessControl.Proofs.Predicate.KeyPath
import AccessControl.Proofs.Matcher.Settled
import AccessControl.Proofs.Enforcer.RowGauge
import AccessControl.Proofs.Deployment.Surfaced

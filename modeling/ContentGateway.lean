import ContentGateway.Main
import ContentGateway.Query.Workbench
import ContentGateway.Proofs.Address.DotSegments
import ContentGateway.Proofs.Content.Addressed
import ContentGateway.Proofs.Command.Audience
import ContentGateway.Proofs.Command.Columns
import ContentGateway.Proofs.Command.Problems
import ContentGateway.Proofs.Command.Totals
import ContentGateway.Proofs.Content.Created
import ContentGateway.Proofs.Content.Untotalled
import ContentGateway.Proofs.Failure.Chain
import ContentGateway.Proofs.Failure.Classified
import ContentGateway.Proofs.Query.Calls
import ContentGateway.Proofs.Query.Conjunction
import ContentGateway.Proofs.Query.Lineage
import ContentGateway.Proofs.Settings.Overrides
import ContentGateway.Proofs.Transport.Headers
import ContentGateway.Proofs.Transport.Reported
import ContentGateway.Proofs.Transport.Retryable
import ContentGateway.Proofs.Content.ReadBack
import ContentGateway.Proofs.Failure.Explained
import ContentGateway.Proofs.Json.Refused
import ContentGateway.Proofs.Content.Bounded
import ContentGateway.Proofs.Transport.Bodies

import HostedDelivery.Main
import HostedDelivery.Proofs.CallTrace
import HostedDelivery.Proofs.Lifecycle
import HostedDelivery.Proofs.Ownership
import HostedDelivery.Watch
import HostedDelivery.Proofs.Condition.Merge
import HostedDelivery.Proofs.Outcome
import HostedDelivery.Proofs.Mirroring
import HostedDelivery.Proofs.Convergence
import HostedDelivery.Proofs.ConditionHistory
import HostedDelivery.Proofs.Payload
import HostedDelivery.Proofs.Recheck
import HostedDelivery.Proofs.Crowd
import HostedDelivery.Proofs.Footprint
import HostedDelivery.Proofs.Restoration
import HostedDelivery.Proofs.Commutation
import HostedDelivery.Proofs.Backoff
import HostedDelivery.Proofs.Payload.Shape
import HostedDelivery.Proofs.Form
import HostedDelivery.Proofs.Api.Contention
import HostedDelivery.Proofs.Json.Delta
import HostedDelivery.Proofs.Condition.Fold
import HostedDelivery.Proofs.Repetition
import HostedDelivery.Proofs.Naming
import HostedDelivery.Proofs.Payload.Copies
import HostedDelivery.Proofs.Api.Address
import HostedDelivery.Proofs.Api.Agreement
import HostedDelivery.Proofs.Configuration
import HostedDelivery.Proofs.Hub.Filing
import HostedDelivery.Proofs.Placement

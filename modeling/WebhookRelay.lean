import WebhookRelay.Main
import WebhookRelay.Server.Script
import WebhookRelay.Proofs.Broker.Messages
import WebhookRelay.Proofs.Relay.Audience
import WebhookRelay.Proofs.Relay.Counts
import WebhookRelay.Proofs.Relay.Disabling
import WebhookRelay.Proofs.Relay.Serial
import WebhookRelay.Proofs.Store.Agreement
import WebhookRelay.Proofs.Subscription.Relevance
import WebhookRelay.Proofs.Feed.Following
import WebhookRelay.Proofs.Relay.Intake
import WebhookRelay.Proofs.Delivery.Sending
import WebhookRelay.Proofs.Json.Grammar
import WebhookRelay.Proofs.Json.Soundness
import WebhookRelay.Proofs.Json.Completeness
import WebhookRelay.Proofs.Json.Members
import WebhookRelay.Proofs.Event.Decoding
import WebhookRelay.Proofs.Registry.Verdicts
import WebhookRelay.Proofs.Registry.Refresh
import WebhookRelay.Proofs.Relay.Waiting
import WebhookRelay.Proofs.Registry.Threshold
import WebhookRelay.Proofs.Relay.Spacing
import WebhookRelay.Proofs.Relay.Unflagged
import WebhookRelay.Proofs.Event.Acceptance
import WebhookRelay.Proofs.Event.Numeric
import WebhookRelay.Proofs.Store.Chains
import WebhookRelay.Proofs.Event.Rearrangement
import WebhookRelay.Proofs.Subscription.Updating
import WebhookRelay.Proofs.Subscription.Violations
import WebhookRelay.Proofs.Relay.FanOut
import WebhookRelay.Proofs.Subscription.RoundTrip
import WebhookRelay.Proofs.Schedule
import WebhookRelay.Proofs.Server.Shutdown
import WebhookRelay.Proofs.Server.Limits
import WebhookRelay.Proofs.Event.Coherence
import WebhookRelay.Proofs.Settings.Precedence
import WebhookRelay.Proofs.Settings.Verbatim

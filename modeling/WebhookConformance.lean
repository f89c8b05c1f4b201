import WebhookConformance.CanonicalBytes
import WebhookConformance.ExecutorSafety
import WebhookConformance.GeneratorStream
import WebhookConformance.IdentifierCodec
import WebhookConformance.LogicalTimes
import WebhookConformance.ObserverPlans
import WebhookConformance.OperatorDecisions
import WebhookConformance.PlannedCounts
import WebhookConformance.Release
import WebhookConformance.RunLockLaw
import WebhookConformance.ScheduleLaw
import WebhookConformance.SigningTemplates
import WebhookConformance.TemporalVerdicts
import WebhookConformance.WireHeaders

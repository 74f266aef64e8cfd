-- SUMMARY: Health checks: judging webhooks on their failure rate once their window has elapsed.
import WebhookRelay.Decimal.Layout
import WebhookRelay.Log
import WebhookRelay.Registry.Stats
import WebhookRelay.Store.Basic

/-!
# Health checks

A webhook is judged once its health window has elapsed: unhealthy when its
failure rate is strictly above the threshold. An unhealthy webhook is reported
or, with `autoDisable`, switched off in the store. Either way its statistics
start over.

An evaluation has three steps, `judge`, `disable` and closing the window, since
deliveries may settle while the store is asked to switch a webhook off.
-/

namespace WebhookRelay

/-- A subscription as the registry knows it, and the key of its statistics. -/
structure Entry where
  subscription : Subscription
  stats : StatsKey
  deriving DecidableEq

/-- The id of the webhook. -/
def Entry.id (e : Entry) : WebhookId :=
  e.subscription.id

/-- When and how webhooks are judged. -/
structure HealthPolicy where
  /-- Least time between two evaluations of a webhook, in milliseconds. -/
  window : Int
  /-- The failure rate, in percent, that must be exceeded. -/
  threshold : Float
  /-- Whether unhealthy webhooks are switched off. -/
  autoDisable : Bool

/-- One minute, more than all deliveries failed, nothing switched off. -/
def HealthPolicy.default : HealthPolicy :=
  ⟨60000, 100.0, false⟩

/-- What became of an evaluated webhook. -/
inductive HealthAction where
  | healthy
  /-- Unhealthy, and nothing is switched off. -/
  | warned
  | disabled
  /-- Unhealthy, and the store had no active row to switch off. -/
  | alreadyInactive
  /-- Unhealthy, and the store failed. -/
  | disableFailed
  deriving DecidableEq, Repr

/-- The name of an action. -/
def HealthAction.name : HealthAction → String
  | .healthy => "healthy"
  | .warned => "warned"
  | .disabled => "disabled"
  | .alreadyInactive => "already_inactive"
  | .disableFailed => "disable_failed"

/-- The result of evaluating one webhook. -/
structure Verdict where
  webhookId : WebhookId
  failureRate : Float
  action : HealthAction
  deriving DecidableEq

namespace HealthPolicy

/-- Whether a window that opened at a time has elapsed. -/
def hasElapsed (p : HealthPolicy) (now windowStart : Time) : Bool :=
  p.window ≤ now - windowStart

/-- Whether a failure rate is too high. -/
def isUnhealthy (p : HealthPolicy) (rate : Float) : Bool :=
  p.threshold < rate

end HealthPolicy

/-- What a health check works on and what it has found so far. -/
structure Checkup where
  repository : Repository
  ledger : Ledger
  verdicts : List Verdict
  log : List LogRecord

namespace Checkup

/-- The state before the first entry. -/
def start (repository : Repository) (ledger : Ledger) : Checkup :=
  ⟨repository, ledger, [], []⟩

/-- The failure rate of an entry whose window has elapsed. -/
def judge? (p : HealthPolicy) (now : Time) (ledger : Ledger) (e : Entry) : Option Float :=
  let stats := ledger.get e.stats
  if p.hasElapsed now stats.windowStart then some stats.failureRate else none

/-- Deals with a webhook above the threshold. -/
def handleUnhealthy (p : HealthPolicy) (repository : Repository) (e : Entry) (rate : Float) :
    HealthAction × Repository × LogRecord :=
  let id := ("webhook_id", e.id.text)
  let url := ("url", e.subscription.url)
  let rateField := ("failure_rate", Decimal.Layout.report.render rate)
  if !p.autoDisable then
    (.warned, repository, ⟨.warn, "Webhook failure rate above threshold",
      [id, url, rateField, ("threshold", Decimal.Layout.report.render p.threshold)]⟩)
  else
    match repository.deactivate e.id with
    | (.ok true, repository) =>
      (.disabled, repository, ⟨.info, "Webhook disabled due to failure rate", [id, url, rateField]⟩)
    | (.ok false, repository) =>
      (.alreadyInactive, repository, ⟨.info, "Webhook already inactive", [id, url]⟩)
    | (.error e, repository) =>
      (.disableFailed, repository,
        ⟨.error, "Failed to disable webhook", [id, url, ("error", e.message)]⟩)

/-- Deals with a webhook whose failure rate was taken. -/
def act (p : HealthPolicy) (repository : Repository) (e : Entry) (rate : Float) :
    HealthAction × Repository × LogRecord :=
  if p.isUnhealthy rate then handleUnhealthy p repository e rate
  else
    (.healthy, repository, ⟨.debug, "Webhook healthy",
      [("webhook_id", e.id.text), ("failure_rate", Decimal.Layout.report.render rate)]⟩)

/-- Evaluates one entry, if its window has elapsed. -/
def visit (p : HealthPolicy) (now : Time) (c : Checkup) (e : Entry) : Checkup :=
  match judge? p now c.ledger e with
  | none => c
  | some rate =>
    let (action, repository, record) := act p c.repository e rate
    { repository
      ledger := c.ledger.modify e.stats (·.resetAt now)
      verdicts := c.verdicts ++ [⟨e.id, rate, action⟩]
      log := c.log ++ [record] }

end Checkup

/-- Evaluates every entry whose window has elapsed, one after the other. -/
def checkHealth (p : HealthPolicy) (now : Time) (repository : Repository) (ledger : Ledger)
    (entries : List Entry) : Checkup :=
  entries.foldl (Checkup.visit p now) (.start repository ledger)

end WebhookRelay

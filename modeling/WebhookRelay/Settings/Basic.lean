-- SUMMARY: The settings of the relay, their defaults, and the values it cannot run with.
import WebhookRelay.Registry.Health

/-!
# Settings

Fifteen settings in five sections. Whole numbers have the width of the field
they are kept in. `Settings.validate` refuses the values of the webhook section
that the relay cannot run with and names the first one.
-/

namespace WebhookRelay

/-- The message broker. -/
structure BrokerSettings where
  url : String := "amqp://localhost:5672"
  /-- The exchange that events are published to. -/
  exchange : String := "safe-transaction-service-events"
  /-- The queue that the relay binds to the exchange. -/
  queue : String := "safe-events-service"
  /-- How many unacknowledged messages the broker may have delivered; zero for no limit. -/
  prefetch : UInt16 := 10
  deriving DecidableEq, Repr

/-- The HTTP client. -/
structure HttpSettings where
  timeoutMs : UInt64 := 1000
  maxRedirects : UInt64 := 0
  deriving DecidableEq, Repr

/-- Refreshing and judging webhooks. -/
structure WebhookSettings where
  refreshIntervalSeconds : UInt64 := 60
  healthWindowMinutes : UInt64 := 1
  failureThresholdPercent : Float := 100.0
  autoDisable : Bool := false

/-- The database. -/
structure DatabaseSettings where
  url : String := "postgres://localhost/safe_events"
  maxConnections : UInt32 := 10
  minConnections : UInt32 := 2
  runMigrations : Bool := true
  deriving DecidableEq, Repr

/-- The feed of events within the process. -/
structure FeedSettings where
  capacity : UInt64 := 1024
  deriving DecidableEq, Repr

/-- All settings. -/
structure Settings where
  broker : BrokerSettings := {}
  http : HttpSettings := {}
  webhooks : WebhookSettings := {}
  database : DatabaseSettings := {}
  feed : FeedSettings := {}

/-- The longest health window, one week. -/
def maxHealthWindowMinutes : Nat := 10080

/-- Why settings could not be loaded. -/
inductive SettingsError where
  /-- The value at a path does not convert to what the setting holds. -/
  | unsuitable (path : String)
  /-- A section is neither a table nor a list, or lacks a setting without a default. -/
  | malformedSection (name : String)
  /-- A value that the relay cannot run with. -/
  | refused (text : String)
  /-- The file is not well formed, or its root is no table. -/
  | malformedFile
  /-- There is no file of a known format. -/
  | noFile
  deriving DecidableEq, Repr

namespace WebhookSettings

/-- Checks the settings, in this order: interval, window, threshold. -/
def validate (w : WebhookSettings) : Except SettingsError Unit :=
  if w.refreshIntervalSeconds = 0 then
    .error (.refused "webhooks.refresh_interval_seconds must be greater than zero")
  else if w.healthWindowMinutes.toNat > maxHealthWindowMinutes then
    .error (.refused ("webhooks.health_window_minutes must not exceed "
      ++ toString maxHealthWindowMinutes))
  else if w.failureThresholdPercent.isNaN || w.failureThresholdPercent < 0.0 then
    .error (.refused "webhooks.failure_threshold_percent must be a non-negative number")
  else .ok ()

/-- The health window in seconds, at most what 64 bits hold. -/
def healthWindowSeconds (w : WebhookSettings) : Nat :=
  min (w.healthWindowMinutes.toNat * 60) (UInt64.size - 1)

/-- The policy that webhooks are judged by; windows of more than a week count as a week. -/
def healthPolicy (w : WebhookSettings) : HealthPolicy :=
  { window := (min w.healthWindowMinutes.toNat maxHealthWindowMinutes * 60000 : Nat)
    threshold := w.failureThresholdPercent
    autoDisable := w.autoDisable }

/-- The period of refreshes in milliseconds. -/
def refreshPeriod (w : WebhookSettings) : Nat :=
  w.refreshIntervalSeconds.toNat * 1000

end WebhookSettings

/-- Checks all settings. -/
def Settings.validate (s : Settings) : Except SettingsError Unit :=
  s.webhooks.validate

end WebhookRelay

-- SUMMARY: Reading all settings from a tree, and the tree that writes them.
import WebhookRelay.Settings.Basic
import WebhookRelay.Settings.Convert
import WebhookRelay.Settings.Tree

/-!
# Sections

A section is a table of settings, or a list of them in their order. A setting
that a section lacks has its default, except for the two URLs, without which a
section is malformed. Unknown keys are passed over. Every section but the last
has to be there.
-/

namespace WebhookRelay

namespace Settings

/-- The look-up of a section: for a setting given by its place and key, the path to
report and the value. -/
abbrev Section := Nat → String → Option (String × Json)

/-- A section of the tree. -/
def sectionOf (root : Json) (name : String) : Except SettingsError Section :=
  match Json.Members.find? name (tableOf root) with
  | none => .error (.malformedSection name)
  | some (.object members) =>
    .ok fun _ key => (Json.Members.find? key members).map (name ++ "." ++ key, ·)
  | some (.array items) =>
    .ok fun place _ => items[place]?.map (name ++ "[" ++ toString place ++ "]", ·)
  | some _ => .error (.malformedSection name)

/-- Reads one setting; `none` when the section lacks it. -/
def Section.read {α : Type} (s : Section) (place : Nat) (key : String) (convert : Json → Option α) :
    Except SettingsError (Option α) :=
  match s place key with
  | none => .ok none
  | some (path, value) => (convert value).elim (.error (.unsuitable path)) fun a => .ok (some a)

/-- A setting that has to be there. -/
def required {α : Type} (name : String) : Option α → Except SettingsError α
  | some a => .ok a
  | none => .error (.malformedSection name)

end Settings

open Settings

namespace BrokerSettings

/-- The name of the section. -/
def sectionName : String := "amqp"

/-- Reads the section. -/
def ofTree (root : Json) : Except SettingsError BrokerSettings := do
  let s ← sectionOf root sectionName
  let d : BrokerSettings := {}
  let url ← s.read 0 "url" text?
  let exchange ← s.read 1 "exchange" text?
  let queue ← s.read 2 "queue" text?
  let prefetch ← s.read 3 "prefetch" word16?
  return ⟨← required sectionName url, exchange.getD d.exchange, queue.getD d.queue,
    prefetch.getD d.prefetch⟩

/-- The section that writes the settings. -/
def toTree (b : BrokerSettings) : Json :=
  .object (Json.Members.ofList [("url", .string b.url), ("exchange", .string b.exchange),
    ("queue", .string b.queue), ("prefetch", .number (.integer b.prefetch.toNat))])

end BrokerSettings

namespace HttpSettings

/-- The name of the section. -/
def sectionName : String := "http"

/-- Reads the section. -/
def ofTree (root : Json) : Except SettingsError HttpSettings := do
  let s ← sectionOf root sectionName
  let d : HttpSettings := {}
  let timeout ← s.read 0 "timeout_ms" word64?
  let redirects ← s.read 1 "max_redirects" word64?
  return ⟨timeout.getD d.timeoutMs, redirects.getD d.maxRedirects⟩

/-- The section that writes the settings. -/
def toTree (h : HttpSettings) : Json :=
  .object (Json.Members.ofList [("timeout_ms", .number (.integer h.timeoutMs.toNat)),
    ("max_redirects", .number (.integer h.maxRedirects.toNat))])

end HttpSettings

namespace WebhookSettings

/-- The name of the section. -/
def sectionName : String := "webhooks"

/-- Reads the section. -/
def ofTree (root : Json) : Except SettingsError WebhookSettings := do
  let s ← sectionOf root sectionName
  let d : WebhookSettings := {}
  let interval ← s.read 0 "refresh_interval_seconds" word64?
  let window ← s.read 1 "health_window_minutes" word64?
  let threshold ← s.read 2 "failure_threshold_percent" double?
  let disable ← s.read 3 "auto_disable" flag?
  return ⟨interval.getD d.refreshIntervalSeconds, window.getD d.healthWindowMinutes,
    threshold.getD d.failureThresholdPercent, disable.getD d.autoDisable⟩

/-- The section that writes the settings. -/
def toTree (w : WebhookSettings) : Json :=
  .object (Json.Members.ofList [
    ("refresh_interval_seconds", .number (.integer w.refreshIntervalSeconds.toNat)),
    ("health_window_minutes", .number (.integer w.healthWindowMinutes.toNat)),
    ("failure_threshold_percent", .number (.float w.failureThresholdPercent)),
    ("auto_disable", .bool w.autoDisable)])

end WebhookSettings

namespace DatabaseSettings

/-- The name of the section. -/
def sectionName : String := "database"

/-- Reads the section. -/
def ofTree (root : Json) : Except SettingsError DatabaseSettings := do
  let s ← sectionOf root sectionName
  let d : DatabaseSettings := {}
  let url ← s.read 0 "url" text?
  let most ← s.read 1 "max_connections" word32?
  let least ← s.read 2 "min_connections" word32?
  let migrations ← s.read 3 "run_migrations" flag?
  return ⟨← required sectionName url, most.getD d.maxConnections, least.getD d.minConnections,
    migrations.getD d.runMigrations⟩

/-- The section that writes the settings. -/
def toTree (d : DatabaseSettings) : Json :=
  .object (Json.Members.ofList [("url", .string d.url),
    ("max_connections", .number (.integer d.maxConnections.toNat)),
    ("min_connections", .number (.integer d.minConnections.toNat)),
    ("run_migrations", .bool d.runMigrations)])

end DatabaseSettings

namespace FeedSettings

/-- The name of the section. -/
def sectionName : String := "events"

/-- Reads the section, which may be missing. -/
def ofTree (root : Json) : Except SettingsError FeedSettings :=
  match Json.Members.find? sectionName (tableOf root) with
  | none => .ok {}
  | some _ => do
    let s ← sectionOf root sectionName
    let capacity ← s.read 0 "stream_capacity" word64?
    return ⟨capacity.getD ({} : FeedSettings).capacity⟩

/-- The section that writes the settings. -/
def toTree (f : FeedSettings) : Json :=
  .object (Json.Members.ofList [("stream_capacity", .number (.integer f.capacity.toNat))])

end FeedSettings

namespace Settings

/-- Reads all settings from a tree. -/
def ofTree (root : Json) : Except SettingsError Settings := do
  return ⟨← BrokerSettings.ofTree root, ← HttpSettings.ofTree root, ← WebhookSettings.ofTree root,
    ← DatabaseSettings.ofTree root, ← FeedSettings.ofTree root⟩

/-- The tree that writes all settings. -/
def toTree (s : Settings) : Json :=
  .object (Json.Members.ofList [(BrokerSettings.sectionName, s.broker.toTree),
    (HttpSettings.sectionName, s.http.toTree), (WebhookSettings.sectionName, s.webhooks.toTree),
    (DatabaseSettings.sectionName, s.database.toTree), (FeedSettings.sectionName, s.feed.toTree)])

end Settings
end WebhookRelay

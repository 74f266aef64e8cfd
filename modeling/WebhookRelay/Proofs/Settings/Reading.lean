-- SUMMARY: The fifteen settings one by one: where each stands in a tree, and how it is read.
import WebhookRelay.Proofs.Json.Members
import WebhookRelay.Settings.Sections

/-!
# Single settings

Settings are read section by section. `Setting` names each of them by itself, with the section and
the key that it stands under, the kind of value that it holds and the conversion to that kind.

A setting with a value under its key in the tree depends on nothing else there: what is read for it
is what that value converts to, and reading fails if it does not convert (`outcome_ofTree`). The
tree that settings are written to has such a value for each of them (`leaf?_toTree`), and it
converts back (`convert?_write`).
-/

namespace WebhookRelay

/-- A setting. -/
inductive Setting where
  | brokerUrl
  | exchange
  | queue
  | prefetch
  | timeout
  | redirects
  | refreshInterval
  | healthWindow
  | failureThreshold
  | autoDisable
  | databaseUrl
  | mostConnections
  | leastConnections
  | migrations
  | feedCapacity
  deriving DecidableEq, Repr

namespace Setting

/-- The section that a setting belongs to. -/
def table : Setting → String
  | brokerUrl | exchange | queue | prefetch => "amqp"
  | timeout | redirects => "http"
  | refreshInterval | healthWindow | failureThreshold | autoDisable => "webhooks"
  | databaseUrl | mostConnections | leastConnections | migrations => "database"
  | feedCapacity => "events"

/-- The key of a setting in its section. -/
def key : Setting → String
  | brokerUrl | databaseUrl => "url"
  | exchange => "exchange"
  | queue => "queue"
  | prefetch => "prefetch"
  | timeout => "timeout_ms"
  | redirects => "max_redirects"
  | refreshInterval => "refresh_interval_seconds"
  | healthWindow => "health_window_minutes"
  | failureThreshold => "failure_threshold_percent"
  | autoDisable => "auto_disable"
  | mostConnections => "max_connections"
  | leastConnections => "min_connections"
  | migrations => "run_migrations"
  | feedCapacity => "stream_capacity"

/-- Section and key as a report names them. -/
def path (k : Setting) : String :=
  k.table ++ "." ++ k.key

/-- What a setting holds. -/
abbrev Value : Setting → Type
  | brokerUrl | exchange | queue | databaseUrl => String
  | prefetch => UInt16
  | timeout | redirects | refreshInterval | healthWindow | feedCapacity => UInt64
  | mostConnections | leastConnections => UInt32
  | failureThreshold => Float
  | autoDisable | migrations => Bool

/-- The conversion of a value to what the setting holds. -/
def convert? : (k : Setting) → Json → Option k.Value
  | brokerUrl | exchange | queue | databaseUrl => Settings.text?
  | prefetch => Settings.word16?
  | timeout | redirects | refreshInterval | healthWindow | feedCapacity => Settings.word64?
  | mostConnections | leastConnections => Settings.word32?
  | failureThreshold => Settings.double?
  | autoDisable | migrations => Settings.flag?

/-- What the settings hold for a setting. -/
def get : (k : Setting) → Settings → k.Value
  | brokerUrl, s => s.broker.url
  | exchange, s => s.broker.exchange
  | queue, s => s.broker.queue
  | prefetch, s => s.broker.prefetch
  | timeout, s => s.http.timeoutMs
  | redirects, s => s.http.maxRedirects
  | refreshInterval, s => s.webhooks.refreshIntervalSeconds
  | healthWindow, s => s.webhooks.healthWindowMinutes
  | failureThreshold, s => s.webhooks.failureThresholdPercent
  | autoDisable, s => s.webhooks.autoDisable
  | databaseUrl, s => s.database.url
  | mostConnections, s => s.database.maxConnections
  | leastConnections, s => s.database.minConnections
  | migrations, s => s.database.runMigrations
  | feedCapacity, s => s.feed.capacity

end Setting

namespace Settings

/-! ## Leaves of a tree -/

/-- The value under a key of a section that is a table. -/
def leaf? (root : Json) (table key : String) : Option Json :=
  match Json.Members.find? table (tableOf root) with
  | some (.object members) => Json.Members.find? key members
  | _ => none

theorem exists_members {root v : Json} {table key : String} (h : leaf? root table key = some v) :
    ∃ members, Json.Members.find? table (tableOf root) = some (.object members) ∧
      Json.Members.find? key members = some v := by
  unfold leaf? at h
  split at h
  · next members htable => exact ⟨members, htable, h⟩
  · cases h

/-- A section is a table, in which settings are looked up by their keys, or has none of them. -/
theorem leaf?_cases (root : Json) (table : String) :
    (∃ members, Json.Members.find? table (tableOf root) = some (.object members) ∧
      sectionOf root table = .ok fun _ key =>
        (leaf? root table key).map (table ++ "." ++ key, ·)) ∨
    ∀ key, leaf? root table key = none := by
  by_cases h : ∃ members, Json.Members.find? table (tableOf root) = some (.object members)
  · obtain ⟨members, htable⟩ := h
    refine .inl ⟨members, htable, ?_⟩
    simp only [sectionOf, leaf?, htable]
  · refine .inr fun key => ?_
    unfold leaf?
    split
    · next members htable => exact absurd ⟨members, htable⟩ h
    · rfl

/-! ## Reading -/

/-- What holds of the error, and what holds of the result, of a reading. -/
def Outcome {α : Type} (fault : SettingsError → Prop) (result : α → Prop) :
    Except SettingsError α → Prop
  | .ok a => result a
  | .error e => fault e

theorem Outcome.bind {α β : Type} {fault : SettingsError → Prop} {between : α → Prop}
    {result : β → Prop} {x : Except SettingsError α} {f : α → Except SettingsError β}
    (hx : Outcome fault between x) (hf : ∀ a, between a → Outcome fault result (f a)) :
    Outcome fault result (x >>= f) := by
  cases x with
  | ok a => exact hf a hx
  | error e => exact hx

/-- Whether an error has a reason in a tree: a setting without a value, or one whose value does not
convert and whose path the error names. -/
def Fault (root : Json) (e : SettingsError) : Prop :=
  (∃ k : Setting, leaf? root k.table k.key = none) ∨
  ∃ (k : Setting) (v : Json), leaf? root k.table k.key = some v ∧ k.convert? v = none ∧
    e = .unsuitable k.path

/-- Whether reading found the value of a setting, should the tree have one. -/
def Found (root : Json) (k : Setting) (found : Option k.Value) : Prop :=
  ∀ v, leaf? root k.table k.key = some v → ∃ a, found = some a ∧ k.convert? v = some a

/-- Whether a value is that of a setting, should the tree have one. -/
def Reads (root : Json) (k : Setting) (a : k.Value) : Prop :=
  ∀ v, leaf? root k.table k.key = some v → k.convert? v = some a

section

variable {root : Json} {k : Setting}

theorem Found.getD {found : Option k.Value} (h : Found root k found) (default : k.Value) :
    Reads root k (found.getD default) := by
  intro v hv
  obtain ⟨a, rfl, ha⟩ := h v hv
  exact ha

theorem outcome_read (root : Json) (k : Setting) (place : Nat) :
    Outcome (Fault root) (Found root k)
      (Section.read (fun _ key => (leaf? root k.table key).map (k.table ++ "." ++ key, ·)) place
        k.key k.convert?) := by
  cases hleaf : leaf? root k.table k.key with
  | none =>
    simp only [Section.read, hleaf, Option.map_none]
    intro v hv
    rw [hleaf] at hv
    cases hv
  | some v =>
    simp only [Section.read, hleaf, Option.map_some]
    cases hconvert : k.convert? v with
    | none => exact .inr ⟨k, v, hleaf, hconvert, rfl⟩
    | some a =>
      intro w hw
      rw [hleaf] at hw
      cases hw
      exact ⟨a, rfl, hconvert⟩

theorem outcome_required {found : Option k.Value} (h : Found root k found) (name : String) :
    Outcome (Fault root) (Reads root k) (required name found) := by
  cases found with
  | none =>
    refine .inl ⟨k, Option.eq_none_iff_forall_ne_some.2 fun v hv => ?_⟩
    obtain ⟨a, ha, -⟩ := h v hv
    cases ha
  | some a => exact h.getD a

/-- Whatever is read of a tree that lacks settings is as well. -/
theorem outcome_of_missing {α : Type} {result : α → Prop} {x : Except SettingsError α}
    (h : leaf? root k.table k.key = none) (hresult : ∀ a, result a) :
    Outcome (Fault root) result x := by
  cases x with
  | ok a => exact hresult a
  | error e => exact .inl ⟨k, h⟩

theorem reads_of_missing (h : leaf? root k.table k.key = none) (a : k.Value) : Reads root k a := by
  intro v hv
  rw [h] at hv
  cases hv

theorem outcome_broker (root : Json) :
    Outcome (Fault root) (fun b => Reads root .brokerUrl b.url ∧ Reads root .exchange b.exchange ∧
        Reads root .queue b.queue ∧ Reads root .prefetch b.prefetch)
      (BrokerSettings.ofTree root) := by
  rcases leaf?_cases root "amqp" with ⟨_, -, hsection⟩ | hnone
  · rw [BrokerSettings.ofTree, BrokerSettings.sectionName, hsection]
    refine (outcome_read root .brokerUrl 0).bind fun url hurl => ?_
    refine (outcome_read root .exchange 1).bind fun exchange hexchange => ?_
    refine (outcome_read root .queue 2).bind fun queue hqueue => ?_
    refine (outcome_read root .prefetch 3).bind fun prefetch hprefetch => ?_
    refine (outcome_required hurl "amqp").bind fun url hurl => ?_
    exact ⟨hurl, hexchange.getD _, hqueue.getD _, hprefetch.getD _⟩
  · refine outcome_of_missing (k := .brokerUrl) (hnone _) fun b => ⟨?_, ?_, ?_, ?_⟩
    all_goals exact reads_of_missing (hnone _) _

theorem outcome_http (root : Json) :
    Outcome (Fault root) (fun s => Reads root .timeout s.timeoutMs ∧
        Reads root .redirects s.maxRedirects)
      (HttpSettings.ofTree root) := by
  rcases leaf?_cases root "http" with ⟨_, -, hsection⟩ | hnone
  · rw [HttpSettings.ofTree, HttpSettings.sectionName, hsection]
    refine (outcome_read root .timeout 0).bind fun timeout htimeout => ?_
    refine (outcome_read root .redirects 1).bind fun redirects hredirects => ?_
    exact ⟨htimeout.getD _, hredirects.getD _⟩
  · refine outcome_of_missing (k := .timeout) (hnone _) fun s => ⟨?_, ?_⟩
    all_goals exact reads_of_missing (hnone _) _

theorem outcome_webhooks (root : Json) :
    Outcome (Fault root) (fun w => Reads root .refreshInterval w.refreshIntervalSeconds ∧
        Reads root .healthWindow w.healthWindowMinutes ∧
        Reads root .failureThreshold w.failureThresholdPercent ∧
        Reads root .autoDisable w.autoDisable)
      (WebhookSettings.ofTree root) := by
  rcases leaf?_cases root "webhooks" with ⟨_, -, hsection⟩ | hnone
  · rw [WebhookSettings.ofTree, WebhookSettings.sectionName, hsection]
    refine (outcome_read root .refreshInterval 0).bind fun interval hinterval => ?_
    refine (outcome_read root .healthWindow 1).bind fun window hwindow => ?_
    refine (outcome_read root .failureThreshold 2).bind fun threshold hthreshold => ?_
    refine (outcome_read root .autoDisable 3).bind fun disable hdisable => ?_
    exact ⟨hinterval.getD _, hwindow.getD _, hthreshold.getD _, hdisable.getD _⟩
  · refine outcome_of_missing (k := .autoDisable) (hnone _) fun w => ⟨?_, ?_, ?_, ?_⟩
    all_goals exact reads_of_missing (hnone _) _

theorem outcome_database (root : Json) :
    Outcome (Fault root) (fun d => Reads root .databaseUrl d.url ∧
        Reads root .mostConnections d.maxConnections ∧
        Reads root .leastConnections d.minConnections ∧ Reads root .migrations d.runMigrations)
      (DatabaseSettings.ofTree root) := by
  rcases leaf?_cases root "database" with ⟨_, -, hsection⟩ | hnone
  · rw [DatabaseSettings.ofTree, DatabaseSettings.sectionName, hsection]
    refine (outcome_read root .databaseUrl 0).bind fun url hurl => ?_
    refine (outcome_read root .mostConnections 1).bind fun most hmost => ?_
    refine (outcome_read root .leastConnections 2).bind fun least hleast => ?_
    refine (outcome_read root .migrations 3).bind fun migrations hmigrations => ?_
    refine (outcome_required hurl "database").bind fun url hurl => ?_
    exact ⟨hurl, hmost.getD _, hleast.getD _, hmigrations.getD _⟩
  · refine outcome_of_missing (k := .databaseUrl) (hnone _) fun d => ⟨?_, ?_, ?_, ?_⟩
    all_goals exact reads_of_missing (hnone _) _

theorem outcome_feed (root : Json) :
    Outcome (Fault root) (fun f => Reads root .feedCapacity f.capacity)
      (FeedSettings.ofTree root) := by
  rcases leaf?_cases root "events" with ⟨members, hfound, hsection⟩ | hnone
  · simp only [FeedSettings.ofTree, FeedSettings.sectionName, hfound, hsection]
    refine (outcome_read root .feedCapacity 0).bind fun capacity hcapacity => ?_
    exact hcapacity.getD _
  · exact outcome_of_missing (k := .feedCapacity) (hnone _) fun f => reads_of_missing (hnone _) _

/-- Reading a tree gives every setting that has a value there what its value converts to. -/
theorem outcome_ofTree (root : Json) :
    Outcome (Fault root) (fun s => ∀ k : Setting, Reads root k (k.get s)) (ofTree root) := by
  refine (outcome_broker root).bind fun broker hbroker => ?_
  refine (outcome_http root).bind fun http hhttp => ?_
  refine (outcome_webhooks root).bind fun webhooks hwebhooks => ?_
  refine (outcome_database root).bind fun database hdatabase => ?_
  refine (outcome_feed root).bind fun feed hfeed => ?_
  intro k
  cases k with
  | brokerUrl => exact hbroker.1
  | exchange => exact hbroker.2.1
  | queue => exact hbroker.2.2.1
  | prefetch => exact hbroker.2.2.2
  | timeout => exact hhttp.1
  | redirects => exact hhttp.2
  | refreshInterval => exact hwebhooks.1
  | healthWindow => exact hwebhooks.2.1
  | failureThreshold => exact hwebhooks.2.2.1
  | autoDisable => exact hwebhooks.2.2.2
  | databaseUrl => exact hdatabase.1
  | mostConnections => exact hdatabase.2.1
  | leastConnections => exact hdatabase.2.2.1
  | migrations => exact hdatabase.2.2.2
  | feedCapacity => exact hfeed

end

/-! ## Writing -/

/-- The value that writes a setting. -/
def write : Setting → Settings → Json
  | .brokerUrl, s => .string s.broker.url
  | .exchange, s => .string s.broker.exchange
  | .queue, s => .string s.broker.queue
  | .prefetch, s => .number (.integer s.broker.prefetch.toNat)
  | .timeout, s => .number (.integer s.http.timeoutMs.toNat)
  | .redirects, s => .number (.integer s.http.maxRedirects.toNat)
  | .refreshInterval, s => .number (.integer s.webhooks.refreshIntervalSeconds.toNat)
  | .healthWindow, s => .number (.integer s.webhooks.healthWindowMinutes.toNat)
  | .failureThreshold, s => .number (.float s.webhooks.failureThresholdPercent)
  | .autoDisable, s => .bool s.webhooks.autoDisable
  | .databaseUrl, s => .string s.database.url
  | .mostConnections, s => .number (.integer s.database.maxConnections.toNat)
  | .leastConnections, s => .number (.integer s.database.minConnections.toNat)
  | .migrations, s => .bool s.database.runMigrations
  | .feedCapacity, s => .number (.integer s.feed.capacity.toNat)

theorem leaf?_ofList {sections members : List (String × Json)} {table key : String} {v : Json}
    (htable : sections.reverse.lookup table = some (.object (Json.Members.ofList members)))
    (hkey : members.reverse.lookup key = some v) :
    leaf? (.object (Json.Members.ofList sections)) table key = some v := by
  simp only [leaf?, tableOf, Json.Members.find?_ofList, htable, hkey]

/-- The tree that settings are written to has a value for each of them. -/
theorem leaf?_toTree (s : Settings) (k : Setting) :
    leaf? s.toTree k.table k.key = some (write k s) := by
  cases k <;> exact leaf?_ofList rfl rfl

theorem whole?_ofNat {bound n : Nat} (h : n < bound) :
    whole? bound (.number (.integer n)) = some n := by
  simp [whole?, h]

theorem word16?_toNat (n : UInt16) : word16? (.number (.integer n.toNat)) = some n := by
  simp [word16?, whole?_ofNat n.toNat_lt]

theorem word32?_toNat (n : UInt32) : word32? (.number (.integer n.toNat)) = some n := by
  simp [word32?, whole?_ofNat n.toNat_lt]

theorem word64?_toNat (n : UInt64) : word64? (.number (.integer n.toNat)) = some n := by
  simp [word64?, whole?_ofNat n.toNat_lt]

/-- What is written for a setting converts back. -/
theorem convert?_write (k : Setting) (s : Settings) : k.convert? (write k s) = some (k.get s) := by
  cases k with
  | prefetch => exact word16?_toNat _
  | mostConnections | leastConnections => exact word32?_toNat _
  | timeout | redirects | refreshInterval | healthWindow | feedCapacity => exact word64?_toNat _
  | brokerUrl | exchange | queue | databaseUrl => rfl
  | failureThreshold | autoDisable | migrations => rfl

end Settings
end WebhookRelay

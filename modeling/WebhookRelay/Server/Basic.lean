-- SUMMARY: Building the server: arguments, settings, database and migrations, in this order.
import WebhookRelay.CommandLine.Basic
import WebhookRelay.Relay
import WebhookRelay.Settings.Load
import WebhookRelay.Store.Database

/-!
# The server

Building a server checks the arguments, loads the settings, connects to the
database and migrates it if the settings say so. The first step that fails ends
it. A feed that is too large for the process is no error of a step: the server
breaks down on it.
-/

namespace WebhookRelay

/-- What the server failed at. -/
inductive ServerError where
  | arguments (complaint : String)
  | settings (error : SettingsError)
  | database (error : InfraError)
  | migrations (error : InfraError)
  /-- The feed cannot be made as large as the settings ask. -/
  | feed
  | loading (error : DispatchError)
  | broker (error : InfraError)
  /-- The task that refreshes the registry broke off. -/
  | refreshing
  | consumer (error : InfraError)

/-- The text of the error. -/
def ServerError.message : ServerError → String
  | .arguments _ => "Invalid command line arguments"
  | .settings _ => "Failed to load configuration"
  | .database _ => "Failed to connect to database"
  | .migrations _ => "Failed to run database migrations"
  | .feed => "Failed to create the event feed"
  | .loading _ => "Failed to load webhooks"
  | .broker _ => "Failed to connect to message broker"
  | .refreshing => "Refresh scheduler task failed"
  | .consumer _ => "Queue consumer stopped with an error"

/-- What the server finds around it. -/
structure Surroundings where
  files : FileTree
  /-- The environment variables. -/
  environment : List (String × String)
  /-- The database server at a URL. -/
  database? : String → Option Database
  network : Network

/-- A server that was built. -/
structure Server where
  settings : Settings
  database : Database
  network : Network

namespace Server

/-- Loads the settings that the arguments ask for. -/
def loadSettings (a : Arguments) (around : Surroundings) : Except SettingsError Settings :=
  match a.settingsFile with
  | some path => Settings.loadFile around.files path around.environment
  | none => Settings.load Settings.defaultScope around.environment

/-- Connects to the database. A pool without connections never gets one. -/
def connect (d : DatabaseSettings) (around : Surroundings) : Except InfraError Database :=
  match around.database? d.url with
  | some database =>
    if d.maxConnections = 0 then .error (.database "the pool has no connections") else .ok database
  | none => .error (.database "there is no database at the URL")

/-- Migrates the database if the settings say so. -/
def migrate (d : DatabaseSettings) (database : Database) : Except InfraError Unit × Database :=
  if d.runMigrations then database.migrate else (.ok (), database)

/-- Builds a server. Of the feed only the bound on its capacity is checked: that there is memory
for its ring is taken for granted. -/
def build (a : Arguments) (around : Surroundings) : Except ServerError Server := do
  if let some complaint := a.complaint? around.files then throw (.arguments complaint)
  let settings ← (loadSettings a around).mapError .settings
  let database ← (connect settings.database around).mapError .database
  let (result, database) := migrate settings.database database
  result.mapError .migrations
  if settings.feed.capacity.toNat ≤ Feed.maxCapacity then
    return ⟨settings, database, around.network⟩
  else throw .feed

/-- What the server sends to webhooks with. -/
def outlet (s : Server) : Outlet :=
  ⟨s.network, s.settings.http.maxRedirects.toNat⟩

/-- The relay of the server, before the registry is loaded. -/
def relay (s : Server) : Relay :=
  .ofRepository s.settings.webhooks.healthPolicy s.settings.feed.capacity.toNat
    s.database.repository

end Server
end WebhookRelay

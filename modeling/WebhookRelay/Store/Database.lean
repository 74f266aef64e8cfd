-- SUMMARY: A database that may not answer: the store's four operations and the migrations.
import WebhookRelay.Store.Basic
import WebhookRelay.Store.Table

/-!
# The database

The table behind a connection. When the database does not answer, every
statement fails and nothing changes. The operations have the meaning of those of
`Repository`; a save can in addition be refused, for a chain that is no integer
or a URL that another id has.

Migrations are applied in the order of their versions, each once. One that was
applied from another text than the known one stops the run.
-/

namespace WebhookRelay

/-- A migration that was applied. -/
structure AppliedMigration where
  version : Nat
  /-- Whether its recorded checksum is that of the known text. -/
  intact : Bool
  deriving DecidableEq, Repr

/-- A database server with the subscription table. -/
structure Database where
  table : Table
  applied : List AppliedMigration
  /-- Whether statements are answered. -/
  answers : Bool

namespace Database

/-- An answering database without rows and migrations. -/
def empty : Database :=
  ⟨.empty, [], true⟩

/-- The database that cannot be reached. -/
def unreachable : Database :=
  { empty with answers := false }

/-- Sends a statement. -/
def send (d : Database) (s : Statement) : Except InfraError StatementResult × Database :=
  if d.answers then
    match d.table.execute s with
    | some (result, table) => (.ok result, { d with table })
    | none => (.error (.database "the URL belongs to another row"), d)
  else (.error (.database "no answer"), d)

/-- The rows that a statement selects. -/
def select (d : Database) (s : Statement) : Except InfraError (List Row) :=
  match (d.send s).1 with
  | .ok (.rows records) =>
    match records.mapM Row.ofRecord? with
    | some rows => .ok rows
    | none => .error (.database "a column is missing")
  | .ok (.affected _) => .ok []
  | .error e => .error e

/-- The active subscriptions. -/
def findActive (d : Database) : Except InfraError (List Subscription) :=
  (d.select .selectActive).map (·.map Row.toSubscription)

/-- The subscription of an id. -/
def find? (d : Database) (id : WebhookId) : Except InfraError (Option Subscription) :=
  (d.select (.selectById id)).map fun rows => rows.head?.map Row.toSubscription

/-- Stores a subscription, replacing the one with its id. -/
def save (d : Database) (s : Subscription) : Except InfraError Unit × Database :=
  match saveStatement s with
  | .error e => (.error e, d)
  | .ok statement =>
    let (result, d) := d.send statement
    (result.map fun _ => (), d)

/-- Switches a subscription off and tells whether it was active. -/
def deactivate (d : Database) (id : WebhookId) : Except InfraError Bool × Database :=
  let (result, d) := d.send (.deactivate id)
  (result.map fun
    | .affected count => count > 0
    | .rows _ => false, d)

/-- The database as the relay reads it: the subscriptions of its rows, and the faults
of a database that does not answer. -/
def repository (d : Database) : Repository :=
  let fault := if d.answers then none else some (InfraError.database "no answer").message
  ⟨.ofList (d.table.rows.map Row.toSubscription), fault, fault⟩

-- ---------------------------------------------------------------------------
-- Migrations
-- ---------------------------------------------------------------------------

/-- The versions of the known migrations, in order. -/
def knownVersions : List Nat :=
  [20240101000000, 20240201000000]

/-- Applies the missing ones of some versions, in order, up to the first that was
applied from another text. -/
def applyVersions (applied : List AppliedMigration) :
    List Nat → Except InfraError Unit × List AppliedMigration
  | [] => (.ok (), applied)
  | version :: rest =>
    match applied.find? (·.version = version) with
    | none => applyVersions (applied ++ [⟨version, true⟩]) rest
    | some m =>
      if m.intact then applyVersions applied rest
      else (.error (.migration ("migration " ++ toString version ++ " was modified")), applied)

/-- Applies the known migrations. -/
def migrate (d : Database) : Except InfraError Unit × Database :=
  if d.answers then
    let (result, applied) := applyVersions d.applied knownVersions
    (result, { d with applied })
  else (.error (.migration "no answer"), d)

/-- Spoils the recorded checksums. -/
def tamper (d : Database) : Database :=
  { d with applied := d.applied.map ({ · with intact := false }) }

/-- The versions applied so far, in order. -/
def versions (d : Database) : List Nat :=
  d.applied.map (·.version)

end Database
end WebhookRelay

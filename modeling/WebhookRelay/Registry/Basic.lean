-- SUMMARY: The registry of active webhooks and its refresh from the store.
import WebhookRelay.Registry.Health

/-!
# The registry

The registry is a snapshot of the active subscriptions, one entry per id. A
refresh first judges the health of the current entries, then reads the store and
replaces the snapshot as a whole. An id that stays keeps its statistics, a new id
starts with none. When the store cannot be read the old snapshot stays.
-/

namespace WebhookRelay

/-- A snapshot of the active webhooks, in the order of their ids. -/
structure Registry where
  entries : List Entry
  ordered : entries.Pairwise (·.id < ·.id)

namespace Registry

/-- A registry without entries. -/
def empty : Registry :=
  ⟨[], .nil⟩

/-- The entry of an id. -/
def find? (r : Registry) (id : WebhookId) : Option Entry :=
  r.entries.find? (·.id = id)

/-- The number of entries. -/
def size (r : Registry) : Nat :=
  r.entries.length

/-- Whether there are no entries. -/
def isEmpty (r : Registry) : Bool :=
  r.entries.isEmpty

end Registry

/-- Summary of a refresh. -/
structure RefreshReport where
  /-- Active subscriptions found in the store. -/
  loaded : Nat
  /-- Entries that kept their statistics. -/
  kept : Nat
  /-- Entries seen for the first time. -/
  added : Nat
  /-- Entries that are no longer active. -/
  dropped : Nat
  verdicts : List Verdict
  deriving DecidableEq

/-- The record of a refresh that succeeded. -/
def RefreshReport.logRecord (r : RefreshReport) : LogRecord :=
  let loaded := ("loaded", toString r.loaded)
  if r.added > 0 ∨ r.dropped > 0 then
    ⟨.info, "Webhook registry updated",
      [loaded, ("added", toString r.added), ("dropped", toString r.dropped)]⟩
  else ⟨.debug, "Webhook registry refreshed", [loaded]⟩

/-- The entry for an active subscription: with the statistics its id has, or new ones. -/
def Registry.entryFor (current : Registry) (now : Time) (ledger : Ledger) (s : Subscription) :
    Entry × Ledger :=
  match current.find? s.id with
  | some e => (⟨s, e.stats⟩, ledger)
  | none =>
    let (key, ledger) := ledger.add (.startingAt now)
    (⟨s, key⟩, ledger)

/-- The entries for active subscriptions. -/
def Registry.entriesFor (current : Registry) (now : Time) (ledger : Ledger) :
    List Subscription → List Entry × Ledger
  | [] => ([], ledger)
  | s :: rest =>
    let (entry, ledger) := current.entryFor now ledger s
    let (entries, ledger) := current.entriesFor now ledger rest
    (entry :: entries, ledger)

theorem Registry.entryFor_subscription (current : Registry) (now : Time) (ledger : Ledger)
    (s : Subscription) : (current.entryFor now ledger s).1.subscription = s := by
  unfold Registry.entryFor
  split <;> rfl

theorem Registry.map_subscription_entriesFor (current : Registry) (now : Time) (ledger : Ledger)
    (ss : List Subscription) :
    (current.entriesFor now ledger ss).1.map (·.subscription) = ss := by
  induction ss generalizing ledger with
  | nil => rfl
  | cons s ss ih => simp [Registry.entriesFor, Registry.entryFor_subscription, ih]

theorem Registry.ordered_entriesFor (current : Registry) (now : Time) (ledger : Ledger)
    {ss : List Subscription} (h : ss.Pairwise (·.id < ·.id)) :
    (current.entriesFor now ledger ss).1.Pairwise (·.id < ·.id) := by
  rw [← Registry.map_subscription_entriesFor current now ledger ss, List.pairwise_map] at h
  exact h

/-- What a refresh leaves behind. -/
structure Refreshed where
  repository : Repository
  ledger : Ledger
  registry : Registry
  result : Except DispatchError RefreshReport
  log : List LogRecord

namespace Registry

/-- The new snapshot for the rows of a store, and the counts of the report. -/
def reload (current : Registry) (now : Time) (ledger : Ledger) (store : Store)
    (verdicts : List Verdict) : Registry × Ledger × RefreshReport :=
  let made := current.entriesFor now ledger store.active
  let next : Registry :=
    ⟨made.1, current.ordered_entriesFor now ledger (store.ordered.filter _)⟩
  let kept := (next.entries.filter fun e => (current.find? e.id).isSome).length
  let added := (next.entries.filter fun e => (current.find? e.id).isNone).length
  let dropped := (current.entries.filter fun e => (next.find? e.id).isNone).length
  (next, made.2, ⟨next.size, kept, added, dropped, verdicts⟩)

/-- Judges the current entries at the time `checked`, then replaces the snapshot
by the active subscriptions of the store, if they can be read; windows of new
entries open at the time `loaded`. -/
def tryRefresh (p : HealthPolicy) (checked loaded : Time) (repository : Repository)
    (ledger : Ledger) (current : Registry) : Refreshed :=
  let c := checkHealth p checked repository ledger current.entries
  match c.repository.findActive with
  | .error e => ⟨c.repository, c.ledger, current, .error (.repository e), c.log⟩
  | .ok _ =>
    let (next, ledger, report) := current.reload loaded c.ledger c.repository.store c.verdicts
    ⟨c.repository, ledger, next, .ok report, c.log ++ [report.logRecord]⟩

/-- The record of a refresh whose error nobody takes. -/
def failureRecord (e : DispatchError) : LogRecord :=
  ⟨.error, "Failed to refresh webhooks, keeping previous snapshot", [("error", e.message)]⟩

end Registry
end WebhookRelay

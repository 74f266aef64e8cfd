-- SUMMARY: The store of subscriptions: a finite map from ids, and a repository that may fail.
import WebhookRelay.Error
import WebhookRelay.Store.Rows

/-!
# The store of subscriptions

`Store` is a finite map from ids to subscriptions, kept as rows in the order of
their ids. `Repository` is a store behind a connection that may be broken: each
of the two operations the relay itself uses can be made to fail.
-/

namespace WebhookRelay

/-- A finite map from ids to subscriptions. -/
structure Store where
  rows : List Subscription
  ordered : rows.Pairwise (·.id < ·.id)

namespace Store

/-- A store without rows. -/
def empty : Store :=
  ⟨[], .nil⟩

/-- Stores a subscription, replacing the one with its id. -/
def save (store : Store) (s : Subscription) : Store :=
  ⟨insertRow (·.id) s store.rows, pairwise_insertRow store.ordered⟩

/-- Stores subscriptions one after the other. -/
def ofList (subscriptions : List Subscription) : Store :=
  subscriptions.foldl save empty

/-- The subscription with an id. -/
def find? (store : Store) (id : WebhookId) : Option Subscription :=
  store.rows.find? (·.id = id)

/-- The active subscriptions. -/
def active (store : Store) : List Subscription :=
  store.rows.filter (·.isActive)

/-- Switches a subscription off. Tells whether it was stored and active; otherwise
nothing changes. -/
def deactivate (store : Store) (id : WebhookId) : Bool × Store :=
  match store.find? id with
  | some s => if s.isActive then (true, store.save { s with isActive := false }) else (false, store)
  | none => (false, store)

/-- The store without the row of an id. -/
def erase (store : Store) (id : WebhookId) : Store :=
  ⟨store.rows.filter (·.id ≠ id), store.ordered.filter _⟩

/-- Removes a row, which must exist. -/
def remove (store : Store) (id : WebhookId) : Except RelayError Store :=
  if (store.find? id).isSome then .ok (store.erase id) else .error (.notFound id.text)

/-- The number of rows. -/
def size (store : Store) : Nat :=
  store.rows.length

/-- Whether there are no rows. -/
def isEmpty (store : Store) : Bool :=
  store.rows.isEmpty

end Store

/-- A store and the faults of the connection to it. -/
structure Repository where
  store : Store
  /-- Why reading the active subscriptions fails. -/
  findFault : Option String
  /-- Why switching a subscription off fails. -/
  deactivateFault : Option String

namespace Repository

/-- A store that can be reached. -/
def ofStore (store : Store) : Repository :=
  ⟨store, none, none⟩

/-- Reads the active subscriptions. -/
def findActive (r : Repository) : Except RelayError (List Subscription) :=
  r.findFault.elim (.ok r.store.active) fun text => .error (.storage text)

/-- Switches a subscription off and tells whether it was active. -/
def deactivate (r : Repository) (id : WebhookId) : Except RelayError Bool × Repository :=
  match r.deactivateFault with
  | some text => (.error (.storage text), r)
  | none =>
    let (changed, store) := r.store.deactivate id
    (.ok changed, { r with store })

end Repository
end WebhookRelay

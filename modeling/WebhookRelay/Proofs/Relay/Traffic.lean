-- SUMMARY: Deliveries, refreshes and registrations at once: a relay whose actions are cut into steps that come between each other.
import WebhookRelay.Proofs.Relay.Step
import WebhookRelay.Proofs.Run

/-!
# Traffic

A relay is at work on several things at once. Posting an event begins its deliveries,
each of which comes to its end at a time of its own. A refresh takes up the registry,
evaluates its entries one by one in any order, reads the store, and puts the new
registry in the place of the old one. Registrations edit the store at any time.
Refreshes are the exception: one task carries them out, so that one begins after the
other has ended.

`Traffic.step?` says which of these steps can be taken and what they do, in terms of
what the relay does in one go; `Traffic.step_of_step?` opens it once and for all.
-/

namespace WebhookRelay

/-- What happens to the store from outside. -/
inductive StoreEdit where
  /-- A registration is stored or changed. -/
  | save (s : Subscription)
  /-- A registration is deleted. -/
  | remove (id : WebhookId)
  /-- The connection to the store changes: why reading it and why switching off fail from now on. -/
  | connect (findFault deactivateFault : Option String)

/-- The repository after an edit. -/
def Repository.edit (r : Repository) : StoreEdit → Repository
  | .save s => { r with store := r.store.save s }
  | .remove id => { r with store := r.store.erase id }
  | .connect findFault deactivateFault => { r with findFault, deactivateFault }

/-- A refresh that is under way. -/
structure Refreshing where
  /-- The registry that it took up. -/
  current : Registry
  /-- The time of its health check. -/
  checked : Time
  /-- The entries that were not evaluated yet. -/
  pending : List Entry
  verdicts : List Verdict
  log : List LogRecord
  /-- The store as it was when it was read. -/
  found : Option Store

/-- A delivery that has come to its end. -/
structure Settlement where
  /-- The place of the delivery among all that were begun. -/
  number : Nat
  delivery : InFlight
  outcome : Outcome
  requests : List HttpRequest

/-- A relay with all that is under way. -/
structure Traffic where
  relay : Relay
  /-- The deliveries that were ever begun, in order. -/
  begun : List InFlight
  /-- The deliveries that have come to their end, in the order they did. -/
  settled : List Settlement
  refreshing : Option Refreshing

/-- A step of something under way. -/
inductive TrafficEvent where
  | edited (edit : StoreEdit)
  /-- A message arrives, and the deliveries of its event begin. -/
  | received (payload : ByteArray)
  /-- The deliveries of an event begin that did not come as a message. -/
  | posted (e : Event)
  | settled (number : Nat) (outlet : Outlet)
  | refreshBegan (checked : Time)
  | evaluated (e : Entry)
  | storeRead
  | swapped (loaded : Time)

/-- The edit of the store that a step is. -/
def TrafficEvent.edit? : TrafficEvent → Option StoreEdit
  | .edited edit => some edit
  | _ => none

/-- The event whose deliveries begin with a step. -/
def TrafficEvent.event? : TrafficEvent → Option Event
  | .received payload => (Event.ofPayload payload).toOption
  | .posted e => some e
  | _ => none

/-- The number of the delivery that comes to its end with a step. -/
def TrafficEvent.settles? : TrafficEvent → Option Nat
  | .settled number _ => some number
  | _ => none

namespace Traffic

/-- A relay with nothing under way. -/
def start (r : Relay) : Traffic :=
  ⟨r, [], [], none⟩

/-- Begins the deliveries of an event. -/
def post (t : Traffic) (e : Event) : Traffic :=
  { t with begun := t.begun ++ t.relay.capture e }

/-- Takes a message up: drops it, or publishes and posts the event it holds. -/
def receive (t : Traffic) (payload : ByteArray) : Traffic :=
  match Event.ofPayload payload with
  | .error _ => t
  | .ok e => post { t with relay := { t.relay with feed := t.relay.feed.publish e } } e

/-- Whether a delivery has come to its end. -/
def isSettled (t : Traffic) (number : Nat) : Bool :=
  t.settled.any (·.number = number)

/-- Brings a delivery to its end. -/
def settle? (t : Traffic) (number : Nat) (outlet : Outlet) : Option Traffic := do
  let d ← t.begun[number]?
  if t.isSettled number then none
  else
    let (outcome, requests) := outlet.deliver d.entry.subscription d.body
    some { t with
      relay := t.relay.settle d outcome
      settled := t.settled ++ [⟨number, d, outcome, requests⟩] }

/-- Begins a refresh when none is under way. -/
def beginRefresh? (t : Traffic) (checked : Time) : Option Traffic :=
  if t.refreshing.isNone then
    some { t with
      refreshing := some ⟨t.relay.registry, checked, t.relay.registry.entries, [], [], none⟩ }
  else none

/-- The health check of a refresh as it stands. -/
def checkup (t : Traffic) (f : Refreshing) : Checkup :=
  ⟨t.relay.repository, t.relay.ledger, f.verdicts, f.log⟩

/-- Goes on with a health check as it stands and the entries that it has still to evaluate. -/
def withCheckup (t : Traffic) (f : Refreshing) (c : Checkup) (pending : List Entry) : Traffic :=
  { t with
    relay := { t.relay with repository := c.repository, ledger := c.ledger }
    refreshing := some { f with pending, verdicts := c.verdicts, log := c.log } }

@[simp] theorem ledger_checkup (t : Traffic) (f : Refreshing) :
    (t.checkup f).ledger = t.relay.ledger := rfl

@[simp] theorem ledger_withCheckup (t : Traffic) (f : Refreshing) (c : Checkup)
    (pending : List Entry) : (t.withCheckup f c pending).relay.ledger = c.ledger := rfl

/-- Evaluates an entry. -/
def evaluate? (t : Traffic) (e : Entry) : Option Traffic := do
  let f ← t.refreshing
  if e ∈ f.pending then
    some (t.withCheckup f ((t.checkup f).visit t.relay.policy f.checked e) (f.pending.erase e))
  else none

/-- Reads the store once every entry was evaluated. A refresh that cannot read it ends. -/
def readStore? (t : Traffic) : Option Traffic := do
  let f ← t.refreshing
  if f.pending.isEmpty ∧ f.found.isNone then
    match t.relay.repository.findActive with
    | .error _ => some { t with refreshing := none }
    | .ok _ => some { t with refreshing := some { f with found := some t.relay.repository.store } }
  else none

/-- Puts the new registry in the place of the old one. -/
def swap? (t : Traffic) (loaded : Time) : Option Traffic := do
  let f ← t.refreshing
  let store ← f.found
  let (registry, ledger, _) := f.current.reload loaded t.relay.ledger store f.verdicts
  some { t with relay := { t.relay with registry, ledger }, refreshing := none }

/-- Takes a step; `none` when it cannot be taken. -/
def step? (t : Traffic) : TrafficEvent → Option Traffic
  | .edited edit =>
    some { t with relay := { t.relay with repository := t.relay.repository.edit edit } }
  | .received payload => some (t.receive payload)
  | .posted e => some (t.post e)
  | .settled number outlet => t.settle? number outlet
  | .refreshBegan checked => t.beginRefresh? checked
  | .evaluated e => t.evaluate? e
  | .storeRead => t.readStore?
  | .swapped loaded => t.swap? loaded

/-- Takes steps, one after the other. -/
def run? (t : Traffic) (events : List TrafficEvent) : Option Traffic :=
  events.foldlM step? t

/-! ## Steps -/

/-- What a step does when it is taken. -/
inductive Step (t : Traffic) : TrafficEvent → Traffic → Prop where
  | edited (edit : StoreEdit) :
      Step t (.edited edit)
        { t with relay := { t.relay with repository := t.relay.repository.edit edit } }
  | dropped (payload : ByteArray) : Step t (.received payload) t
  /-- The deliveries of an event begin; it may have been published before. -/
  | begun (e : TrafficEvent) (feed : Feed) (event : Event) (event? : e.event? = some event) :
      Step t e
        { t with relay := { t.relay with feed }, begun := t.begun ++ t.relay.capture event }
  | settled (number : Nat) (outlet : Outlet) (d : InFlight) (begun : t.begun[number]? = some d)
      (unsettled : number ∉ t.settled.map (·.number)) :
      Step t (.settled number outlet)
        { t with
          relay := t.relay.settle d (d.outcome outlet)
          settled := t.settled ++ [⟨number, d, d.outcome outlet,
            (outlet.deliver d.entry.subscription d.body).2⟩] }
  | refreshBegan (checked : Time) (idle : t.refreshing = none) :
      Step t (.refreshBegan checked)
        { t with
          refreshing := some ⟨t.relay.registry, checked, t.relay.registry.entries, [], [], none⟩ }
  | evaluated (e : Entry) (f : Refreshing) (refreshing : t.refreshing = some f)
      (pending : e ∈ f.pending) :
      Step t (.evaluated e)
        (t.withCheckup f ((t.checkup f).visit t.relay.policy f.checked e) (f.pending.erase e))
  | readFailed : Step t .storeRead { t with refreshing := none }
  | storeRead (f : Refreshing) (refreshing : t.refreshing = some f) (done : f.pending = []) :
      Step t .storeRead
        { t with refreshing := some { f with found := some t.relay.repository.store } }
  | swapped (loaded : Time) (f : Refreshing) (store : Store) (refreshing : t.refreshing = some f)
      (found : f.found = some store) :
      Step t (.swapped loaded)
        { t with
          relay := { t.relay with
            registry := (f.current.reload loaded t.relay.ledger store f.verdicts).1
            ledger := (f.current.reload loaded t.relay.ledger store f.verdicts).2.1 }
          refreshing := none }

theorem step_of_receive (t : Traffic) (payload : ByteArray) :
    t.Step (.received payload) (t.receive payload) := by
  unfold receive
  cases hevent : Event.ofPayload payload with
  | error error => exact .dropped payload
  | ok e =>
    refine .begun _ (t.relay.feed.publish e) e ?_
    rw [TrafficEvent.event?, hevent]
    rfl

theorem isSettled_eq_false_iff (t : Traffic) (number : Nat) :
    t.isSettled number = false ↔ number ∉ t.settled.map (·.number) := by
  simp [isSettled]

/-- Every step that is taken does what `Step` says. -/
theorem step_of_step? {t u : Traffic} {e : TrafficEvent} (h : t.step? e = some u) : t.Step e u := by
  cases e with
  | edited edit =>
    cases h
    exact .edited edit
  | received payload =>
    cases h
    exact step_of_receive t payload
  | posted e =>
    cases h
    exact .begun _ t.relay.feed e rfl
  | settled number outlet =>
    obtain ⟨d, hd, h⟩ := Option.bind_eq_some_iff.1 h
    obtain ⟨hopen, h⟩ := Option.ite_none_left_eq_some.1 h
    cases h
    exact .settled number outlet d hd ((isSettled_eq_false_iff ..).1 (Bool.eq_false_iff.2 hopen))
  | refreshBegan checked =>
    obtain ⟨hidle, h⟩ := Option.ite_none_right_eq_some.1 h
    cases h
    exact .refreshBegan checked (Option.isNone_iff_eq_none.1 hidle)
  | evaluated e =>
    obtain ⟨f, hf, h⟩ := Option.bind_eq_some_iff.1 h
    obtain ⟨hpending, h⟩ := Option.ite_none_right_eq_some.1 h
    cases h
    exact .evaluated e f hf hpending
  | storeRead =>
    obtain ⟨f, hf, h⟩ := Option.bind_eq_some_iff.1 h
    obtain ⟨hdone, h⟩ := Option.ite_none_right_eq_some.1 h
    split at h <;> cases h
    · exact .readFailed
    · exact .storeRead f hf (List.isEmpty_iff.1 hdone.1)
  | swapped loaded =>
    obtain ⟨f, hf, h⟩ := Option.bind_eq_some_iff.1 h
    obtain ⟨store, hstore, h⟩ := Option.bind_eq_some_iff.1 h
    cases h
    exact .swapped loaded f store hf hstore

end Traffic
end WebhookRelay

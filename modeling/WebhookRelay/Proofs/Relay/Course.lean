-- SUMMARY: Courses of a relay: everything that can happen to it, one action after the other.
import WebhookRelay.Relay
import Mathlib.Data.List.Basic

/-!
# Courses

A course is what happens to a relay in the order it happens: registrations edit
the store, the connection to the store breaks and heals, entries are judged, the
registry is refreshed, messages and events are posted to the webhooks.
`Relay.step` carries out one action, `Relay.run` a whole course.

Statements about a course usually speak of the last action of some kind.
`Relay.Never p` says that a course has none, and `exists_last_of_not_never`
finds the last one of a course that has some.
-/

namespace WebhookRelay

namespace Relay

/-- What can happen to a relay. -/
inductive Action where
  /-- A registration is stored or changed. -/
  | save (s : Subscription)
  /-- A registration is switched off. -/
  | deactivate (id : WebhookId)
  /-- A registration is deleted. -/
  | remove (id : WebhookId)
  /-- The connection to the store changes: why reading it and why switching off fail from now on. -/
  | connect (findFault deactivateFault : Option String)
  /-- The entries are judged, and no more. -/
  | check (now : Time)
  /-- The registry is refreshed; the clock is read for the health check and after reading the store. -/
  | refresh (checked loaded : Time)
  /-- A message arrives. -/
  | process (outlet : Outlet) (payload : ByteArray)
  /-- An event is posted that did not come as a message. -/
  | post (outlet : Outlet) (e : Event)

/-- What an action gives back. -/
inductive Answer where
  | done
  | deactivated (result : Except RelayError Bool)
  | removed (result : Except RelayError Unit)
  | checked (verdicts : List Verdict)
  /-- No report when the store could not be read. -/
  | refreshed (report : Option RefreshReport)
  | processed (result : Processed) (requests : List HttpRequest)
  | posted (outcomes : List Outcome) (requests : List HttpRequest)

/-- The outcomes of the deliveries that were made. -/
def Answer.outcomes : Answer → List Outcome
  | .processed (.dispatched outcomes) _ => outcomes
  | .posted outcomes _ => outcomes
  | _ => []

/-- The relay with another store behind the same connection. -/
def withStore (r : Relay) (store : Store) : Relay :=
  { r with repository := { r.repository with store } }

/-- The health check of the current entries. -/
def checkup (r : Relay) (now : Time) : Checkup :=
  checkHealth r.policy now r.repository r.ledger r.registry.entries

/-- Carries out one action. -/
def step (r : Relay) : Action → Relay × Answer
  | .save s => (r.withStore (r.repository.store.save s), .done)
  | .deactivate id =>
    let (result, repository) := r.repository.deactivate id
    ({ r with repository }, .deactivated result)
  | .remove id =>
    match r.repository.store.remove id with
    | .ok store => (r.withStore store, .removed (.ok ()))
    | .error e => (r, .removed (.error e))
  | .connect findFault deactivateFault =>
    ({ r with repository := { r.repository with findFault, deactivateFault } }, .done)
  | .check now =>
    let c := r.checkup now
    ({ r with repository := c.repository, ledger := c.ledger }, .checked c.verdicts)
  | .refresh checked loaded =>
    let (r, report, _) := r.refresh checked loaded
    (r, .refreshed report)
  | .process outlet payload =>
    let (r, result, requests, _) := r.process outlet payload
    (r, .processed result requests)
  | .post outlet e =>
    let (r, posted) := r.post outlet e
    (r, .posted posted.outcomes posted.requests)

/-- The relay after a course. -/
def run (r : Relay) (course : List Action) : Relay :=
  course.foldl (fun r a => (r.step a).1) r

/-- The outcomes of all deliveries that a course makes, in order. -/
def outcomes (r : Relay) : List Action → List Outcome
  | [] => []
  | a :: rest => (r.step a).2.outcomes ++ (r.step a).1.outcomes rest

@[simp] theorem run_append (r : Relay) (front rest : List Action) :
    r.run (front ++ rest) = (r.run front).run rest :=
  List.foldl_append

/-- What every step preserves, a course preserves. -/
theorem run_induction {Inv : Relay → Prop} (hstep : ∀ r a, Inv r → Inv (r.step a).1) {r : Relay}
    (h : Inv r) (course : List Action) : Inv (r.run course) := by
  induction course generalizing r with
  | nil => exact h
  | cons a course ih => exact ih (hstep r a h)

/-! ## The last action of a kind -/

/-- No action of a course, at the relay it meets, is one that `p` tells of. -/
def Never (p : Relay → Action → Prop) (r : Relay) : List Action → Prop
  | [] => True
  | a :: rest => ¬ p r a ∧ Never p (r.step a).1 rest

variable {p : Relay → Action → Prop}

/-- What only the actions of a kind change, a course without them leaves as it is. -/
theorem Never.run_eq {α : Type} {f : Relay → α} (hkeep : ∀ r a, ¬ p r a → f (r.step a).1 = f r)
    {r : Relay} {course : List Action} (h : Never p r course) : f (r.run course) = f r := by
  induction course generalizing r with
  | nil => rfl
  | cons a course ih => exact (ih h.2).trans (hkeep r a h.1)

/-- A course with an action of a kind has a last one. -/
theorem exists_last_of_not_never {r : Relay} {course : List Action} (h : ¬ Never p r course) :
    ∃ before a after, course = before ++ a :: after ∧ p (r.run before) a ∧
      Never p (r.run (before ++ [a])) after := by
  induction course generalizing r with
  | nil => exact absurd trivial h
  | cons a course ih =>
    by_cases hrest : Never p (r.step a).1 course
    · have ha : p r a := by
        by_contra hna
        exact h ⟨hna, hrest⟩
      exact ⟨[], a, course, rfl, ha, hrest⟩
    · obtain ⟨before, b, after, rfl, hb, hafter⟩ := ih hrest
      exact ⟨a :: before, b, after, rfl, hb, hafter⟩

end Relay
end WebhookRelay

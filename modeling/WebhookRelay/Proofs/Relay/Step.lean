-- SUMMARY: One action of a relay: what it does to the registry, to the records and to the webhooks.
import WebhookRelay.Proofs.Registry.Checkup
import WebhookRelay.Proofs.Relay.Course
import WebhookRelay.Proofs.Relay.Posting
import WebhookRelay.Proofs.Store.Memory

/-!
# Actions

`Relay.Effect` says what an action does to the registry and the ledger and which
outcomes it has; `Relay.effect` says that every action has one of these effects.
Whatever a course preserves is shown by cases on the effect, so this is the one
place where the actions are opened.

The first such property is that the entries keep records of their own
(`separated_run`).
-/

namespace WebhookRelay

/-- Reading the store succeeds when the connection is sound, and gives what is active. -/
theorem Repository.findActive_eq_ok_iff (repository : Repository) {found : List Subscription} :
    repository.findActive = .ok found ↔
      repository.findFault = none ∧ repository.store.active = found := by
  unfold Repository.findActive
  cases repository.findFault <;> simp

namespace Relay

/-! ## Refreshes -/

theorem refresh_fst (r : Relay) (checked loaded : Time) :
    (r.refresh checked loaded).1 = (r.tryRefresh checked loaded).1 := by
  unfold refresh
  rcases r.tryRefresh checked loaded with ⟨r', result, log⟩
  cases result <;> rfl

/-- When the store cannot be read, a refresh is a health check. -/
theorem step_refresh_of_error {r : Relay} {checked : Time} (loaded : Time) {e : RelayError}
    (h : (r.checkup checked).repository.findActive = .error e) :
    (r.step (.refresh checked loaded)).1 = (r.step (.check checked)).1 := by
  simp only [step, refresh_fst, tryRefresh, Registry.tryRefresh]
  unfold checkup at h ⊢
  rw [h]

/-- When the store can be read, its active subscriptions make up the registry. -/
theorem step_refresh_of_ok {r : Relay} {checked : Time} (loaded : Time)
    {found : List Subscription} (h : (r.checkup checked).repository.findActive = .ok found) :
    (r.step (.refresh checked loaded)).1.repository = (r.checkup checked).repository ∧
    (r.step (.refresh checked loaded)).1.registry.entries
      = (r.registry.entriesFor loaded (r.checkup checked).ledger found).1 ∧
    (r.step (.refresh checked loaded)).1.ledger
      = (r.registry.entriesFor loaded (r.checkup checked).ledger found).2 := by
  have hactive := ((Repository.findActive_eq_ok_iff _).1 h).2
  simp only [step, refresh_fst, tryRefresh, Registry.tryRefresh]
  unfold checkup at h hactive ⊢
  rw [h]
  simp only [Registry.reload, hactive, and_self]

/-! ## Effects -/

/-- When an action judges the entries. -/
def Action.checked? : Action → Option Time
  | .check now => some now
  | .refresh checked _ => some checked
  | _ => none

/-- What an action does to the registry and the ledger, and the outcomes it has. -/
inductive Effect (r : Relay) (a : Action) : Prop where
  /-- Neither is concerned. -/
  | idle
      (action : a.checked? = none)
      (registry : (r.step a).1.registry = r.registry)
      (ledger : (r.step a).1.ledger = r.ledger)
      (outcomes : (r.step a).2.outcomes = [])
  /-- The entries are judged, and stay. -/
  | judged (now : Time)
      (action : a.checked? = some now)
      (registry : (r.step a).1.registry = r.registry)
      (ledger : (r.step a).1.ledger = (r.checkup now).ledger)
      (outcomes : (r.step a).2.outcomes = [])
  /-- The entries are judged and then replaced by those of the subscriptions found. -/
  | loaded (checked loaded : Time) (found : List Subscription)
      (action : a = .refresh checked loaded)
      (reading : (r.checkup checked).repository.findActive = .ok found)
      (registry : (r.step a).1.registry.entries
        = (r.registry.entriesFor loaded (r.checkup checked).ledger found).1)
      (ledger : (r.step a).1.ledger
        = (r.registry.entriesFor loaded (r.checkup checked).ledger found).2)
      (outcomes : (r.step a).2.outcomes = [])
  /-- An event is posted; it may have been published before. -/
  | posted (outlet : Outlet) (e : Event) (feed : Feed)
      (action : a.checked? = none)
      (registry : (r.step a).1.registry = r.registry)
      (ledger : (r.step a).1.ledger = (post outlet { r with feed } e).1.ledger)
      (outcomes : (r.step a).2.outcomes = (post outlet { r with feed } e).2.outcomes)

theorem process_of_ok (outlet : Outlet) (r : Relay) {payload : ByteArray} {e : Event}
    (h : Event.ofPayload payload = .ok e) :
    r.step (.process outlet payload)
      = let published := post outlet { r with feed := r.feed.publish e } e
        (published.1, .processed (.dispatched published.2.outcomes) published.2.requests) := by
  simp only [step, process, h]

theorem process_of_error (outlet : Outlet) (r : Relay) {payload : ByteArray} {e : EventError}
    (h : Event.ofPayload payload = .error e) :
    r.step (.process outlet payload) = (r, .processed (.dropped e) []) := by
  simp only [step, process, h]

theorem registry_post (outlet : Outlet) (r : Relay) (e : Event) :
    (r.post outlet e).1.registry = r.registry := by
  obtain ⟨l, heq, -⟩ := post_frame outlet r e
  rw [heq]

theorem policy_post (outlet : Outlet) (r : Relay) (e : Event) :
    (r.post outlet e).1.policy = r.policy := by
  obtain ⟨l, heq, -⟩ := post_frame outlet r e
  rw [heq]

theorem length_records_post (outlet : Outlet) (r : Relay) (e : Event) :
    (r.post outlet e).1.ledger.records.length = r.ledger.records.length := by
  obtain ⟨l, heq, hlen⟩ := post_frame outlet r e
  rw [heq, hlen]

/-- Every action has one of the effects. -/
theorem effect (r : Relay) (a : Action) : Effect r a := by
  cases a with
  | save s => exact .idle rfl rfl rfl rfl
  | deactivate id => exact .idle rfl rfl rfl rfl
  | connect findFault deactivateFault => exact .idle rfl rfl rfl rfl
  | remove id =>
    cases h : r.repository.store.remove id with
    | ok store =>
      have heq : r.step (.remove id) = (r.withStore store, .removed (.ok ())) := by
        simp only [step, h]
      exact .idle rfl (by rw [heq]; rfl) (by rw [heq]; rfl) (by rw [heq]; rfl)
    | error e =>
      have heq : r.step (.remove id) = (r, .removed (.error e)) := by
        simp only [step, h]
      exact .idle rfl (by rw [heq]) (by rw [heq]) (by rw [heq]; rfl)
  | check now => exact .judged now rfl rfl rfl rfl
  | refresh checked loaded =>
    cases h : (r.checkup checked).repository.findActive with
    | error e =>
      have heq := step_refresh_of_error loaded h
      exact .judged checked rfl (by rw [heq]; rfl) (by rw [heq]; rfl) rfl
    | ok found =>
      obtain ⟨-, hentries, hledger⟩ := step_refresh_of_ok loaded h
      exact .loaded checked loaded found rfl h hentries hledger rfl
  | process outlet payload =>
    cases h : Event.ofPayload payload with
    | error e =>
      have heq := process_of_error outlet r h
      exact .idle rfl (by rw [heq]) (by rw [heq]) (by rw [heq]; rfl)
    | ok e =>
      have heq := process_of_ok outlet r h
      exact .posted outlet e (r.feed.publish e) rfl (by rw [heq]; exact registry_post outlet _ e)
        (by rw [heq]) (by rw [heq]; rfl)
  | post outlet e => exact .posted outlet e r.feed rfl (registry_post outlet r e) rfl rfl

/-! ## The policy -/

theorem policy_step (r : Relay) (a : Action) : (r.step a).1.policy = r.policy := by
  cases a with
  | save | deactivate | connect | check => rfl
  | remove id =>
    rw [step]
    split <;> rfl
  | refresh checked loaded =>
    rw [step, refresh_fst]
    rfl
  | process outlet payload =>
    cases h : Event.ofPayload payload with
    | error e => rw [process_of_error outlet r h]
    | ok e =>
      rw [process_of_ok outlet r h]
      exact policy_post outlet _ e
  | post outlet e => exact policy_post outlet r e

theorem policy_run (r : Relay) (course : List Action) : (r.run course).policy = r.policy :=
  run_induction (fun m a hm => (policy_step m a).trans hm) rfl course

/-! ## Records of their own -/

/-- The entries of the registry have records of their own. -/
def Separated (r : Relay) : Prop :=
  r.registry.Separated r.ledger

theorem separated_ofRepository (policy : HealthPolicy) (streamCapacity : Nat)
    (repository : Repository) : (ofRepository policy streamCapacity repository).Separated :=
  .empty _

theorem Separated.checkup {r : Relay} (h : r.Separated) (now : Time) :
    r.registry.Separated (r.checkup now).ledger :=
  Registry.Separated.of_length_le h (Nat.le_of_eq (length_records_checkHealth ..).symm)

theorem separated_step (r : Relay) (a : Action) (h : r.Separated) : (r.step a).1.Separated := by
  unfold Separated
  cases r.effect a with
  | idle _ hregistry hledger => rw [hregistry, hledger]; exact h
  | judged now _ hregistry hledger => rw [hregistry, hledger]; exact h.checkup now
  | loaded checked loaded found _ hreading hregistry hledger =>
    have hactive := ((Repository.findActive_eq_ok_iff _).1 hreading).2
    rw [hledger]
    refine Registry.Separated.entriesFor (h.checkup checked) ?_ hregistry
    rw [← hactive]
    exact Store.nodup_ids_active _
  | posted outlet e feed _ hregistry hledger =>
    rw [hregistry, hledger]
    have hlen := length_records_post outlet { r with feed } e
    exact Registry.Separated.of_length_le h (Nat.le_of_eq hlen.symm)

theorem separated_run {r : Relay} (h : r.Separated) (course : List Action) :
    (r.run course).Separated :=
  run_induction separated_step h course

end Relay
end WebhookRelay

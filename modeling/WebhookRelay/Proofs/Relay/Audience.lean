-- SUMMARY: Who is called: the subscriptions that the last load of a course found, as it found them.
import Mathlib
import WebhookRelay.Proofs.Relay.Step

/-!
# The audience

A refresh that can read the store loads the registry: the entries are what it
found, after its own health check. Nothing else changes the subscriptions of the
registry, so at any time they are what the last load found (`subscriptions_run`),
and an event goes to those of them that it is relevant to.
-/

namespace WebhookRelay
namespace Relay

/-! ## Loads -/

/-- What an action loads: the subscriptions that are active once a refresh has judged
the entries, unless reading them fails. Other actions load nothing. -/
def found? (r : Relay) : Action → Option (List Subscription)
  | .refresh checked _ => (r.checkup checked).repository.findActive.toOption
  | _ => none

/-- Whether an action loads the registry. -/
def Loads (r : Relay) (a : Action) : Prop :=
  (r.found? a).isSome

theorem found?_eq_some {r : Relay} {a : Action} {found : List Subscription}
    (h : r.found? a = some found) : ∃ checked loaded, a = .refresh checked loaded ∧
      (r.checkup checked).repository.findActive = .ok found := by
  cases a with
  | refresh checked loaded =>
    refine ⟨checked, loaded, rfl, ?_⟩
    unfold found? at h
    cases hread : (r.checkup checked).repository.findActive with
    | error e => simp [hread, Except.toOption] at h
    | ok ss => simpa [hread, Except.toOption] using h
  | _ => cases h

/-- After a load the registry has the subscriptions found, which the store has active. -/
theorem subscriptions_step_of_found {r : Relay} {a : Action} {found : List Subscription}
    (h : r.found? a = some found) :
    (r.step a).1.registry.subscriptions = found ∧
      (r.step a).1.repository.store.active = found := by
  obtain ⟨checked, loaded, rfl, hread⟩ := found?_eq_some h
  obtain ⟨hrepository, hentries, -⟩ := step_refresh_of_ok loaded hread
  constructor
  · rw [Registry.subscriptions, hentries, Registry.map_subscription_entriesFor]
  · rw [hrepository]
    exact ((Repository.findActive_eq_ok_iff _).1 hread).2

/-- Nothing but a load changes the registry. -/
theorem registry_step_of_not_loads (r : Relay) (a : Action) (h : ¬ Loads r a) :
    (r.step a).1.registry = r.registry := by
  cases r.effect a with
  | idle _ hregistry => exact hregistry
  | judged _ _ hregistry => exact hregistry
  | posted _ _ _ _ hregistry => exact hregistry
  | loaded checked loaded found haction hread =>
    subst haction
    exact absurd (by simp [Loads, found?, hread, Except.toOption]) h

/-- The subscriptions of the registry are those of the last load. -/
theorem subscriptions_run {r : Relay} {before after : List Action} {a : Action}
    {found : List Subscription} (hfound : (r.run before).found? a = some found)
    (hafter : Never Loads (r.run (before ++ [a])) after) :
    (r.run (before ++ a :: after)).registry.subscriptions = found := by
  have hkept := hafter.run_eq registry_step_of_not_loads
  have hloaded := (subscriptions_step_of_found hfound).1
  rw [List.append_cons, run_append, hkept, run_append]
  exact hloaded

/-! ## Answers -/

/-- What comes of delivering a body to some webhooks. -/
def answerFrom (outlet : Outlet) (targets : List Subscription) (body : String) : Answer :=
  .processed (.dispatched (targets.map fun s => (outlet.deliver s body).1))
    (targets.flatMap fun s => (outlet.deliver s body).2)

/-- The answer to a message with a valid event depends on the subscriptions alone. -/
theorem step_process_of_ok (r : Relay) (outlet : Outlet) {payload : ByteArray} {e : Event}
    (h : Event.ofPayload payload = .ok e) :
    (r.step (.process outlet payload)).2
      = answerFrom outlet (r.registry.subscriptions.filter (·.isRelevant e)) e.body := by
  rw [process_of_ok outlet r h]
  simp only [outcomes_post, requests_post]
  rfl

theorem nodup_ids_subscriptions (registry : Registry) (p : Subscription → Bool) :
    ((registry.subscriptions.filter p).map (·.id)).Nodup := by
  have hids : (registry.subscriptions.map (·.id)).Nodup := by
    rw [Registry.subscriptions, List.map_map]
    exact registry.ids_nodup
  exact hids.sublist (List.filter_sublist.map _)

/-- Who is called, over whole courses: the webhooks of the subscriptions that the last
load found and that the event is relevant to, each once, as they were found. Before the
first load and for a rejected message nobody is called. Nothing that happens after a
load, short of another one, makes a difference. -/
theorem audience (policy : HealthPolicy) (streamCapacity : Nat) (repository : Repository)
    (course : List Action) (outlet : Outlet) (payload : ByteArray) :
    let start := ofRepository policy streamCapacity repository
    let answer := fun course => ((start.run course).step (.process outlet payload)).2
    (∀ error, Event.ofPayload payload = .error error →
      answer course = .processed (.dropped error) []) ∧
    (∀ e, Event.ofPayload payload = .ok e → Never Loads start course →
      answer course = .processed (.dispatched []) []) ∧
    (∀ e, Event.ofPayload payload = .ok e → ∀ before a after found,
      course = before ++ a :: after → (start.run before).found? a = some found →
      Never Loads (start.run (before ++ [a])) after →
        let targets := found.filter (·.isRelevant e)
        let outcomes := targets.map fun s => (outlet.deliver s e.body).1
        (start.run (before ++ [a])).repository.store.active = found ∧
        answer course = .processed (.dispatched outcomes)
          (targets.flatMap fun s => (outlet.deliver s e.body).2) ∧
        outcomes.map (fun o => (o.webhookId, o.url)) = targets.map (fun s => (s.id, s.url)) ∧
        (targets.map (·.id)).Nodup) ∧
    (Never Loads start course ∨ ∃ before a after found, course = before ++ a :: after ∧
      (start.run before).found? a = some found ∧
      Never Loads (start.run (before ++ [a])) after) ∧
    (∀ more, Never Loads (start.run course) more → answer (course ++ more) = answer course) := by
  intro start answer
  refine ⟨?rejected, ?unloaded, ?loaded, ?total, ?stable⟩
  case rejected =>
    intro error herror
    simp only [answer, process_of_error outlet _ herror]
  case unloaded =>
    intro e he hnever
    have hempty : (start.run course).registry = .empty :=
      hnever.run_eq registry_step_of_not_loads
    simp only [answer, step_process_of_ok _ outlet he, hempty]
    rfl
  case loaded =>
    intro e he before a after found hcourse hfound hafter targets outcomes
    have hlast := subscriptions_run hfound hafter
    have hactive := (subscriptions_step_of_found hfound).2
    refine ⟨?_, ?_, ?_, ?_⟩
    · rw [run_append]
      exact hactive
    · simp only [answer, hcourse, step_process_of_ok _ outlet he, hlast]
      rfl
    · simp [outcomes]
    · have hnodup := nodup_ids_subscriptions (start.run (before ++ a :: after)).registry
        (·.isRelevant e)
      rw [hlast] at hnodup
      exact hnodup
  case total =>
    by_cases hnever : Never Loads start course
    · exact .inl hnever
    · obtain ⟨before, a, after, hcourse, hloads, hafter⟩ := exists_last_of_not_never hnever
      obtain ⟨found, hfound⟩ := Option.isSome_iff_exists.1 hloads
      exact .inr ⟨before, a, after, found, hcourse, hfound, hafter⟩
  case stable =>
    intro more hmore
    have hkept := hmore.run_eq registry_step_of_not_loads
    cases h : Event.ofPayload payload with
    | error error => simp only [answer, process_of_error outlet _ h]
    | ok e => simp only [answer, step_process_of_ok _ outlet h, run_append, hkept]

/-- A webhook whose registration is deleted after the load is still called. -/
theorem audience_after_removal :
    let hook := Subscription.new ⟨1⟩ "http://[::1]/"
    let outlet : Outlet := ⟨Http.unreachable, 10⟩
    let text := "\x7b\"chainId\":1,\"type\":\"SAFE_CREATED\"\x7d"
    let start := ofRepository .default 16 (.ofStore .empty)
    ((start.run [.save hook, .refresh 0 0, .remove ⟨1⟩]).step (.process outlet text.toUTF8)).2
      = .processed (.dispatched [(outlet.deliver hook text).1]) (outlet.deliver hook text).2 := by
  intro hook outlet text start
  have hdecode : Event.ofPayload text.toUTF8 = .ok ⟨"1", "", "SAFE_CREATED", [], some text⟩ := by
    cbv
  have hrelevant : hook.isRelevant ⟨"1", "", "SAFE_CREATED", [], some text⟩ = true := by
    cbv
  have hfound : (start.run [.save hook]).found? (.refresh 0 0) = some [hook] := by
    simp [found?, run, step, start, ofRepository, withStore, Repository.ofStore, checkup,
      checkHealth, Registry.empty, Checkup.start, Repository.findActive, Store.save, Store.empty,
      insertRow, Store.active, Except.toOption, hook, Subscription.new]
  obtain ⟨-, -, hloaded, -, -⟩ := audience .default 16 (.ofStore .empty)
    [.save hook, .refresh 0 0, .remove ⟨1⟩] outlet text.toUTF8
  obtain ⟨-, hanswer, -, -⟩ := hloaded _ hdecode [.save hook] (.refresh 0 0) [.remove ⟨1⟩] [hook] rfl
    hfound ⟨by simp [Loads, found?], trivial⟩
  simp only [List.filter_cons, hrelevant, if_true, List.filter_nil, List.map_cons, List.map_nil,
    List.flatMap_cons, List.flatMap_nil, List.append_nil] at hanswer
  exact hanswer

end Relay
end WebhookRelay

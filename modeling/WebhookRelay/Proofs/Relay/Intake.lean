-- SUMMARY: What comes in: every valid message is published once, before anything is sent for it, and no other does anything.
import WebhookRelay.Proofs.Feed.Holding
import WebhookRelay.Proofs.Relay.Course
import WebhookRelay.Proofs.Relay.Posting
import WebhookRelay.Proofs.Relay.Serial
import WebhookRelay.Proofs.Relay.Step

/-!
# Intake

The feed gets the event of every valid message, in the order of the messages and once
each, whether it is posted to any webhook or not. This is so for courses
(`Relay.feed_run`) and for traffic (`Traffic.feed_run`), where the deliveries of an event
come to their ends at times of their own.

`Relay.intake` puts the two together: what a course publishes, that a message which is
no event leaves everything as it is, and that an event is published before any request
is sent for it.
-/

namespace WebhookRelay

theorem Feed.Holds.foldl_publish {f : Feed} {all : List Event} (h : f.Holds all)
    (events : List Event) : (events.foldl Feed.publish f).Holds (all ++ events) := by
  induction events generalizing f all with
  | nil => rwa [List.append_nil]
  | cons e events ih =>
    have hrest := ih (h.publish e)
    rwa [List.append_assoc] at hrest

theorem Feed.foldl_publish_filterMap_cons {α : Type} (published? : α → Option Event) (f : Feed)
    (a : α) (rest : List α) :
    ((a :: rest).filterMap published?).foldl publish f
      = (rest.filterMap published?).foldl publish ((published? a).toList.foldl publish f) := by
  cases h : published? a <;> simp [h]

namespace Relay

/-! ## Courses -/

/-- The event that an action publishes. -/
def Action.published? : Action → Option Event
  | .process _ payload => (Event.ofPayload payload).toOption
  | _ => none

/-- An action publishes the event of a valid message, and nothing else. -/
theorem feed_step (r : Relay) (a : Action) :
    (r.step a).1.feed = a.published?.toList.foldl Feed.publish r.feed := by
  cases a with
  | save s => rfl
  | deactivate id => rfl
  | remove id =>
    cases h : r.repository.store.remove id with
    | ok store => rw [step, h]; rfl
    | error e => rw [step, h]; rfl
  | connect findFault deactivateFault => rfl
  | check now => rfl
  | refresh checked loaded =>
    simp only [step, refresh_fst, tryRefresh]
    rfl
  | process outlet payload =>
    cases h : Event.ofPayload payload with
    | error e =>
      rw [process_of_error outlet r h, Action.published?, h]
      rfl
    | ok e =>
      obtain ⟨l, heq, -⟩ := post_frame outlet { r with feed := r.feed.publish e } e
      rw [process_of_ok outlet r h, Action.published?, h]
      simp only [heq]
      rfl
  | post outlet e =>
    obtain ⟨l, heq, -⟩ := post_frame outlet r e
    simp only [step, heq]
    rfl

/-- A course publishes the events of its valid messages, in order. -/
theorem feed_run (r : Relay) (course : List Action) :
    (r.run course).feed = (course.filterMap (·.published?)).foldl Feed.publish r.feed := by
  induction course generalizing r with
  | nil => rfl
  | cons a course ih =>
    rw [Feed.foldl_publish_filterMap_cons, ← feed_step]
    exact ih (r.step a).1

end Relay

/-! ## Traffic -/

/-- The event that a step publishes. -/
def TrafficEvent.published? : TrafficEvent → Option Event
  | .received payload => (Event.ofPayload payload).toOption
  | _ => none

namespace Traffic

variable {t u : Traffic}

theorem feed_receive (t : Traffic) (payload : ByteArray) :
    (t.receive payload).relay.feed
      = (Event.ofPayload payload).toOption.toList.foldl Feed.publish t.relay.feed := by
  rw [receive]
  cases Event.ofPayload payload <;> rfl

/-- A step publishes the event of a valid message, and nothing else. -/
theorem feed_step {e : TrafficEvent} (h : t.step? e = some u) :
    u.relay.feed = e.published?.toList.foldl Feed.publish t.relay.feed := by
  cases e with
  | received payload =>
    cases h
    exact feed_receive t payload
  | posted e =>
    cases h
    rfl
  | edited | settled | refreshBegan | evaluated | storeRead | swapped =>
    cases step_of_step? h <;> first | rfl | contradiction

theorem feed_run {events : List TrafficEvent} (h : t.run? events = some u) :
    u.relay.feed = (events.filterMap (·.published?)).foldl Feed.publish t.relay.feed := by
  induction events generalizing t with
  | nil =>
    cases h
    rfl
  | cons e events ih =>
    obtain ⟨m, hm, hrest⟩ := Run.cons_eq_some_iff.1 h
    rw [Feed.foldl_publish_filterMap_cons, ← feed_step hm]
    exact ih hrest

/-- While a message is processed, nothing has come to its end before its event is published. -/
theorem feed_of_settled {r : Relay} {payload : ByteArray} {e : Event}
    (he : Event.ofPayload payload = .ok e) {outlet : Outlet} {numbers : List Nat}
    {front : List TrafficEvent}
    (hfront : front <+: .received payload :: numbers.map (.settled · outlet))
    (hrun : (start r).run? front = some t) (hsettled : t.settled ≠ []) :
    t.relay.feed = r.feed.publish e := by
  cases front with
  | nil =>
    cases hrun
    exact absurd rfl hsettled
  | cons first front =>
    obtain ⟨rfl, hrest⟩ := List.cons_prefix_cons.1 hfront
    obtain ⟨settled, -, rfl⟩ := List.prefix_map_iff.1 hrest
    rw [feed_run hrun, Feed.foldl_publish_filterMap_cons, List.filterMap_map,
      TrafficEvent.published?, he]
    have hnothing :
        settled.filterMap (TrafficEvent.published? ∘ (TrafficEvent.settled · outlet)) = [] := by
      simp [List.filterMap_eq_nil_iff, TrafficEvent.published?]
    rw [hnothing]
    rfl

end Traffic

namespace Relay

/-- What comes in, in the course of anything. The events that are published are those of
the valid messages, in order and each once, whatever the registry holds and whatever
becomes of the deliveries. A message that is no event is dropped for the reason that
reading it gave; the relay stays as it is and nothing is sent. Processing any other is
to take it up and to bring its deliveries to their ends, and at every moment at which
some request was sent its event has been published. -/
theorem intake (r : Relay) (course : List Action) :
    let events := course.filterMap (·.published?)
    (r.run course).feed = events.foldl Feed.publish r.feed ∧
    (∀ all, r.feed.Holds all → (r.run course).feed.Holds (all ++ events)) ∧
    ∀ before outlet payload after, course = before ++ .process outlet payload :: after →
      let now := r.run before
      (∀ error, Event.ofPayload payload = .error error →
        now.step (.process outlet payload) = (now, .processed (.dropped error) [])) ∧
      ∀ e, Event.ofPayload payload = .ok e →
        ∃ (numbers : List Nat) (done : Traffic),
          let steps := .received payload :: numbers.map (.settled · outlet)
          (Traffic.start now).run? steps = some done ∧
          now.step (.process outlet payload)
            = (done.relay, .processed (.dispatched (done.settled.map (·.outcome)))
                (done.settled.flatMap (·.requests))) ∧
          ∀ front t, front <+: steps → (Traffic.start now).run? front = some t →
            t.settled.flatMap (·.requests) ≠ [] → t.relay.feed = now.feed.publish e := by
  intro events
  refine ⟨feed_run r course, ?holds, ?messages⟩
  case holds =>
    intro all hall
    rw [feed_run]
    exact hall.foldl_publish events
  case messages =>
    rintro before outlet payload after -
    intro now
    refine ⟨fun error herror => process_of_error outlet now herror, ?_⟩
    intro e he
    obtain ⟨numbers, settled, hrun, houtcomes, hrequests⟩ :=
      Traffic.run?_process (t := .start now) (by simp [Traffic.start]) outlet payload
    obtain ⟨outcomes, hresult⟩ :
        ∃ outcomes, (now.process outlet payload).2.1 = .dispatched outcomes := by
      rw [process, he]
      exact ⟨_, rfl⟩
    refine ⟨numbers, _, hrun, ?_, ?_⟩
    · show ((now.process outlet payload).1, Answer.processed (now.process outlet payload).2.1
        (now.process outlet payload).2.2.1) = _
      have hsent : settled.flatMap (·.requests) = (now.process outlet payload).2.2.1 := hrequests
      rw [hresult, ← houtcomes outcomes hresult, ← hsent]
      rfl
    · intro front t hfront ht hsent
      have hsettled : t.settled ≠ [] := by
        intro hnil
        rw [hnil] at hsent
        exact hsent rfl
      exact Traffic.feed_of_settled he hfront ht hsettled

/-- A text that is no event is dropped, and the event of the next message is published,
although no webhook is there. -/
theorem intake_of_broken_message :
    let outlet : Outlet := ⟨Http.unreachable, 10⟩
    let start := ofRepository .default 2 (.ofStore .empty)
    let broken := "\x7b\"chainId\":1"
    let text := "\x7b\"chainId\":1,\"type\":\"SAFE_CREATED\"\x7d"
    let course : List Action := [.process outlet broken.toUTF8, .process outlet text.toUTF8]
    (start.run course).feed.held = [⟨"1", "", "SAFE_CREATED", [], some text⟩] ∧
    ∃ error, start.step (.process outlet broken.toUTF8)
      = (start, .processed (.dropped error) []) := by
  intro outlet start broken text course
  have hevent : Event.ofPayload text.toUTF8 = .ok ⟨"1", "", "SAFE_CREATED", [], some text⟩ := by
    cbv
  obtain ⟨error, herror⟩ : ∃ error, Event.ofPayload broken.toUTF8 = .error error :=
    ⟨_, by cbv⟩
  obtain ⟨hfeed, -, hmessages⟩ := intake start course
  obtain ⟨hdropped, -⟩ := hmessages [] outlet broken.toUTF8 [.process outlet text.toUTF8] rfl
  refine ⟨?held, error, hdropped error herror⟩
  case held =>
    rw [hfeed]
    simp only [course, List.filterMap_cons, Action.published?, herror, hevent]
    rfl

end Relay
end WebhookRelay

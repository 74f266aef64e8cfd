-- SUMMARY: A delivery under way is not touched by refreshes, and touches nothing but the record it was captured with.
import WebhookRelay.Proofs.Relay.Ownership

/-!
# Deliveries under way

A delivery keeps the subscription, the body and the record that it was captured with,
whatever refreshes and registrations do meanwhile. As long as every refresh keeps its
webhook, that record is the webhook's (`find?_run_of_kept`). Once a refresh has dropped
the webhook, a later entry of the same id has a newer record
(`stats_ne_of_not_kept`).

Between two resets a record tallies the deliveries that come to their end on it
(`get_run`).
-/

namespace WebhookRelay
namespace Traffic

variable {t u : Traffic} {e : TrafficEvent} {events : List TrafficEvent}

/-! ## What records count -/

/-- The outcomes that settlements count on a record. -/
def outcomesOn (key : StatsKey) (settled : List Settlement) : List Outcome :=
  (settled.filter (·.delivery.entry.stats = key)).map (·.outcome)

/-- Whether a step is an evaluation that resets a record. -/
def Resets (key : StatsKey) (t : Traffic) (e : TrafficEvent) : Prop :=
  ∃ x f, e = .evaluated x ∧ x.stats = key ∧ t.refreshing = some f ∧
    Checkup.isDue t.relay.policy f.checked t.relay.ledger x = true

theorem length_records_step (hstep : t.Step e u) :
    t.relay.ledger.records.length ≤ u.relay.ledger.records.length := by
  cases hstep with
  | settled => exact Nat.le_of_eq (Ledger.length_records_modify ..).symm
  | evaluated => simp
  | swapped loaded f store => exact Registry.length_le_entriesFor f.current loaded _ store.active
  | edited | dropped | begun | refreshBegan | readFailed | storeRead => exact Nat.le_refl _

theorem length_records_run (hrun : t.run? events = some u) :
    t.relay.ledger.records.length ≤ u.relay.ledger.records.length :=
  Run.induction_on
    (motive := fun _ m => t.relay.ledger.records.length ≤ m.relay.ledger.records.length)
    (Nat.le_refl _)
    (fun _ _ _ _ _ hgrown hstep =>
      Nat.le_trans hgrown (length_records_step (step_of_step? hstep))) hrun

/-- A step that does not reset a record counts on it what comes to its end there. -/
theorem get_step (h : t.Sound) (hstep : t.Step e u) {key : StatsKey}
    (hkey : key < t.relay.ledger.records.length) (hresets : ¬ Resets key t e) :
    ∃ new, u.settled = t.settled ++ new ∧
      u.relay.ledger.get key = (t.relay.ledger.get key).tally (outcomesOn key new) := by
  cases hstep with
  | settled number outlet d hd =>
    refine ⟨_, rfl, ?_⟩
    have hlt := h.begun d (List.mem_of_getElem? hd)
    rw [Relay.settle, Ledger.get_modify _ _ hlt]
    by_cases heq : key = d.entry.stats
    · subst heq
      simp [outcomesOn, Stats.tally]
    · simp [outcomesOn, heq, Ne.symm heq, Stats.tally]
  | evaluated x f hf hpending =>
    refine ⟨[], (List.append_nil _).symm, ?_⟩
    have hlt := h.separated.lt_length x ((h.refreshing f hf).2 x hpending)
    rw [ledger_withCheckup]
    cases hdue : Checkup.isDue t.relay.policy f.checked (t.checkup f).ledger x with
    | false =>
      rw [Checkup.visit_of_not_isDue _ _ hdue]
      rfl
    | true =>
      have hne : key ≠ x.stats := fun heq => hresets ⟨x, f, rfl, heq.symm, hf, hdue⟩
      rw [Checkup.get_visit_of_ne _ _ hlt hne]
      rfl
  | swapped loaded f store =>
    refine ⟨[], (List.append_nil _).symm, ?_⟩
    exact Registry.get_entriesFor f.current loaded store.active hkey
  | edited | dropped | begun | refreshBegan | readFailed | storeRead =>
    exact ⟨[], (List.append_nil _).symm, rfl⟩

/-- A run that does not reset a record counts on it what comes to its end there. -/
theorem get_run (h : t.Sound) (hrun : t.run? events = some u) {key : StatsKey}
    (hkey : key < t.relay.ledger.records.length) (hnever : Run.Never step? (Resets key) t events) :
    ∃ new, u.settled = t.settled ++ new ∧
      u.relay.ledger.get key = (t.relay.ledger.get key).tally (outcomesOn key new) := by
  refine Run.induction_on
    (motive := fun events m => Run.Never step? (Resets key) t events → ∃ new,
      m.settled = t.settled ++ new ∧
      m.relay.ledger.get key = (t.relay.ledger.get key).tally (outcomesOn key new))
    (fun _ => ⟨[], (List.append_nil _).symm, rfl⟩) ?_ hrun hnever
  intro events m e n hm hcounts hstep hnever
  have hlt := Nat.lt_of_lt_of_le hkey (length_records_run hm)
  obtain ⟨new, hsettled, hget⟩ := hcounts hnever.of_append
  obtain ⟨more, hmore, hget'⟩ :=
    get_step (sound_run h hm) (step_of_step? hstep) hlt (hnever.last hm)
  refine ⟨new ++ more, by rw [hmore, hsettled, List.append_assoc], ?_⟩
  rw [hget', hget, ← Stats.tally_append, outcomesOn, outcomesOn, outcomesOn, List.filter_append,
    List.map_append]

/-! ## Kept and dropped webhooks -/

/-- Whether a webhook is in the registry all along a run. -/
def Kept (id : WebhookId) (t : Traffic) (events : List TrafficEvent) : Prop :=
  Run.Always step? (fun m => (m.relay.registry.find? id).isSome) t events

/-- After a step a webhook has the record it had, or a new one if it was not there. -/
theorem find?_step (h : t.Sound) (hstep : t.Step e u) {id : WebhookId} {y : Entry}
    (hy : u.relay.registry.find? id = some y) :
    (∃ x, t.relay.registry.find? id = some x ∧ y.stats = x.stats) ∨
      (t.relay.registry.find? id = none ∧ t.relay.ledger.records.length ≤ y.stats) := by
  cases hstep with
  | swapped loaded f store hf =>
    obtain ⟨hmem, rfl⟩ := (Registry.find?_eq_some_iff _).1 hy
    rw [← (h.refreshing f hf).1]
    rcases Registry.placed_of_mem_entriesFor _ _ hmem with hkept | ⟨hnone, hle, -, -⟩
    · exact .inl hkept
    · exact .inr ⟨hnone, hle⟩
  | edited | dropped | begun | settled | refreshBegan | evaluated | readFailed | storeRead =>
    exact .inl ⟨y, hy, rfl⟩

/-- A webhook that is kept all along keeps its record. -/
theorem find?_run_of_kept (h : t.Sound) (hrun : t.run? events = some u) {id : WebhookId}
    {x : Entry} (hx : t.relay.registry.find? id = some x) (hkept : Kept id t events) :
    ∃ y, u.relay.registry.find? id = some y ∧ y.stats = x.stats := by
  refine Run.induction_on
    (motive := fun events m => Kept id t events →
      ∃ y, m.relay.registry.find? id = some y ∧ y.stats = x.stats)
    (fun _ => ⟨x, hx, rfl⟩) ?_ hrun hkept
  intro events m e n hm hfound hstep hkept
  obtain ⟨y, hy, hyx⟩ := hfound hkept.of_append
  obtain ⟨z, hz⟩ := Option.isSome_iff_exists.1 (hkept.last (Run.snoc hm hstep))
  rcases find?_step (sound_run h hm) (step_of_step? hstep) hz with ⟨y', hy', hzy⟩ | ⟨hnone, -⟩
  · rw [hy] at hy'
    cases hy'
    exact ⟨z, hz, hzy.trans hyx⟩
  · rw [hy] at hnone
    cases hnone

/-- What is placed when a webhook is not there has a newer record than any that is there. -/
theorem le_stats_run (h : t.Sound) (hrun : t.run? events = some u) {id : WebhookId}
    (hnone : t.relay.registry.find? id = none) {x : Entry}
    (hx : u.relay.registry.find? id = some x) : t.relay.ledger.records.length ≤ x.stats := by
  refine Run.induction_on
    (motive := fun _ m => ∀ x, m.relay.registry.find? id = some x →
      t.relay.ledger.records.length ≤ x.stats)
    (by simp [hnone]) ?_ hrun x hx
  intro events m e n hm hnewer hstep y hy
  rcases find?_step (sound_run h hm) (step_of_step? hstep) hy with ⟨z, hz, hyz⟩ | ⟨-, hle⟩
  · rw [hyz]
    exact hnewer z hz
  · exact Nat.le_trans (length_records_run hm) hle

/-- A webhook that was dropped on the way has a newer record, if it is back. -/
theorem stats_ne_of_not_kept (h : t.Sound) (hrun : t.run? events = some u) {id : WebhookId}
    (hkept : ¬ Kept id t events) {key : StatsKey} (hkey : key < t.relay.ledger.records.length)
    {x : Entry} (hx : u.relay.registry.find? id = some x) : x.stats ≠ key := by
  simp only [Kept, Run.Always, not_forall] at hkept
  obtain ⟨front, back, m, rfl, hm, hnone⟩ := hkept
  obtain ⟨m', hm', hback⟩ := Run.append_eq_some_iff.1 hrun
  rw [hm] at hm'
  cases hm'
  have hgrown := length_records_run hm
  have hnewer := le_stats_run (sound_run h hm) hback (Option.not_isSome_iff_eq_none.1 hnone) hx
  exact Nat.ne_of_gt (Nat.lt_of_lt_of_le hkey (Nat.le_trans hgrown hnewer))

/-! ## Beginning and end of a delivery -/

theorem begun_step (hstep : t.Step e u) : u.begun = t.begun ∨
    ∃ event, e.event? = some event ∧ u.begun = t.begun ++ t.relay.capture event ∧
      u.relay.registry = t.relay.registry := by
  cases hstep with
  | begun _ feed event hevent => exact .inr ⟨event, hevent, rfl, rfl⟩
  | edited | dropped | settled | refreshBegan | evaluated | readFailed | storeRead | swapped =>
    exact .inl rfl

/-- No delivery is forgotten. -/
theorem begun_run (hrun : t.run? events = some u) : ∃ new, u.begun = t.begun ++ new := by
  refine Run.induction_on (motive := fun _ m => ∃ new, m.begun = t.begun ++ new)
    ⟨[], (List.append_nil _).symm⟩ ?_ hrun
  rintro events m e n - ⟨new, hnew⟩ hstep
  rcases begun_step (step_of_step? hstep) with heq | ⟨event, -, heq, -⟩
  · exact ⟨new, heq.trans hnew⟩
  · exact ⟨new ++ m.relay.capture event, by rw [heq, hnew, List.append_assoc]⟩

theorem getElem?_begun_run (hrun : t.run? events = some u) {number : Nat}
    (hnumber : number < t.begun.length) : u.begun[number]? = t.begun[number]? := by
  obtain ⟨new, hnew⟩ := begun_run hrun
  rw [hnew, List.getElem?_append_left hnumber]

/-- A delivery begins with the step that captures it. -/
theorem exists_beginning {r : Relay} (hrun : (start r).run? events = some t) {number : Nat}
    {d : InFlight} (hd : t.begun[number]? = some d) :
    ∃ before e after m n event, events = before ++ e :: after ∧
      (start r).run? before = some m ∧ m.step? e = some n ∧ n.run? after = some t ∧
      e.event? = some event ∧ d ∈ m.relay.capture event ∧
      m.begun.length ≤ number ∧ n.begun[number]? = some d ∧
      n.relay.registry = m.relay.registry := by
  have hnumber : number < t.begun.length := (List.getElem?_eq_some_iff.1 hd).1
  obtain ⟨before, e, after, m, n, hevents, hm, hstep, hnot, hn, hafter⟩ :=
    Run.exists_step (P := fun m : Traffic => number < m.begun.length) (by simp [start]) hrun hnumber
  have hbegun : n.begun[number]? = some d := by
    rw [← getElem?_begun_run hafter hn]
    exact hd
  rcases begun_step (step_of_step? hstep) with heq | ⟨event, hevent, heq, hregistry⟩
  · rw [heq] at hn
    exact absurd hn hnot
  · have hle : m.begun.length ≤ number := Nat.not_lt.1 hnot
    refine ⟨before, e, after, m, n, event, hevents, hm, hstep, hafter, hevent, ?_, hle, hbegun,
      hregistry⟩
    rw [heq, List.getElem?_append_right hle] at hbegun
    exact List.mem_of_getElem? hbegun

theorem settled_step (hstep : t.Step e u) :
    u.settled.map (·.number) = t.settled.map (·.number) ++ e.settles?.toList := by
  cases hstep with
  | settled number outlet d => exact List.map_append
  | edited | dropped | refreshBegan | evaluated | readFailed | storeRead | swapped =>
    exact (List.append_nil _).symm
  | begun e feed event hevent =>
    cases e <;> first | exact (List.append_nil _).symm | cases hevent

/-- The deliveries that have come to their end are those that did with a step. -/
theorem settled_run (hrun : t.run? events = some u) :
    u.settled.map (·.number) = t.settled.map (·.number) ++ events.filterMap (·.settles?) := by
  refine Run.induction_on
    (motive := fun events m =>
      m.settled.map (·.number) = t.settled.map (·.number) ++ events.filterMap (·.settles?))
    (List.append_nil _).symm ?_ hrun
  intro events m e n _ hsettled hstep
  rw [settled_step (step_of_step? hstep), hsettled, List.append_assoc, List.filterMap_append]
  cases h : e.settles? <;> simp [h]

/-- A delivery can come to its end at any time after its beginning, once. -/
theorem isSome_settle? {number : Nat} {d : InFlight} (hd : t.begun[number]? = some d)
    (hunsettled : number ∉ t.settled.map (·.number)) (outlet : Outlet) :
    (t.step? (.settled number outlet)).isSome := by
  rw [step?, settle?, hd, Option.bind_eq_bind, Option.bind_some,
    (isSettled_eq_false_iff t number).2 hunsettled]
  rfl

/-- The end of a delivery concerns nothing but its record. -/
theorem exists_of_settled {number : Nat} {outlet : Outlet}
    (hstep : t.Step (.settled number outlet) u) :
    ∃ d, t.begun[number]? = some d ∧
      u = { t with
        relay := t.relay.settle d (outlet.deliver d.entry.subscription d.body).1
        settled := t.settled ++ [⟨number, d, (outlet.deliver d.entry.subscription d.body).1,
          (outlet.deliver d.entry.subscription d.body).2⟩] } := by
  cases hstep with
  | settled _ _ d hd => exact ⟨d, hd, rfl⟩
  | begun _ feed event hevent => cases hevent

/-! ## Isolation -/

/-- Deliveries under way and refreshes leave each other alone. A delivery is captured
from an entry of the registry, for an event that is relevant to it. It comes to its end
at most once, at any time, against the subscription and the body it was captured with,
and counts once on the record it was captured with. As long as its webhook is kept,
that record is the webhook's, where the count stays until the record is reset. When the
webhook was dropped on the way, what is there under its id has another record. -/
theorem deliveries_isolated {policy : HealthPolicy} {streamCapacity : Nat}
    {repository : Repository} (hrun :
      (start (.ofRepository policy streamCapacity repository)).run? events = some t)
    {number : Nat} {d : InFlight} (hd : t.begun[number]? = some d) :
    let first := start (.ofRepository policy streamCapacity repository)
    (∃ before e after m n event, events = before ++ e :: after ∧
      first.run? before = some m ∧ m.step? e = some n ∧ n.run? after = some t ∧
      m.begun.length ≤ number ∧ n.begun[number]? = some d ∧
      e.event? = some event ∧ d.entry ∈ m.relay.registry.entries ∧
      d.entry.subscription.isRelevant event = true ∧ d.body = event.body ∧
      ∀ front back u, after = front ++ back → n.run? front = some u →
        (Kept d.entry.id n front →
          ∃ x, u.relay.registry.find? d.entry.id = some x ∧ x.stats = d.entry.stats) ∧
        (¬ Kept d.entry.id n front →
          ∀ x, u.relay.registry.find? d.entry.id = some x → x.stats ≠ d.entry.stats)) ∧
    (events.filterMap (·.settles?)).Nodup ∧
    (number ∉ events.filterMap (·.settles?) →
      ∀ outlet, (t.step? (.settled number outlet)).isSome) ∧
    ∀ front outlet back, events = front ++ .settled number outlet :: back →
      ∃ u v, first.run? front = some u ∧ u.step? (.settled number outlet) = some v ∧
        v.run? back = some t ∧
        let delivered := outlet.deliver d.entry.subscription d.body
        v = { u with
          relay := u.relay.settle d delivered.1
          settled := u.settled ++ [⟨number, d, delivered.1, delivered.2⟩] } ∧
        (∀ key, v.relay.ledger.get key = if key = d.entry.stats
          then (u.relay.ledger.get key).record delivered.1.isSuccess
          else u.relay.ledger.get key) ∧
        (Run.Never step? (Resets d.entry.stats) v back →
          ∃ new, t.settled = v.settled ++ new ∧
            t.relay.ledger.get d.entry.stats
              = (v.relay.ledger.get d.entry.stats).tally (outcomesOn d.entry.stats new)) := by
  intro first
  have hfirst : first.Sound := sound_start (Relay.separated_ofRepository ..)
  have hsettled : t.settled.map (·.number) = events.filterMap (·.settles?) := settled_run hrun
  refine ⟨?beginning, hsettled ▸ (sound_run hfirst hrun).once, ?unsettled, ?ended⟩
  case beginning =>
    obtain ⟨before, e, after, m, n, event, hevents, hm, hstep, hafter, hevent, hmem, hle, hn,
      hregistry⟩ := exists_beginning hrun hd
    have hsound : n.Sound := sound_step (sound_run hfirst hm) (step_of_step? hstep)
    have hentry := Relay.entry_of_mem_capture hmem
    have hfound : n.relay.registry.find? d.entry.id = some d.entry := by
      rw [hregistry]
      exact (Registry.find?_eq_some_iff _).2 ⟨hentry, rfl⟩
    refine ⟨before, e, after, m, n, event, hevents, hm, hstep, hafter, hle, hn, hevent, hentry,
      Relay.isRelevant_of_mem_capture hmem, Relay.body_of_mem_capture hmem, ?_⟩
    intro front back u _ hu
    constructor
    · intro hkept
      exact find?_run_of_kept hsound hu hfound hkept
    · intro hdropped x hx
      have hlt := hsound.begun d (List.mem_of_getElem? hn)
      exact stats_ne_of_not_kept hsound hu hdropped hlt hx
  case unsettled =>
    intro hnot outlet
    rw [← hsettled] at hnot
    exact isSome_settle? hd hnot outlet
  case ended =>
    rintro front outlet back rfl
    obtain ⟨u, hu, hrest⟩ := Run.append_eq_some_iff.1 hrun
    obtain ⟨v, hv, hback⟩ := Run.cons_eq_some_iff.1 hrest
    have husound : u.Sound := sound_run hfirst hu
    have hvsound : v.Sound := sound_step husound (step_of_step? hv)
    obtain ⟨d', hd', heq⟩ := exists_of_settled (step_of_step? hv)
    have hbegun : v.begun = u.begun := by rw [heq]
    -- The list of deliveries only grows, so the one that ends is the one of the end.
    have hsame : d' = d := by
      have hnumber := (List.getElem?_eq_some_iff.1 hd').1
      have hkept := getElem?_begun_run hback (hbegun ▸ hnumber)
      rw [hd, hbegun, hd'] at hkept
      exact (Option.some.inj hkept).symm
    subst hsame
    have hlt := husound.begun d' (List.mem_of_getElem? hd')
    refine ⟨u, v, hu, hv, hback, heq, ?_, ?_⟩
    · intro key
      rw [heq, Relay.settle, Ledger.get_modify _ _ hlt]
      by_cases hkey : key = d'.entry.stats
      · rw [if_pos hkey, if_pos hkey, hkey]
      · rw [if_neg hkey, if_neg hkey]
    · intro hnever
      have hvlt := hvsound.begun d' (List.mem_of_getElem? (hbegun ▸ hd'))
      exact get_run hvsound hback hvlt hnever

/-- A webhook is deleted and registered again while a delivery to it is under way. The
delivery counts on the record that it had, and not on the one that it has. -/
theorem deliveries_isolated_of_dropped :
    let hook := Subscription.new ⟨1⟩ "http://[::1]/"
    let event := Event.new "1" "SAFE_CREATED" ""
    let outlet : Outlet := ⟨Http.unreachable, 10⟩
    let first := start (.ofRepository .default 16 (.ofStore .empty))
    let events : List TrafficEvent := [.edited (.save hook),
      .refreshBegan 0, .storeRead, .swapped 0, .posted event,
      .edited (.remove ⟨1⟩), .refreshBegan 1, .evaluated ⟨hook, 0⟩, .storeRead, .swapped 1,
      .edited (.save hook), .refreshBegan 2, .storeRead, .swapped 2]
    ∃ u t, first.run? events = some u ∧ first.run? (events ++ [.settled 0 outlet]) = some t ∧
      t.begun[0]? = some ⟨⟨hook, 0⟩, event.body⟩ ∧
      t.relay.registry.find? ⟨1⟩ = some ⟨hook, 1⟩ ∧
      t.relay.ledger.get 0
        = (u.relay.ledger.get 0).record (outlet.deliver hook event.body).1.isSuccess ∧
      t.relay.ledger.get 1 = u.relay.ledger.get 1 := by
  intro hook event outlet first events
  obtain ⟨t, hrun, hbegun, hfound⟩ : ∃ t, first.run? (events ++ [.settled 0 outlet]) = some t ∧
      t.begun[0]? = some ⟨⟨hook, 0⟩, event.body⟩ ∧
      t.relay.registry.find? ⟨1⟩ = some ⟨hook, 1⟩ := ⟨_, rfl, rfl, rfl⟩
  obtain ⟨-, -, -, hended⟩ := deliveries_isolated hrun hbegun
  obtain ⟨u, v, hu, -, hv, -, hget, -⟩ := hended events outlet [] rfl
  cases hv
  exact ⟨u, t, hu, hrun, hbegun, hfound, (hget 0).trans (if_pos rfl),
    (hget 1).trans (if_neg Nat.one_ne_zero)⟩

end Traffic
end WebhookRelay

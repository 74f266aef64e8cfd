-- SUMMARY: Steps with nothing in between: a refresh and a posting in one go.
import WebhookRelay.Proofs.Relay.Traffic

/-!
# One thing after the other

When nothing comes in between, the steps of a refresh do together what
`Relay.refresh` does, and the deliveries of a message, brought to their ends in order,
what `Relay.process` does. So traffic in which nothing comes between anything is a
course of the relay.
-/

namespace WebhookRelay
namespace Traffic

variable {t : Traffic}

/-! ## Refreshes -/

/-- Evaluations in the order of the entries are a health check. -/
theorem run?_evaluations (t : Traffic) (f : Refreshing) (c : Checkup) (pending : List Entry) :
    (t.withCheckup f c pending).run? (pending.map .evaluated)
      = some (t.withCheckup f (pending.foldl (Checkup.visit t.relay.policy f.checked) c) []) := by
  induction pending generalizing c with
  | nil => rfl
  | cons e pending ih =>
    have hstep : (t.withCheckup f c (e :: pending)).step? (.evaluated e)
        = some (t.withCheckup f (c.visit t.relay.policy f.checked e) pending) := by
      simp [step?, evaluate?, withCheckup, checkup]
    exact Run.cons_eq_some_iff.2 ⟨_, hstep, ih _⟩

/-- The steps of a refresh, one right after the other, refresh the registry. -/
theorem run?_refresh (hidle : t.refreshing = none) (checked loaded : Time) :
    ∃ rest, t.run? (.refreshBegan checked ::
        (t.relay.registry.entries.map .evaluated ++ .storeRead :: rest))
      = some { t with relay := (t.relay.refresh checked loaded).1 } := by
  obtain ⟨relay, begun, settled, refreshing⟩ := t
  cases hidle
  let t : Traffic := ⟨relay, begun, settled, none⟩
  let f : Refreshing := ⟨relay.registry, checked, relay.registry.entries, [], [], none⟩
  let c := relay.checkup checked
  have hevaluated : (t.withCheckup f (.start relay.repository relay.ledger) f.pending).run?
      (relay.registry.entries.map .evaluated) = some (t.withCheckup f c []) :=
    run?_evaluations ..
  have hrun : ∀ steps u, (t.withCheckup f c []).run? steps = some u →
      t.run? (.refreshBegan checked :: (relay.registry.entries.map .evaluated ++ steps))
        = some u := fun steps u hu =>
    Run.cons_eq_some_iff.2 ⟨_, rfl, Run.append_eq_some_iff.2 ⟨_, hevaluated, hu⟩⟩
  simp only [Relay.refresh_fst, Relay.tryRefresh, Registry.tryRefresh]
  rw [show checkHealth relay.policy checked relay.repository relay.ledger relay.registry.entries = c
    from rfl]
  cases hread : c.repository.findActive with
  | error error =>
    have hfailed : (t.withCheckup f c []).readStore?
        = some { t.withCheckup f c [] with refreshing := none } := by
      simp [readStore?, withCheckup, f, hread]
    exact ⟨[], hrun _ _ (Run.cons_eq_some_iff.2 ⟨_, hfailed, rfl⟩)⟩
  | ok found =>
    have hfound : (t.withCheckup f c []).readStore?
        = some (t.withCheckup { f with found := some c.repository.store } c []) := by
      simp [readStore?, withCheckup, f, hread]
    exact ⟨[.swapped loaded], hrun _ _ (Run.cons_eq_some_iff.2 ⟨_, hfound, rfl⟩)⟩

/-! ## Messages -/

/-- Deliveries that are brought to their ends in order are carried out in one go. -/
theorem run?_settlements (outlet : Outlet) {ds : List InFlight} {number : Nat}
    (hbegun : t.begun.drop number = ds) (hsettled : ∀ s ∈ t.settled, s.number < number) :
    ∃ settled, t.run? ((List.range' number ds.length).map (.settled · outlet))
        = some { t with
          relay := (Relay.settleAll outlet t.relay ds).1
          settled := t.settled ++ settled } ∧
      settled.map (·.outcome) = (Relay.settleAll outlet t.relay ds).2.outcomes ∧
      settled.flatMap (·.requests) = (Relay.settleAll outlet t.relay ds).2.requests := by
  induction ds generalizing t number with
  | nil => exact ⟨[], by rw [List.append_nil]; rfl, rfl, rfl⟩
  | cons d ds ih =>
    have hd : t.begun[number]? = some d := by
      rw [← List.head?_drop, hbegun, List.head?_cons]
    have hopen : t.isSettled number = false := by
      rw [isSettled_eq_false_iff]
      intro hmem
      obtain ⟨s, hs, hnumber⟩ := List.mem_map.1 hmem
      exact absurd (hsettled s hs) (by omega)
    let delivered := outlet.deliver d.entry.subscription d.body
    let u : Traffic := { t with
      relay := t.relay.settle d delivered.1
      settled := t.settled ++ [⟨number, d, delivered.1, delivered.2⟩] }
    have hstep : t.step? (.settled number outlet) = some u := by
      rw [step?, settle?, hd, Option.bind_eq_bind, Option.bind_some, hopen]
      rfl
    have hrest : u.begun.drop (number + 1) = ds := by
      rw [← List.tail_drop]
      exact congrArg List.tail hbegun
    have hearlier : ∀ s ∈ u.settled, s.number < number + 1 := by
      intro s hs
      rcases List.mem_append.1 hs with hs | hs
      · exact Nat.lt_succ_of_lt (hsettled s hs)
      · cases List.mem_singleton.1 hs
        exact Nat.lt_succ_self number
    obtain ⟨settled, hrun, houtcomes, hrequests⟩ := ih hrest hearlier
    refine ⟨⟨number, d, delivered.1, delivered.2⟩ :: settled, ?_, ?_, ?_⟩
    · refine Run.cons_eq_some_iff.2 ⟨u, hstep, hrun.trans ?_⟩
      simp [u, Relay.settleAll_cons, InFlight.outcome, delivered]
    · rw [List.map_cons, houtcomes]
      rfl
    · rw [List.flatMap_cons, hrequests]
      rfl

/-- A message whose deliveries are brought to their ends in order is processed in one go. -/
theorem run?_process (h : ∀ s ∈ t.settled, s.number < t.begun.length) (outlet : Outlet)
    (payload : ByteArray) :
    ∃ (numbers : List Nat) (settled : List Settlement),
      t.run? (.received payload :: numbers.map (.settled · outlet))
        = some { t with
          relay := (t.relay.process outlet payload).1
          begun := (t.receive payload).begun
          settled := t.settled ++ settled } ∧
      (∀ outcomes, (t.relay.process outlet payload).2.1 = .dispatched outcomes →
        settled.map (·.outcome) = outcomes) ∧
      settled.flatMap (·.requests) = (t.relay.process outlet payload).2.2.1 := by
  cases hevent : Event.ofPayload payload with
  | error error =>
    have hreceive : t.receive payload = t := by rw [receive, hevent]
    refine ⟨[], [], Run.cons_eq_some_iff.2 ⟨t, congrArg some hreceive, ?_⟩, ?_, ?_⟩
    · rw [Relay.process, hevent, hreceive, List.append_nil]
      rfl
    · intro outcomes hdispatched
      rw [Relay.process, hevent] at hdispatched
      cases hdispatched
    · rw [Relay.process, hevent]
      rfl
  | ok e =>
    let r : Relay := { t.relay with feed := t.relay.feed.publish e }
    have hreceive : t.receive payload = { t with relay := r, begun := t.begun ++ r.capture e } := by
      rw [receive, hevent]
      rfl
    have hearlier : ∀ s ∈ (t.receive payload).settled, s.number < t.begun.length := by
      rw [hreceive]
      exact h
    have hbegun : (t.receive payload).begun.drop t.begun.length = r.capture e := by
      rw [hreceive, List.drop_left]
    obtain ⟨settled, hrun, houtcomes, hrequests⟩ := run?_settlements outlet hbegun hearlier
    refine ⟨_, settled, Run.cons_eq_some_iff.2 ⟨_, rfl, hrun.trans ?_⟩, ?_, ?_⟩
    · rw [Relay.process, hevent, hreceive]
      rfl
    · intro outcomes hdispatched
      rw [Relay.process, hevent] at hdispatched
      cases hdispatched
      rw [houtcomes, hreceive]
    · rw [hrequests, Relay.process, hevent, hreceive]
      rfl

end Traffic
end WebhookRelay

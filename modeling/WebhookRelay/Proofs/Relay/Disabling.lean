-- SUMMARY: The relay writes to the store only to switch off a webhook whose deliveries failed too often.
import WebhookRelay.Proofs.Relay.Isolation

/-!
# Switching webhooks off

Registrations apart, the store changes only when an evaluation switches a webhook off
(`repository_step`). What the evaluation goes by are the deliveries of the current
window: the window opened when the record was created or last reset
(`exists_opening`), and since then the record has counted the deliveries to this
webhook and nothing else.
-/

namespace WebhookRelay
namespace Traffic

variable {t u : Traffic} {e : TrafficEvent} {events : List TrafficEvent}

/-! ## What changes the store -/

theorem policy_step (hstep : t.Step e u) : u.relay.policy = t.relay.policy := by
  cases hstep <;> rfl

theorem policy_run (hrun : t.run? events = some u) : u.relay.policy = t.relay.policy :=
  Run.induction_on (motive := fun _ m => m.relay.policy = t.relay.policy) rfl
    (fun _ _ _ _ _ hm hstep => (policy_step (step_of_step? hstep)).trans hm) hrun

/-- A step that is no registration changes the repository only where an evaluation
switches a webhook off. -/
theorem repository_step (hstep : t.Step e u) :
    (∃ edit, e.edit? = some edit ∧ u.relay.repository = t.relay.repository.edit edit) ∨
    (e.edit? = none ∧ u.relay.repository = t.relay.repository) ∨
    ∃ x f s, e = .evaluated x ∧ t.refreshing = some f ∧ x ∈ f.pending ∧
      Checkup.Disables t.relay.policy f.checked (t.checkup f) x s ∧
      u.relay.repository = { t.relay.repository with
        store := t.relay.repository.store.save { s with isActive := false } } := by
  cases hstep with
  | edited edit => exact .inl ⟨edit, rfl, rfl⟩
  | evaluated x f hf hpending =>
    rcases Checkup.repository_visit t.relay.policy f.checked (t.checkup f) x with
      hsame | ⟨s, hdisables, hsaved⟩
    · exact .inr (.inl ⟨rfl, hsame⟩)
    · exact .inr (.inr ⟨x, f, s, rfl, hf, hpending, hdisables, hsaved⟩)
  | begun e feed event hevent =>
    refine .inr (.inl ⟨?_, rfl⟩)
    cases e <;> first | rfl | cases hevent
  | dropped | settled | refreshBegan | readFailed | storeRead | swapped =>
    exact .inr (.inl ⟨rfl, rfl⟩)

/-- Without switching off, registrations are all that changes the store. -/
theorem repository_run (hpolicy : t.relay.policy.autoDisable = false)
    (hrun : t.run? events = some u) :
    u.relay.repository
      = (events.filterMap (·.edit?)).foldl Repository.edit t.relay.repository := by
  refine Run.induction_on
    (motive := fun events m => m.relay.repository
      = (events.filterMap (·.edit?)).foldl Repository.edit t.relay.repository) rfl ?_ hrun
  intro events m e n hm hrepository hstep
  rw [List.filterMap_append, List.foldl_append, ← hrepository]
  rcases repository_step (step_of_step? hstep) with
    ⟨edit, hedit, hsame⟩ | ⟨hedit, hsame⟩ | ⟨x, f, s, -, -, -, hdisables, -⟩
  · simp [hedit, hsame]
  · simp [hedit, hsame]
  · have hon := hdisables.autoDisable
    rw [policy_run hm, hpolicy] at hon
    cases hon

/-! ## Refreshes -/

/-- A refresh that is under way began with the registry that it works on, and no other has
begun since. -/
theorem exists_refreshBegan {r : Relay} (hrun : (start r).run? events = some t) {f : Refreshing}
    (hf : t.refreshing = some f) :
    ∃ before since m, events = before ++ .refreshBegan f.checked :: since ∧
      (start r).run? before = some m ∧ m.relay.registry = f.current ∧
      ∀ checked, .refreshBegan checked ∉ since := by
  refine Run.induction_on
    (motive := fun events t => ∀ f, t.refreshing = some f → ∃ before since m,
      events = before ++ .refreshBegan f.checked :: since ∧ (start r).run? before = some m ∧
      m.relay.registry = f.current ∧ ∀ checked, .refreshBegan checked ∉ since)
    (by simp [start]) ?_ hrun f hf
  intro events m e n hm hbegan hstep f hf
  -- A step that neither begins nor ends a refresh leaves its beginning where it was.
  have hextend : (∀ checked, e ≠ .refreshBegan checked) → ∀ g, m.refreshing = some g →
      g.checked = f.checked → g.current = f.current → ∃ before since k,
        events ++ [e] = before ++ .refreshBegan f.checked :: since ∧
        (start r).run? before = some k ∧ k.relay.registry = f.current ∧
        ∀ checked, .refreshBegan checked ∉ since := by
    intro he g hg hchecked hcurrent
    obtain ⟨before, since, k, hevents, hk, hregistry, hsince⟩ := hbegan g hg
    refine ⟨before, since ++ [e], k, ?_, hk, hregistry.trans hcurrent, ?_⟩
    · rw [hevents, hchecked, List.append_assoc, List.cons_append]
    · intro checked hmem
      rcases List.mem_append.1 hmem with hmem | hmem
      · exact hsince checked hmem
      · exact he checked (List.mem_singleton.1 hmem).symm
  cases step_of_step? hstep with
  | refreshBegan checked =>
    cases hf
    exact ⟨events, [], m, rfl, hm, rfl, by simp⟩
  | evaluated x g hg =>
    cases hf
    exact hextend (by simp) g hg rfl rfl
  | storeRead g hg =>
    cases hf
    exact hextend (by simp) g hg rfl rfl
  | readFailed => cases hf
  | swapped => cases hf
  | begun e feed event hevent =>
    refine hextend ?_ f hf rfl rfl
    rintro checked rfl
    cases hevent
  | edited | dropped | settled => exact hextend (by simp) f hf rfl rfl

/-! ## Windows -/

/-- Whether a step opens a window of a record: it resets the record or creates it. -/
def Opens (key : StatsKey) (t : Traffic) (e : TrafficEvent) : Prop :=
  Resets key t e ∨ (t.relay.ledger.records.length ≤ key ∧
    ∃ u, t.step? e = some u ∧ key < u.relay.ledger.records.length)

/-- When a window opens nothing is counted yet. -/
theorem get_of_opens (h : t.Sound) (hstep : t.step? e = some u) {key : StatsKey}
    (hopens : Opens key t e) : key < u.relay.ledger.records.length ∧
      ∃ time, u.relay.ledger.get key = .startingAt time := by
  rcases hopens with ⟨x, f, rfl, rfl, hf, hdue⟩ | ⟨hle, u', hu', hlt⟩
  · cases step_of_step? hstep with
    | evaluated _ g hg hpending =>
      rw [hf] at hg
      cases hg
      have hlt := h.separated.lt_length x ((h.refreshing f hf).2 x hpending)
      refine ⟨Nat.lt_of_lt_of_le hlt (length_records_step (step_of_step? hstep)), f.checked, ?_⟩
      rw [ledger_withCheckup, Checkup.get_visit _ _ hlt, ledger_checkup, if_pos hdue]
    | begun _ feed event hevent => cases hevent
  · rw [hstep] at hu'
    cases hu'
    refine ⟨hlt, ?_⟩
    cases step_of_step? hstep with
    | swapped loaded f store => exact ⟨loaded, Registry.get_entriesFor_of_le _ _ hle hlt⟩
    | settled => exact absurd hlt (by simp [Relay.settle, hle])
    | evaluated => exact absurd hlt (by simp [hle])
    | edited | dropped | begun | refreshBegan | readFailed | storeRead =>
      exact absurd hlt (Nat.not_lt.2 hle)

/-- A record that is there was created on the way. -/
theorem not_never_opens (hrun : t.run? events = some u) {key : StatsKey}
    (hle : t.relay.ledger.records.length ≤ key) (hlt : key < u.relay.ledger.records.length) :
    ¬ Run.Never step? (Opens key) t events := by
  intro hnever
  have hshort : u.relay.ledger.records.length ≤ key := by
    refine Run.induction_on
      (motive := fun events m => Run.Never step? (Opens key) t events →
        m.relay.ledger.records.length ≤ key) (fun _ => hle) ?_ hrun hnever
    intro events m e n hm hshort hstep hnever
    by_contra hgrown
    exact hnever.last hm (.inr ⟨hshort hnever.of_append, n, hstep, Nat.not_le.1 hgrown⟩)
  exact absurd hlt (Nat.not_lt.2 hshort)

/-- The last opening of a record's window, and what was counted since. -/
theorem exists_opening {r : Relay} (hsep : r.Separated) (hempty : r.ledger.records = [])
    (hrun : (start r).run? events = some t) {key : StatsKey}
    (hkey : key < t.relay.ledger.records.length) :
    ∃ before o since m n time new, events = before ++ o :: since ∧
      (start r).run? before = some m ∧ m.step? o = some n ∧ Opens key m o ∧
      Run.Never step? (Opens key) n since ∧ n.run? since = some t ∧
      n.relay.ledger.get key = .startingAt time ∧ t.settled = n.settled ++ new ∧
      t.relay.ledger.get key = (Stats.startingAt time).tally (outcomesOn key new) := by
  have hle : (start r).relay.ledger.records.length ≤ key := by simp [start, hempty]
  obtain ⟨before, o, since, m, n, hevents, hm, hstep, hopens, hnever, hsince⟩ :=
    Run.exists_last_of_not_never (not_never_opens hrun hle hkey) hrun
  have hsound : m.Sound := sound_run (sound_start hsep) hm
  obtain ⟨hn, time, hopened⟩ := get_of_opens hsound hstep hopens
  obtain ⟨new, hnew, hget⟩ := get_run (sound_step hsound (step_of_step? hstep)) hsince hn
    (hnever.mono fun _ _ hresets => .inl hresets)
  exact ⟨before, o, since, m, n, time, new, hevents, hm, hstep, hopens, hnever, hsince, hopened,
    hnew, hget.trans (by rw [hopened])⟩

/-! ## Writes of the relay -/

/-- The relay writes to the store only to switch a webhook off for cause. Registrations
apart, a step changes the repository only when it evaluates a webhook in a refresh that
took up a registry with this webhook, with switching off in force. It then makes one
active row inactive and leaves everything else as it was. The window of the webhook had
elapsed, and among the deliveries of this window, all of them to this webhook, the
share of failures was above the threshold. -/
theorem writes_justified {policy : HealthPolicy} {streamCapacity : Nat} {repository : Repository}
    (hrun : (start (.ofRepository policy streamCapacity repository)).run? events = some t) :
    let first := start (.ofRepository policy streamCapacity repository)
    (policy.autoDisable = false →
      t.relay.repository = (events.filterMap (·.edit?)).foldl Repository.edit repository) ∧
    ∀ before e after m n, events = before ++ e :: after → first.run? before = some m →
      m.step? e = some n → e.edit? = none → n.relay.repository ≠ m.relay.repository →
      policy.autoDisable = true ∧
      ∃ x checked s, e = .evaluated x ∧
        (m.relay.repository.store.find? x.id = some s ∧ s.isActive = true ∧
          n.relay.repository = { m.relay.repository with
            store := m.relay.repository.store.save { s with isActive := false } } ∧
          ∀ id, n.relay.repository.store.find? id = if id = x.id
            then some { s with isActive := false } else m.relay.repository.store.find? id) ∧
        (∃ earlier since r f, before = earlier ++ .refreshBegan checked :: since ∧
          first.run? earlier = some r ∧ x ∈ r.relay.registry.entries ∧
          (∀ time, .refreshBegan time ∉ since) ∧ m.refreshing = some f ∧
          f.checked = checked ∧ f.current = r.relay.registry) ∧
        ∃ earlier o since r r' opened new, before = earlier ++ o :: since ∧
          first.run? earlier = some r ∧ r.step? o = some r' ∧ Opens x.stats r o ∧
          Run.Never step? (Opens x.stats) r' since ∧
          r'.relay.ledger.get x.stats = .startingAt opened ∧ m.settled = r'.settled ++ new ∧
          policy.window ≤ checked - opened ∧
          let counted := outcomesOn x.stats new
          (∀ o ∈ counted, o.webhookId = x.id) ∧
          policy.threshold < (Stats.mk (counted.countP (·.isSuccess))
            (counted.countP (!·.isSuccess)) opened).failureRate := by
  intro first
  have hsep := Relay.separated_ofRepository policy streamCapacity repository
  refine ⟨fun hoff => repository_run hoff hrun, ?_⟩
  rintro before e after m n - hm hstep hedit hchanged
  have hsound : m.Sound := sound_run (sound_start hsep) hm
  have hpolicy : m.relay.policy = policy := policy_run hm
  rcases repository_step (step_of_step? hstep) with
    ⟨edit, hedit', -⟩ | ⟨-, hsame⟩ | ⟨x, f, s, rfl, hf, hpending, hdisables, hsaved⟩
  · rw [hedit] at hedit'
    cases hedit'
  · exact absurd hsame hchanged
  rw [hpolicy] at hdisables
  have hx : x ∈ m.relay.registry.entries := (hsound.refreshing f hf).2 x hpending
  refine ⟨hdisables.autoDisable, x, f.checked, s, rfl,
    ⟨hdisables.stored, hdisables.active, hsaved, ?row⟩, ?refresh, ?window⟩
  case row =>
    intro id
    have hid : s.id = x.id := (Store.find?_eq_some_iff.1 hdisables.stored).2
    simp only [hsaved, Store.find?_save, hid, eq_comm]
  case refresh =>
    obtain ⟨earlier, since, r, hbefore, hr, hregistry, hsince⟩ := exists_refreshBegan hm hf
    refine ⟨earlier, since, r, f, hbefore, hr, ?_, hsince, hf, rfl, hregistry.symm⟩
    rw [hregistry, (hsound.refreshing f hf).1]
    exact hx
  case window =>
    obtain ⟨earlier, o, since, r, r', opened, new, hbefore, hr, hr', hopens, hnever, -, hopened, hnew,
      hget⟩ := exists_opening hsep rfl hm (hsound.separated.lt_length x hx)
    refine ⟨earlier, o, since, r, r', opened, new, hbefore, hr, hr', hopens, hnever, hopened, hnew,
      ?elapsed, ?named, ?share⟩
    case elapsed =>
      have hdue := hdisables.due
      rw [Checkup.isDue, ledger_checkup, hget, Stats.windowStart_tally] at hdue
      exact of_decide_eq_true hdue
    case named =>
      intro o ho
      obtain ⟨settlement, hmem, rfl⟩ := List.mem_map.1 ho
      obtain ⟨hmem, hstats⟩ := List.mem_filter.1 hmem
      have hsettled : settlement ∈ m.settled := by
        rw [hnew]
        exact List.mem_append_right _ hmem
      have hdelivery := List.mem_of_getElem? (hsound.settled settlement hsettled)
      rw [hsound.named settlement hsettled]
      exact (hsound.owned _ hdelivery x hx (of_decide_eq_true hstats).symm).symm
    case share =>
      have hunhealthy := hdisables.unhealthy
      rw [ledger_checkup, hget, Stats.tally_startingAt] at hunhealthy
      exact of_decide_eq_true hunhealthy

/-- The only delivery of a window fails, and the webhook is switched off when it elapses. -/
theorem writes_justified_of_failure :
    let hook := Subscription.new ⟨1⟩ "http://[::1]/"
    let first := start (.ofRepository ⟨0, 50.0, true⟩ 16 (.ofStore .empty))
    let before : List TrafficEvent := [.edited (.save hook),
      .refreshBegan 0, .storeRead, .swapped 0, .posted (.new "1" "SAFE_CREATED" ""),
      .settled 0 ⟨Http.unreachable, 10⟩, .refreshBegan 5]
    ∃ m n, first.run? before = some m ∧ m.step? (.evaluated ⟨hook, 0⟩) = some n ∧
      m.relay.repository.store.find? ⟨1⟩ = some hook ∧
      n.relay.repository.store.find? ⟨1⟩ = some { hook with isActive := false } := by
  intro hook first before
  obtain ⟨m, hm, hfound⟩ : ∃ m, first.run? before = some m ∧
      m.relay.repository.store.find? ⟨1⟩ = some hook := ⟨_, rfl, rfl⟩
  obtain ⟨n, hstep⟩ : ∃ n, m.step? (.evaluated ⟨hook, 0⟩) = some n := by
    cases hm
    exact ⟨_, rfl⟩
  have hrun : first.run? (before ++ [.evaluated ⟨hook, 0⟩]) = some n := Run.snoc hm hstep
  have hoff : (first.run? (before ++ [.evaluated ⟨hook, 0⟩])).map
      (fun n => (n.relay.repository.store.find? ⟨1⟩).map (·.isActive)) = some (some false) := by
    decide +kernel
  rw [hrun, Option.map_some] at hoff
  have hchanged : n.relay.repository ≠ m.relay.repository := by
    intro hsame
    rw [hsame, hfound] at hoff
    cases hoff
  obtain ⟨-, x, checked, s, hx, ⟨hstored, -, -, hrow⟩, -, -⟩ :=
    (writes_justified hrun).2 before _ [] m n rfl hm hstep rfl hchanged
  cases hx
  rw [show (⟨hook, 0⟩ : Entry).id = ⟨1⟩ from rfl, hfound] at hstored
  cases hstored
  exact ⟨m, n, hm, hstep, hfound, (hrow ⟨1⟩).trans (if_pos rfl)⟩

end Traffic
end WebhookRelay

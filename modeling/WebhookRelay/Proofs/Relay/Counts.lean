-- SUMMARY: What the records count: every delivery to a webhook since it was last added or judged.
import WebhookRelay.Proofs.Relay.Step

/-!
# Counts

The count of a webhook begins when a refresh adds it to the registry, and begins
again when a health check judges it (`Restarts`). In between its record tallies
every delivery that is made to it, whatever else happens: the record is carried
from registry to registry and stays in place when a refresh fails
(`stats?_run`). So the record always counts what was delivered since the last
restart.
-/

namespace WebhookRelay
namespace Relay

/-- The record of a webhook in the registry. -/
def stats? (r : Relay) (id : WebhookId) : Option Stats :=
  (r.registry.find? id).map (r.ledger.get ·.stats)

/-- Whether a health check at a time judges a webhook. -/
def Judges (r : Relay) (now : Time) (id : WebhookId) : Prop :=
  ∃ v ∈ (r.checkup now).verdicts, v.webhookId = id

/-- Whether the count of a webhook begins with an action: the action adds it to the
registry or judges it. -/
def Restarts (id : WebhookId) (r : Relay) (a : Action) : Prop :=
  (r.registry.find? id = none ∧ ((r.step a).1.registry.find? id).isSome) ∨
  ∃ now, a.checked? = some now ∧ r.Judges now id

/-- When a window of a webhook opens with an action: when the store has been read, if the
action adds the webhook, and at the time of the check, if the action judges it. -/
inductive Opens (id : WebhookId) (r : Relay) : Action → Time → Prop where
  | added (checked loaded : Time) (absent : r.registry.find? id = none)
      (present : ((r.step (.refresh checked loaded)).1.registry.find? id).isSome) :
      Opens id r (.refresh checked loaded) loaded
  | judged (a : Action) (now : Time) (action : a.checked? = some now) (judges : r.Judges now id) :
      Opens id r a now

/-! ## Health checks -/

/-- A webhook is judged when its window has elapsed. -/
theorem judges_iff {r : Relay} (hsep : r.Separated) (now : Time) {id : WebhookId} {e : Entry}
    (he : r.registry.find? id = some e) :
    r.Judges now id ↔ Checkup.isDue r.policy now r.ledger e = true := by
  obtain ⟨hmem, hid⟩ := (Registry.find?_eq_some_iff _).1 he
  have hverdicts := webhookId_verdicts_checkHealth r.policy now r.repository hsep.lt_length
    hsep.distinct
  have hjudges : r.Judges now id
      ↔ id ∈ (r.registry.entries.filter (Checkup.isDue r.policy now r.ledger)).map (·.id) := by
    rw [← hverdicts]
    simp [Judges, checkup]
  rw [hjudges]
  constructor
  · intro hin
    obtain ⟨x, hx, hxid⟩ := List.mem_map.1 hin
    obtain ⟨hxmem, hdue⟩ := List.mem_filter.1 hx
    -- An id has one entry, so the entry that was judged is `e`.
    have hxe : r.registry.find? id = some x := (Registry.find?_eq_some_iff _).2 ⟨hxmem, hxid⟩
    rw [he] at hxe
    cases hxe
    exact hdue
  · intro hdue
    exact List.mem_map.2 ⟨e, List.mem_filter.2 ⟨hmem, hdue⟩, hid⟩

theorem get_checkup_of_judges {r : Relay} (hsep : r.Separated) {now : Time} {id : WebhookId}
    {e : Entry} (he : r.registry.find? id = some e) (h : r.Judges now id) :
    (r.checkup now).ledger.get e.stats = .startingAt now := by
  have hdue := (judges_iff hsep now he).1 h
  rw [checkup, get_checkHealth _ _ _ hsep.lt_length hsep.distinct
    ((Registry.find?_eq_some_iff _).1 he).1, if_pos hdue]

theorem get_checkup_of_not_judges {r : Relay} (hsep : r.Separated) {now : Time} {id : WebhookId}
    {e : Entry} (he : r.registry.find? id = some e) (h : ¬ r.Judges now id) :
    (r.checkup now).ledger.get e.stats = r.ledger.get e.stats := by
  have hdue := mt (judges_iff hsep now he).2 h
  rw [checkup, get_checkHealth _ _ _ hsep.lt_length hsep.distinct
    ((Registry.find?_eq_some_iff _).1 he).1, if_neg hdue]

/-! ## Loads -/

/-- After a load a webhook has the record that the health check left it, or a new one. -/
theorem get_of_loaded {r : Relay} (hsep : r.Separated) {a : Action} {checked loaded : Time}
    {found : List Subscription}
    (hregistry : (r.step a).1.registry.entries
      = (r.registry.entriesFor loaded (r.checkup checked).ledger found).1)
    (hledger : (r.step a).1.ledger
      = (r.registry.entriesFor loaded (r.checkup checked).ledger found).2)
    {id : WebhookId} {x : Entry} (hx : (r.step a).1.registry.find? id = some x) :
    (∃ e, r.registry.find? id = some e ∧
      (r.step a).1.ledger.get x.stats = (r.checkup checked).ledger.get e.stats) ∨
    (r.registry.find? id = none ∧ (r.step a).1.ledger.get x.stats = .startingAt loaded) := by
  obtain ⟨hmem, rfl⟩ := (Registry.find?_eq_some_iff _).1 hx
  rw [hregistry] at hmem
  rw [hledger]
  rcases Registry.placed_of_mem_entriesFor _ _ hmem with ⟨e, he, hstats⟩ | ⟨hnone, -, -, hget⟩
  · refine .inl ⟨e, he, ?_⟩
    rw [hstats]
    exact Registry.get_entriesFor _ _ _
      ((hsep.checkup checked).lt_length e ((Registry.find?_eq_some_iff _).1 he).1)
  · exact .inr ⟨hnone, hget⟩

/-! ## Actions and courses -/

theorem stats?_eq_some {r : Relay} {id : WebhookId} {s : Stats} (h : r.stats? id = some s) :
    ∃ e, r.registry.find? id = some e ∧ r.ledger.get e.stats = s :=
  Option.map_eq_some_iff.1 h

theorem not_restarts_of_registry_eq {r : Relay} {a : Action} {id : WebhookId}
    (haction : a.checked? = none) (hregistry : (r.step a).1.registry = r.registry) :
    ¬ Restarts id r a := by
  rintro (⟨hnone, hsome⟩ | ⟨now, hnow, -⟩)
  · rw [hregistry, hnone] at hsome
    cases hsome
  · rw [haction] at hnow
    cases hnow

/-- A restart opens a window, and nothing is counted in it yet. -/
theorem exists_opens_of_restarts {r : Relay} (hsep : r.Separated) {a : Action} {id : WebhookId}
    (h : Restarts id r a) {s : Stats} (hs : (r.step a).1.stats? id = some s) :
    ∃ time, Opens id r a time ∧ s = .startingAt time := by
  obtain ⟨x, hx, rfl⟩ := stats?_eq_some hs
  cases r.effect a with
  | idle haction hregistry => exact absurd h (not_restarts_of_registry_eq haction hregistry)
  | posted _ _ _ haction hregistry =>
    exact absurd h (not_restarts_of_registry_eq haction hregistry)
  | judged now haction hregistry hledger =>
    rw [hregistry] at hx
    rcases h with ⟨hnone, hsome⟩ | ⟨now', hnow, hjudges⟩
    · rw [hx] at hnone
      cases hnone
    · rw [haction] at hnow
      cases hnow
      refine ⟨now, .judged a now haction hjudges, ?_⟩
      rw [hledger, get_checkup_of_judges hsep hx hjudges]
  | loaded checked loaded found haction hread hregistry hledger =>
    subst haction
    rcases get_of_loaded hsep hregistry hledger hx with ⟨e, he, hget⟩ | ⟨hnone, hget⟩
    · rcases h with ⟨hnone, -⟩ | ⟨now, hnow, hjudges⟩
      · rw [he] at hnone
        cases hnone
      · cases hnow
        refine ⟨checked, .judged _ checked rfl hjudges, ?_⟩
        rw [hget, get_checkup_of_judges hsep he hjudges]
    · exact ⟨loaded, .added checked loaded hnone (by rw [hx]; rfl), hget⟩

/-- After a restart nothing is counted. -/
theorem stats?_step_of_restarts {r : Relay} (hsep : r.Separated) {a : Action} {id : WebhookId}
    (h : Restarts id r a) {s : Stats} (hs : (r.step a).1.stats? id = some s) :
    ∃ time, s = .startingAt time := by
  obtain ⟨time, -, htime⟩ := exists_opens_of_restarts hsep h hs
  exact ⟨time, htime⟩

/-- Any other action leaves a webhook its record, and counts the deliveries to it. -/
theorem stats?_step_of_not_restarts {r : Relay} (hsep : r.Separated) {a : Action}
    {id : WebhookId} (h : ¬ Restarts id r a) {s : Stats}
    (hs : (r.step a).1.stats? id = some s) :
    ∃ t, r.stats? id = some t ∧
      s = t.tally ((r.step a).2.outcomes.filter (·.webhookId = id)) := by
  obtain ⟨x, hx, rfl⟩ := stats?_eq_some hs
  cases r.effect a with
  | idle _ hregistry hledger houtcomes =>
    rw [hregistry] at hx
    refine ⟨r.ledger.get x.stats, by rw [stats?, hx, Option.map_some], ?_⟩
    rw [hledger, houtcomes]
    rfl
  | judged now haction hregistry hledger houtcomes =>
    have hjudges : ¬ r.Judges now id := fun hj => h (.inr ⟨now, haction, hj⟩)
    rw [hregistry] at hx
    refine ⟨r.ledger.get x.stats, by rw [stats?, hx, Option.map_some], ?_⟩
    rw [hledger, houtcomes, get_checkup_of_not_judges hsep hx hjudges]
    rfl
  | loaded checked loaded found haction hread hregistry hledger houtcomes =>
    rcases get_of_loaded hsep hregistry hledger hx with ⟨e, he, hget⟩ | ⟨hnone, -⟩
    · have hjudges : ¬ r.Judges checked id := by
        intro hj
        exact h (.inr ⟨checked, by rw [haction, Action.checked?], hj⟩)
      refine ⟨r.ledger.get e.stats, by rw [stats?, he, Option.map_some], ?_⟩
      rw [hget, houtcomes, get_checkup_of_not_judges hsep he hjudges]
      rfl
    · exact absurd (.inl ⟨hnone, by rw [hx]; rfl⟩) h
  | posted outlet e feed _ hregistry hledger houtcomes =>
    rw [hregistry] at hx
    obtain ⟨hmem, rfl⟩ := (Registry.find?_eq_some_iff _).1 hx
    refine ⟨r.ledger.get x.stats, by rw [stats?, hx, Option.map_some], ?_⟩
    rw [hledger, houtcomes]
    exact get_post outlet (r := { r with feed }) hsep e hmem

/-- Without a restart a record is carried along and tallies what is delivered. -/
theorem stats?_run {r : Relay} (hsep : r.Separated) {course : List Action} {id : WebhookId}
    (h : Never (Restarts id) r course) {s : Stats} (hs : (r.run course).stats? id = some s) :
    ∃ t, r.stats? id = some t ∧
      s = t.tally ((r.outcomes course).filter (·.webhookId = id)) := by
  induction course generalizing r with
  | nil => exact ⟨s, hs, rfl⟩
  | cons a course ih =>
    obtain ⟨ha, hcourse⟩ := h
    obtain ⟨t, ht, rfl⟩ := ih (separated_step r a hsep) hcourse hs
    obtain ⟨u, hu, rfl⟩ := stats?_step_of_not_restarts hsep ha ht
    refine ⟨u, hu, ?_⟩
    rw [outcomes, List.filter_append, Stats.tally_append]

/-! ## The counts of a course -/

/-- The last window of a webhook in the registry, and what was counted in it. -/
theorem exists_opens (policy : HealthPolicy) (streamCapacity : Nat)
    (repository : Repository) (course : List Action) {id : WebhookId} {s : Stats}
    (hs : ((ofRepository policy streamCapacity repository).run course).stats? id = some s) :
    let start := ofRepository policy streamCapacity repository
    ∃ before a after time, course = before ++ a :: after ∧ Restarts id (start.run before) a ∧
      Opens id (start.run before) a time ∧
      Never (Restarts id) (start.run (before ++ [a])) after ∧
      s = (Stats.startingAt time).tally
        (((start.run (before ++ [a])).outcomes after).filter (·.webhookId = id)) := by
  intro start
  have hsep := separated_ofRepository policy streamCapacity repository
  -- The registry was empty in the beginning, so the webhook was added at some time.
  have hrestarts : ¬ Never (Restarts id) start course := by
    intro hnever
    obtain ⟨t, ht, -⟩ := stats?_run hsep hnever hs
    cases ht
  obtain ⟨before, a, after, rfl, ha, hafter⟩ := exists_last_of_not_never hrestarts
  rw [List.append_cons, run_append] at hs
  obtain ⟨t, ht, rfl⟩ := stats?_run (separated_run hsep (before ++ [a])) hafter hs
  rw [run_append] at ht
  obtain ⟨time, hopens, rfl⟩ := exists_opens_of_restarts (separated_run hsep before) ha ht
  exact ⟨before, a, after, time, rfl, ha, hopens, hafter, rfl⟩

theorem stats?_run_ofRepository (policy : HealthPolicy) (streamCapacity : Nat)
    (repository : Repository) (course : List Action) {id : WebhookId} {s : Stats}
    (hs : ((ofRepository policy streamCapacity repository).run course).stats? id = some s) :
    let start := ofRepository policy streamCapacity repository
    ∃ before a after time, course = before ++ a :: after ∧ Restarts id (start.run before) a ∧
      Never (Restarts id) (start.run (before ++ [a])) after ∧
      s = (Stats.startingAt time).tally
        (((start.run (before ++ [a])).outcomes after).filter (·.webhookId = id)) := by
  intro start
  obtain ⟨before, a, after, time, hcourse, ha, -, hafter, htally⟩ :=
    exists_opens policy streamCapacity repository course hs
  exact ⟨before, a, after, time, hcourse, ha, hafter, htally⟩

/-- Every delivery is counted once, over whole courses: the record of a webhook in the
registry has the successes and the failures among the deliveries to it since it was last
added or judged. A refresh that keeps a webhook whose window has not elapsed leaves its
record as it is; one that adds a webhook, for the first time or again, counts from zero. -/
theorem counts (policy : HealthPolicy) (streamCapacity : Nat) (repository : Repository)
    (course : List Action) (id : WebhookId) :
    let start := ofRepository policy streamCapacity repository
    let r := start.run course
    (∀ e, r.registry.find? id = some e →
      ∃ before a after, course = before ++ a :: after ∧ Restarts id (start.run before) a ∧
        Never (Restarts id) (start.run (before ++ [a])) after ∧
        let made := ((start.run (before ++ [a])).outcomes after).filter (·.webhookId = id)
        (r.ledger.get e.stats).successes = made.countP (·.isSuccess) ∧
        (r.ledger.get e.stats).failures = made.countP (!·.isSuccess)) ∧
    (∀ checked loaded x, let r' := (r.step (.refresh checked loaded)).1
      r'.registry.find? id = some x →
        (∀ e, r.registry.find? id = some e →
          r.policy.hasElapsed checked (r.ledger.get e.stats).windowStart = false →
          r'.ledger.get x.stats = r.ledger.get e.stats) ∧
        (r.registry.find? id = none →
          (r'.ledger.get x.stats).successes = 0 ∧ (r'.ledger.get x.stats).failures = 0)) := by
  intro start r
  have hsep : r.Separated := separated_run (separated_ofRepository ..) course
  refine ⟨?_, ?_⟩
  · intro e he
    have hs : r.stats? id = some (r.ledger.get e.stats) := by
      rw [stats?, he, Option.map_some]
    obtain ⟨before, a, after, time, hcourse, ha, hafter, htally⟩ :=
      stats?_run_ofRepository policy streamCapacity repository course hs
    refine ⟨before, a, after, hcourse, ha, hafter, ?_, ?_⟩
    · rw [htally, Stats.successes_tally]
      exact Nat.zero_add _
    · rw [htally, Stats.failures_tally]
      exact Nat.zero_add _
  · intro checked loaded x r' hx
    have hs : r'.stats? id = some (r'.ledger.get x.stats) := by
      rw [stats?, hx, Option.map_some]
    constructor
    · intro e he helapsed
      have hrestarts : ¬ Restarts id r (.refresh checked loaded) := by
        rintro (⟨hnone, -⟩ | ⟨now, hnow, hjudges⟩)
        · rw [he] at hnone
          cases hnone
        · cases hnow
          rw [judges_iff hsep checked he, Checkup.isDue, helapsed] at hjudges
          cases hjudges
      obtain ⟨t, ht, htally⟩ := stats?_step_of_not_restarts hsep hrestarts hs
      rw [stats?, he] at ht
      cases ht
      exact htally
    · intro hnone
      have hrestarts : Restarts id r (.refresh checked loaded) := .inl ⟨hnone, by rw [hx]; rfl⟩
      obtain ⟨time, htime⟩ := stats?_step_of_restarts hsep hrestarts hs
      rw [htime]
      exact ⟨rfl, rfl⟩

/-- A webhook that was posted to once, one that a refresh keeps and one that it adds. -/
theorem counts_of_one_webhook :
    let hook := Subscription.new ⟨1⟩ "http://[::1]/"
    let entry : Entry := ⟨hook, 0⟩
    let start := ofRepository .default 16 (.ofStore .empty)
    let loaded : List Action := [.save hook, .refresh 0 0]
    let event := Action.post ⟨Http.unreachable, 10⟩ (.new "1" "SAFE_CREATED" "")
    ((start.run (loaded ++ [event])).registry.find? ⟨1⟩ = some entry ∧
      ∃ before a after, loaded ++ [event] = before ++ a :: after ∧
        Restarts ⟨1⟩ (start.run before) a ∧
        Never (Restarts ⟨1⟩) (start.run (before ++ [a])) after ∧
        let made := ((start.run (before ++ [a])).outcomes after).filter (·.webhookId = ⟨1⟩)
        ((start.run (loaded ++ [event])).ledger.get 0).successes = made.countP (·.isSuccess) ∧
        ((start.run (loaded ++ [event])).ledger.get 0).failures = made.countP (!·.isSuccess)) ∧
    ((start.run loaded).step (.refresh 1 1)).1.ledger.get 0 = (start.run loaded).ledger.get 0 ∧
    (((start.run [.save hook]).step (.refresh 0 0)).1.ledger.get 0).failures = 0 := by
  intro hook entry start loaded event
  have hloaded : (start.run loaded).registry.find? ⟨1⟩ = some entry := by rfl
  have hposted : (start.run (loaded ++ [event])).registry.find? ⟨1⟩ = some entry := by
    have hkept : ((start.run loaded).run [event]).registry = (start.run loaded).registry :=
      registry_post ⟨Http.unreachable, 10⟩ (start.run loaded) (.new "1" "SAFE_CREATED" "")
    rw [run_append, hkept, hloaded]
  have hkept : ((start.run loaded).step (.refresh 1 1)).1.registry.find? ⟨1⟩ = some entry := by rfl
  have hcounts := (counts .default 16 (.ofStore .empty) (loaded ++ [event]) ⟨1⟩).1 entry hposted
  have hrefresh := ((counts .default 16 (.ofStore .empty) loaded ⟨1⟩).2 1 1 entry hkept).1 entry
    hloaded (by rfl)
  have hadded := ((counts .default 16 (.ofStore .empty) [.save hook] ⟨1⟩).2 0 0 entry hloaded).2
    (by rfl)
  exact ⟨⟨hposted, hcounts⟩, hrefresh, hadded.2⟩

end Relay
end WebhookRelay

-- SUMMARY: Verdicts keep their distance: each closes a window of full length, and the windows of one entry follow each other.
import WebhookRelay.Proofs.Registry.Verdicts
import WebhookRelay.Proofs.Relay.Counts

/-!
# Spacing of verdicts

The record of a webhook knows when its window opened, and a verdict needs a window that has
elapsed by then. What the record knows is the history: the window opened with the last verdict
on the entry, or with the refresh that added it (`exists_opens`). As long as an entry stays, its
windows open later and later, even when the clock steps back between two checks, since a
check that comes too early judges nothing (`windowStart_le_run`).
-/

namespace WebhookRelay

/-- Visits to entries that are not due do nothing. -/
theorem Checkup.foldl_visit_of_not_isDue (p : HealthPolicy) (now : Time) {entries : List Entry}
    {c : Checkup} (h : ∀ e ∈ entries, isDue p now c.ledger e = false) :
    entries.foldl (visit p now) c = c := by
  induction entries with
  | nil => rfl
  | cons e entries ih =>
    rw [List.foldl_cons, visit_of_not_isDue p now (h e List.mem_cons_self)]
    exact ih fun x hx => h x (List.mem_cons_of_mem e hx)

namespace Relay

variable {r : Relay} {a : Action} {course : List Action} {id : WebhookId} {now : Time}

/-- A webhook is judged when its window is at least as long as the policy asks for. -/
theorem judges_iff_of_stats? (hsep : r.Separated) {s : Stats} (hs : r.stats? id = some s) :
    r.Judges now id ↔ r.policy.window ≤ now - s.windowStart := by
  obtain ⟨e, he, rfl⟩ := stats?_eq_some hs
  rw [judges_iff hsep now he, Checkup.isDue, HealthPolicy.hasElapsed, decide_eq_true_iff]

/-- Only webhooks in the registry are judged. -/
theorem exists_stats?_of_judges (hsep : r.Separated) (h : r.Judges now id) :
    ∃ s, r.stats? id = some s := by
  obtain ⟨v, hv, rfl⟩ := h
  have hmem := List.mem_map_of_mem (f := Verdict.webhookId) hv
  rw [checkup, webhookId_verdicts_checkHealth _ _ _ hsep.lt_length hsep.distinct] at hmem
  obtain ⟨e, he, hid⟩ := List.mem_map.1 hmem
  have hfound : r.registry.find? v.webhookId = some e :=
    (Registry.find?_eq_some_iff _).2 ⟨(List.mem_filter.1 he).1, hid⟩
  exact ⟨r.ledger.get e.stats, by rw [stats?, hfound, Option.map_some]⟩

theorem isSome_find?_of_stats? {s : Stats} (hs : r.stats? id = some s) :
    (r.registry.find? id).isSome := by
  obtain ⟨e, he, -⟩ := stats?_eq_some hs
  rw [he]
  rfl

theorem exists_stats?_of_isSome (h : (r.registry.find? id).isSome) :
    ∃ s, r.stats? id = some s := by
  obtain ⟨e, he⟩ := Option.isSome_iff_exists.1 h
  exact ⟨r.ledger.get e.stats, by rw [stats?, he, Option.map_some]⟩

/-! ## Entries that stay -/

/-- Whether a webhook is in the registry all along a course. -/
def Kept (id : WebhookId) (r : Relay) : List Action → Prop
  | [] => (r.registry.find? id).isSome
  | a :: rest => (r.registry.find? id).isSome ∧ Kept id (r.step a).1 rest

theorem Kept.isSome_find? (h : Kept id r course) : (r.registry.find? id).isSome := by
  cases course with
  | nil => exact h
  | cons a course => exact h.1

/-- Without a restart a webhook that is there in the end was there all along. -/
theorem kept_of_never (hsep : r.Separated) (h : Never (Restarts id) r course) {s : Stats}
    (hs : (r.run course).stats? id = some s) : Kept id r course := by
  induction course generalizing r with
  | nil => exact isSome_find?_of_stats? hs
  | cons a course ih =>
    obtain ⟨t, ht, -⟩ := stats?_run hsep h hs
    exact ⟨isSome_find?_of_stats? ht, ih (separated_step r a hsep) h.2 hs⟩

/-- While an entry stays its window does not open earlier than it did. -/
theorem windowStart_le_step (hsep : r.Separated) (hwindow : 0 ≤ r.policy.window) {s t : Stats}
    (hs : r.stats? id = some s) (ht : (r.step a).1.stats? id = some t) :
    s.windowStart ≤ t.windowStart := by
  by_cases h : Restarts id r a
  · obtain ⟨time, hopens, rfl⟩ := exists_opens_of_restarts hsep h ht
    cases hopens with
    | added _ _ habsent =>
      have hpresent := isSome_find?_of_stats? hs
      rw [habsent] at hpresent
      cases hpresent
    | judged _ _ _ hjudges =>
      have helapsed := (judges_iff_of_stats? hsep hs).1 hjudges
      exact Int.sub_nonneg.1 (Int.le_trans hwindow helapsed)
  · obtain ⟨u, hu, rfl⟩ := stats?_step_of_not_restarts hsep h ht
    obtain rfl := Option.some.inj (hs.symm.trans hu)
    exact Int.le_of_eq (Stats.windowStart_tally ..).symm

theorem windowStart_le_run (hsep : r.Separated) (hwindow : 0 ≤ r.policy.window)
    (hkept : Kept id r course) {s t : Stats} (hs : r.stats? id = some s)
    (ht : (r.run course).stats? id = some t) : s.windowStart ≤ t.windowStart := by
  induction course generalizing r s with
  | nil =>
    obtain rfl := Option.some.inj (hs.symm.trans ht)
    exact Int.le_refl _
  | cons a course ih =>
    obtain ⟨u, hu⟩ := exists_stats?_of_isSome hkept.2.isSome_find?
    have hstep := windowStart_le_step hsep hwindow hs hu
    have hrest := ih (separated_step r a hsep) (by rwa [policy_step]) hkept.2 hu ht
    exact Int.le_trans hstep hrest

/-- A verdict opens a window, and while the entry stays no window of it opens earlier. -/
theorem le_windowStart_of_judges {start : Relay} (hsep : start.Separated)
    (hwindow : 0 ≤ start.policy.window) {earlier between : List Action} {b : Action} {time : Time}
    (hb : b.checked? = some time) (hjudges : (start.run earlier).Judges time id)
    (hkept : Kept id (start.run (earlier ++ [b])) between) {s : Stats}
    (hs : ((start.run (earlier ++ [b])).run between).stats? id = some s) :
    time ≤ s.windowStart := by
  have hsep' := separated_run hsep earlier
  have hrun : start.run (earlier ++ [b]) = ((start.run earlier).step b).1 := run_append ..
  obtain ⟨t, ht⟩ := exists_stats?_of_isSome hkept.isSome_find?
  obtain ⟨u, hu⟩ := exists_stats?_of_judges hsep' hjudges
  have hmono : t.windowStart ≤ s.windowStart :=
    windowStart_le_run (separated_run hsep (earlier ++ [b])) (by rwa [policy_run]) hkept ht hs
  rw [hrun] at ht
  obtain ⟨opened, hopens, rfl⟩ := exists_opens_of_restarts hsep' (.inr ⟨time, hb, hjudges⟩) ht
  cases hopens with
  | added _ _ habsent =>
    have hpresent := isSome_find?_of_stats? hu
    rw [habsent] at hpresent
    cases hpresent
  | judged _ _ htime =>
    obtain rfl := Option.some.inj (hb.symm.trans htime)
    exact hmono

/-! ## A second check at the same time -/

/-- Of the webhooks that a check found none is judged again at the same time, but one that the
refresh added meanwhile may be, when the clock went back by a window. -/
theorem exists_loaded_of_judges_step (hsep : r.Separated) (hwindow : 0 < r.policy.window)
    (ha : a.checked? = some now) (hjudges : (r.step a).1.Judges now id) :
    r.registry.find? id = none ∧
      ∃ loaded, a = .refresh now loaded ∧ r.policy.window ≤ now - loaded := by
  have hsep' := separated_step r a hsep
  obtain ⟨t, ht⟩ := exists_stats?_of_judges hsep' hjudges
  have helapsed := (judges_iff_of_stats? hsep' ht).1 hjudges
  rw [policy_step] at helapsed
  by_cases h : Restarts id r a
  · obtain ⟨time, hopens, rfl⟩ := exists_opens_of_restarts hsep h ht
    cases hopens with
    | added checked loaded habsent =>
      cases ha
      exact ⟨habsent, _, rfl, helapsed⟩
    | judged _ _ hnow =>
      obtain rfl := Option.some.inj (ha.symm.trans hnow)
      have hempty : r.policy.window ≤ now - now := helapsed
      rw [Int.sub_self] at hempty
      exact absurd hwindow (Int.not_lt.2 hempty)
  · obtain ⟨s, hs, rfl⟩ := stats?_step_of_not_restarts hsep h ht
    rw [Stats.windowStart_tally] at helapsed
    exact absurd (.inr ⟨now, ha, (judges_iff_of_stats? hsep hs).2 helapsed⟩) h

/-- Whether a check at a time has nothing to do: it judges no webhook and leaves the relay as it
is. -/
def Idle (now : Time) (r : Relay) : Prop :=
  r.checkup now = .start r.repository r.ledger ∧ (r.step (.check now)).1 = r

/-- A check that judges nothing does nothing. -/
theorem idle_of_not_judges (hsep : r.Separated) (h : ∀ id, ¬ r.Judges now id) :
    r.Idle now := by
  have hcheckup : r.checkup now = .start r.repository r.ledger := by
    refine Checkup.foldl_visit_of_not_isDue r.policy now fun e he => ?_
    have hfound : r.registry.find? e.id = some e := (Registry.find?_eq_some_iff _).2 ⟨he, rfl⟩
    have hnot := h e.id
    rw [judges_iff hsep now hfound, Bool.not_eq_true] at hnot
    exact hnot
  exact ⟨hcheckup, by rw [step, hcheckup]; rfl⟩

/-- After a check that left the registry as it was, a second check has nothing to do. -/
theorem idle_step (hsep : r.Separated) (hwindow : 0 < r.policy.window)
    (ha : a.checked? = some now) (hregistry : (r.step a).1.registry = r.registry) :
    (r.step a).1.Idle now := by
  have hsep' := separated_step r a hsep
  refine idle_of_not_judges hsep' fun id hjudges => ?_
  obtain ⟨t, ht⟩ := exists_stats?_of_judges hsep' hjudges
  have hpresent := isSome_find?_of_stats? ht
  rw [hregistry, (exists_loaded_of_judges_step hsep hwindow ha hjudges).1] at hpresent
  cases hpresent

/-! ## Spacing -/

/-- Verdicts keep their distance. A verdict closes a window that has the full length, and the
window opened with the verdict before it on the same entry or, if there was none, with the
refresh that added the entry; a refresh that fails after its health check counts as well.
Whatever verdict there was on the entry while it stayed in the registry, the window opened no
earlier. When the policy asks for a window that is not empty, a second check at the same time has
nothing to do. If the first was that of a refresh which then changed the registry, the second can
only judge a webhook that the refresh added, and only when the clock went back by a window before
the store was read. -/
theorem verdicts_spaced (policy : HealthPolicy) (streamCapacity : Nat) (repository : Repository)
    (course : List Action) (now : Time) :
    let start := ofRepository policy streamCapacity repository
    let r := start.run course
    (0 ≤ policy.window → ∀ v ∈ (r.checkup now).verdicts,
      ∃ before o since opened, course = before ++ o :: since ∧
        Opens v.webhookId (start.run before) o opened ∧
        Never (Restarts v.webhookId) (start.run (before ++ [o])) since ∧
        Kept v.webhookId (start.run (before ++ [o])) since ∧
        policy.window ≤ now - opened ∧
        ∀ earlier b between time, course = earlier ++ b :: between → b.checked? = some time →
          (start.run earlier).Judges time v.webhookId →
          Kept v.webhookId (start.run (earlier ++ [b])) between → time ≤ opened) ∧
    (0 < policy.window →
      (r.step (.check now)).1.Idle now ∧
      ∀ loaded, let r' := (r.step (.refresh now loaded)).1
        (r'.registry = r.registry → r'.Idle now) ∧
        ∀ id, r'.Judges now id → r.registry.find? id = none ∧ policy.window ≤ now - loaded) := by
  intro start r
  have hstart : start.Separated := separated_ofRepository policy streamCapacity repository
  have hsep : r.Separated := separated_run hstart course
  have hpolicy : r.policy = policy := policy_run start course
  refine ⟨?spaced, ?again⟩
  case spaced =>
    intro hwindow v hv
    have hjudges : r.Judges now v.webhookId := ⟨v, hv, rfl⟩
    obtain ⟨s, hs⟩ := exists_stats?_of_judges hsep hjudges
    have helapsed := (judges_iff_of_stats? hsep hs).1 hjudges
    obtain ⟨before, o, since, opened, hcourse, -, hopens, hnever, htally⟩ :=
      exists_opens policy streamCapacity repository course hs
    have hopened : s.windowStart = opened := by
      rw [htally, Stats.windowStart_tally]
      rfl
    rw [hpolicy, hopened] at helapsed
    have hend : ((start.run (before ++ [o])).run since).stats? v.webhookId = some s := by
      rw [← run_append, ← List.append_cons, ← hcourse]
      exact hs
    refine ⟨before, o, since, opened, hcourse, hopens, hnever,
      kept_of_never (separated_run hstart _) hnever hend, helapsed, ?_⟩
    intro earlier b between time hcourse' hb hjudged hkept
    have hle := le_windowStart_of_judges hstart hwindow hb hjudged hkept (s := s) (by
      rw [← run_append, ← List.append_cons, ← hcourse']
      exact hs)
    exact hopened ▸ hle
  case again =>
    intro hwindow
    rw [← hpolicy] at hwindow ⊢
    refine ⟨idle_step hsep hwindow rfl rfl, fun loaded => ⟨idle_step hsep hwindow rfl, ?_⟩⟩
    intro id hjudges
    obtain ⟨habsent, _, ha, hback⟩ := exists_loaded_of_judges_step hsep hwindow rfl hjudges
    cases ha
    exact ⟨habsent, hback⟩

/-- A webhook is added at one time, judged by a refresh that cannot read the store, not judged
when the clock has gone back, and judged again. -/
theorem verdicts_spaced_across_failure :
    let hook := Subscription.new ⟨1⟩ "http://[::1]/"
    let start := ofRepository ⟨60000, 50.0, false⟩ 16 (.ofStore .empty)
    let course : List Action := [.save hook, .refresh 0 10, .connect (some "timeout") none,
      .refresh 60010 60011, .check 30000]
    let r := start.run course
    (∃ v ∈ (r.checkup 120010).verdicts, ∃ before o since opened, course = before ++ o :: since ∧
      Opens v.webhookId (start.run before) o opened ∧ 60000 ≤ 120010 - opened ∧
      60010 ≤ opened) ∧
    (r.step (.check 120010)).1.Idle 120010 := by
  intro hook start course r
  obtain ⟨hspaced, hagain⟩ :=
    verdicts_spaced ⟨60000, 50.0, false⟩ 16 (.ofStore .empty) course 120010
  have hids : (r.checkup 120010).verdicts.map (·.webhookId) = [⟨1⟩] := by decide +kernel
  have hearlier : ((start.run (course.take 3)).checkup 60010).verdicts.map (·.webhookId) =
      [⟨1⟩] := by
    decide +kernel
  obtain ⟨v, hv, hid⟩ := List.mem_map.1 (hids ▸ List.mem_singleton_self _)
  obtain ⟨before, o, since, opened, hcourse, hopens, -, -, helapsed, hlast⟩ :=
    hspaced (by decide) v hv
  have hkept : Kept v.webhookId (start.run (course.take 4)) [.check 30000] := by
    rw [hid, Kept, Kept]
    decide +kernel
  have hjudged : (start.run (course.take 3)).Judges 60010 v.webhookId := by
    obtain ⟨w, hw, hwid⟩ := List.mem_map.1 (hearlier ▸ List.mem_singleton_self _)
    exact ⟨w, hw, hwid.trans hid.symm⟩
  have hopened := hlast (course.take 3) (.refresh 60010 60011) [.check 30000] 60010 rfl rfl
    hjudged hkept
  refine ⟨⟨v, hv, before, o, since, opened, hcourse, hopens, helapsed, hopened⟩, ?_⟩
  exact (hagain (by decide)).1

end Relay
end WebhookRelay

-- SUMMARY: The health check entry by entry: which webhooks it judges or switches off, and what it leaves in their records.
import WebhookRelay.Registry.Health
import WebhookRelay.Proofs.Store.Memory
import Mathlib.Data.List.Nodup

/-!
# The health check

A health check visits entries one after the other, and each visit may change the
repository and the ledger. When every entry has a record of its own, a visit
changes nothing that a later visit looks at in the ledger: which entries are
judged is decided by the ledger at the beginning. A judged entry starts over, and
every other record stays as it is. The repository changes only when a visit switches
a webhook off, for which `Checkup.Disables` gives the cause.
-/

namespace WebhookRelay

namespace Checkup

variable (p : HealthPolicy) (now : Time)

/-- Whether the window of an entry has elapsed. -/
def isDue (l : Ledger) (e : Entry) : Bool :=
  p.hasElapsed now (l.get e.stats).windowStart

/-! ## One visit -/

theorem visit_of_not_isDue {c : Checkup} {e : Entry} (h : isDue p now c.ledger e = false) :
    visit p now c e = c := by
  unfold visit judge?
  rw [isDue] at h
  simp [h]

/-- A visit that judges: the record starts over and one verdict is added. -/
theorem visit_of_isDue {c : Checkup} {e : Entry} (h : isDue p now c.ledger e = true) :
    (visit p now c e).ledger = c.ledger.modify e.stats (·.resetAt now) ∧
      ∃ rate action, (visit p now c e).verdicts = c.verdicts ++ [⟨e.id, rate, action⟩] := by
  unfold visit judge?
  rw [isDue] at h
  simp only [h, if_true]
  exact ⟨trivial, _, _, rfl⟩

@[simp] theorem length_records_visit (c : Checkup) (e : Entry) :
    (visit p now c e).ledger.records.length = c.ledger.records.length := by
  cases h : isDue p now c.ledger e with
  | false => rw [visit_of_not_isDue p now h]
  | true => rw [(visit_of_isDue p now h).1, Ledger.length_records_modify]

theorem lt_length_visit {c : Checkup} {e : Entry} {entries : List Entry}
    (hlt : ∀ x ∈ e :: entries, x.stats < c.ledger.records.length) :
    ∀ x ∈ entries, x.stats < (visit p now c e).ledger.records.length := by
  intro x hx
  rw [length_records_visit]
  exact hlt x (List.mem_cons_of_mem _ hx)

theorem get_visit {c : Checkup} {e : Entry} (hlt : e.stats < c.ledger.records.length) :
    (visit p now c e).ledger.get e.stats
      = if isDue p now c.ledger e then .startingAt now else c.ledger.get e.stats := by
  cases h : isDue p now c.ledger e with
  | false => simp [visit_of_not_isDue p now h]
  | true =>
    rw [(visit_of_isDue p now h).1, Ledger.get_modify _ _ hlt]
    simp [Stats.resetAt]

/-- A visit leaves the records of other entries alone. -/
theorem get_visit_of_ne {c : Checkup} {e : Entry} (hlt : e.stats < c.ledger.records.length)
    {key : StatsKey} (hne : key ≠ e.stats) :
    (visit p now c e).ledger.get key = c.ledger.get key := by
  cases h : isDue p now c.ledger e with
  | false => rw [visit_of_not_isDue p now h]
  | true => rw [(visit_of_isDue p now h).1, Ledger.get_modify _ _ hlt, if_neg hne]

theorem webhookId_verdicts_visit (c : Checkup) (e : Entry) :
    (visit p now c e).verdicts.map (·.webhookId)
      = c.verdicts.map (·.webhookId) ++ if isDue p now c.ledger e then [e.id] else [] := by
  cases h : isDue p now c.ledger e with
  | false => simp [visit_of_not_isDue p now h]
  | true =>
    obtain ⟨-, rate, action, hverdicts⟩ := visit_of_isDue p now h
    simp [hverdicts]

/-! ## Switching off -/

/-- Whether a visit switches a webhook off: it is due, too many of its deliveries failed,
unhealthy webhooks are switched off, and the store can be reached and has it active. -/
structure Disables (c : Checkup) (e : Entry) (s : Subscription) : Prop where
  due : isDue p now c.ledger e = true
  unhealthy : p.isUnhealthy (c.ledger.get e.stats).failureRate = true
  autoDisable : p.autoDisable = true
  stored : c.repository.store.find? e.id = some s
  active : s.isActive = true

theorem repository_handleUnhealthy (repository : Repository) (e : Entry) (rate : Float) :
    (handleUnhealthy p repository e rate).2.1
      = if p.autoDisable then (repository.deactivate e.id).2 else repository := by
  unfold handleUnhealthy
  cases p.autoDisable with
  | false => rfl
  | true =>
    simp only [Bool.not_true, Bool.false_eq_true, if_false, if_true]
    rcases repository.deactivate e.id with ⟨_ | _ | _, r⟩ <;> rfl

theorem repository_act (repository : Repository) (e : Entry) (rate : Float) :
    (act p repository e rate).2.1
      = if p.isUnhealthy rate ∧ p.autoDisable then (repository.deactivate e.id).2 else repository := by
  unfold act
  cases p.isUnhealthy rate with
  | false => rfl
  | true => simp [repository_handleUnhealthy]

/-- A visit changes nothing in the repository but for a webhook that it switches off. -/
theorem repository_visit (c : Checkup) (e : Entry) :
    (visit p now c e).repository = c.repository ∨
      ∃ s, Disables p now c e s ∧ (visit p now c e).repository
        = { c.repository with store := c.repository.store.save { s with isActive := false } } := by
  cases hdue : isDue p now c.ledger e with
  | false => exact .inl (by rw [visit_of_not_isDue p now hdue])
  | true =>
    have hvisit : (visit p now c e).repository
        = (act p c.repository e (c.ledger.get e.stats).failureRate).2.1 := by
      rw [isDue] at hdue
      simp [visit, judge?, hdue]
    rw [hvisit, repository_act]
    by_cases hunhealthy : p.isUnhealthy (c.ledger.get e.stats).failureRate ∧ p.autoDisable
    · rw [if_pos hunhealthy]
      rcases c.repository.deactivate_cases e.id with hsame | ⟨s, hs, hactive, hsaved⟩
      · exact .inl hsame
      · exact .inr ⟨s, ⟨hdue, hunhealthy.1, hunhealthy.2, hs, hactive⟩, hsaved⟩
    · exact .inl (if_neg hunhealthy)

/-! ## All visits -/

theorem length_records_foldl_visit (entries : List Entry) (c : Checkup) :
    (entries.foldl (visit p now) c).ledger.records.length = c.ledger.records.length := by
  induction entries generalizing c with
  | nil => rfl
  | cons e entries ih => rw [List.foldl_cons, ih, length_records_visit]

theorem get_foldl_visit_of_not_mem {entries : List Entry} {c : Checkup}
    (hlt : ∀ e ∈ entries, e.stats < c.ledger.records.length) {key : StatsKey}
    (hkey : key ∉ entries.map (·.stats)) :
    (entries.foldl (visit p now) c).ledger.get key = c.ledger.get key := by
  induction entries generalizing c with
  | nil => rfl
  | cons e entries ih =>
    simp only [List.map_cons, List.mem_cons, not_or] at hkey
    obtain ⟨hne, hrest⟩ := hkey
    have hvisited := lt_length_visit p now hlt
    rw [List.foldl_cons, ih hvisited hrest]
    exact get_visit_of_ne p now (hlt e List.mem_cons_self) hne

/-- The visits to come find every entry as due as it was before the first visit. -/
theorem isDue_visit {entries : List Entry} {c : Checkup} {e : Entry}
    (hlt : e.stats < c.ledger.records.length) (hnotin : e.stats ∉ entries.map (·.stats))
    {x : Entry} (hx : x ∈ entries) :
    isDue p now (visit p now c e).ledger x = isDue p now c.ledger x := by
  have hne : x.stats ≠ e.stats := by
    intro heq
    exact hnotin (List.mem_map.2 ⟨x, hx, heq⟩)
  unfold isDue
  rw [get_visit_of_ne p now hlt hne]

theorem get_foldl_visit {entries : List Entry} {c : Checkup}
    (hlt : ∀ e ∈ entries, e.stats < c.ledger.records.length)
    (hnodup : (entries.map (·.stats)).Nodup) {e : Entry} (he : e ∈ entries) :
    (entries.foldl (visit p now) c).ledger.get e.stats
      = if isDue p now c.ledger e then .startingAt now else c.ledger.get e.stats := by
  induction entries generalizing c with
  | nil => cases he
  | cons x entries ih =>
    obtain ⟨hx, hnodup⟩ := List.nodup_cons.1 hnodup
    have hltx := hlt x List.mem_cons_self
    have hvisited := lt_length_visit p now hlt
    rw [List.foldl_cons]
    rcases List.mem_cons.1 he with rfl | he
    · rw [get_foldl_visit_of_not_mem p now hvisited hx, get_visit p now hltx]
    · have hne : e.stats ≠ x.stats := by
        intro heq
        exact hx (List.mem_map.2 ⟨e, he, heq⟩)
      rw [ih hvisited hnodup he, isDue_visit p now hltx hx he, get_visit_of_ne p now hltx hne]

theorem webhookId_verdicts_foldl_visit {entries : List Entry} {c : Checkup}
    (hlt : ∀ e ∈ entries, e.stats < c.ledger.records.length)
    (hnodup : (entries.map (·.stats)).Nodup) :
    (entries.foldl (visit p now) c).verdicts.map (·.webhookId)
      = c.verdicts.map (·.webhookId) ++ (entries.filter (isDue p now c.ledger)).map (·.id) := by
  induction entries generalizing c with
  | nil => simp
  | cons e entries ih =>
    obtain ⟨he, hnodup⟩ := List.nodup_cons.1 hnodup
    have hlte := hlt e List.mem_cons_self
    have hvisited := lt_length_visit p now hlt
    have hdue : entries.filter (isDue p now (visit p now c e).ledger)
        = entries.filter (isDue p now c.ledger) :=
      List.filter_congr fun x hx => isDue_visit p now hlte he hx
    rw [List.foldl_cons, ih hvisited hnodup, webhookId_verdicts_visit, hdue]
    cases h : isDue p now c.ledger e <;> simp [h]

end Checkup

/-! ## The whole check -/

variable (p : HealthPolicy) (now : Time) (repository : Repository) {l : Ledger}
  {entries : List Entry}

@[simp] theorem length_records_checkHealth (l : Ledger) (entries : List Entry) :
    (checkHealth p now repository l entries).ledger.records.length = l.records.length :=
  Checkup.length_records_foldl_visit p now entries _

/-- A judged entry starts over, the record of any other one stays as it is. -/
theorem get_checkHealth (hlt : ∀ e ∈ entries, e.stats < l.records.length)
    (hnodup : (entries.map (·.stats)).Nodup) {e : Entry} (he : e ∈ entries) :
    (checkHealth p now repository l entries).ledger.get e.stats
      = if Checkup.isDue p now l e then .startingAt now else l.get e.stats :=
  Checkup.get_foldl_visit p now hlt hnodup he

/-- The entries that are judged are those whose window had elapsed when the check began. -/
theorem webhookId_verdicts_checkHealth (hlt : ∀ e ∈ entries, e.stats < l.records.length)
    (hnodup : (entries.map (·.stats)).Nodup) :
    (checkHealth p now repository l entries).verdicts.map (·.webhookId)
      = (entries.filter (Checkup.isDue p now l)).map (·.id) :=
  Checkup.webhookId_verdicts_foldl_visit p now hlt hnodup

end WebhookRelay

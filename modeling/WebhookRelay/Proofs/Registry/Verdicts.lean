-- SUMMARY: What a health check finds and does, entry by entry and in any order: verdicts, records that start over, rows that are switched off.
import WebhookRelay.Proofs.Registry.Checkup

/-!
# Verdicts

The verdict on a webhook follows from what belongs to this webhook alone: its record,
its row in the store, and whether the store can be asked about it (`verdictOf`). A visit
changes the record and the row of the webhook it judges and nothing else, so each visit
finds for its own webhook what the first one would have found.

Switching off may fail for one webhook and not for another, say when the connection
breaks between two visits. `checkHealthOver` is a health check that meets another fault
at each webhook; with the same fault all along it is `checkHealth`.
-/

namespace WebhookRelay

/-- A ledger is known by its records. -/
theorem Ledger.eq_of_get_eq {l m : Ledger} (hlen : l.records.length = m.records.length)
    (h : ∀ key, l.get key = m.get key) : l = m := by
  obtain ⟨ls⟩ := l
  obtain ⟨ms⟩ := m
  congr 1
  refine List.ext_getElem hlen ?_
  intro key hl hm
  simpa [get, List.getElem?_eq_getElem hl, List.getElem?_eq_getElem hm] using h key

namespace Checkup

variable (p : HealthPolicy) (now : Time)

/-! ## The verdict on one webhook -/

/-- What is done about a webhook with a failure rate, given why the store cannot be asked,
if it cannot, and the row it has. -/
def actionOf (fault : Option String) (stored : Option Subscription) (rate : Float) :
    HealthAction :=
  if p.isUnhealthy rate = false then .healthy
  else if p.autoDisable = false then .warned
  else if fault.isSome then .disableFailed
  else if stored.any (·.isActive) then .disabled
  else .alreadyInactive

/-- The verdict on a webhook with a record. -/
def verdictOf (fault : Option String) (stored : Option Subscription) (stats : Stats)
    (id : WebhookId) : Verdict :=
  ⟨id, stats.failureRate, actionOf p fault stored stats.failureRate⟩

theorem actionOf_ne_healthy_iff (fault : Option String) (stored : Option Subscription)
    (rate : Float) : actionOf p fault stored rate ≠ .healthy ↔ p.isUnhealthy rate = true := by
  unfold actionOf
  split_ifs with h <;> simp [h]

theorem isActive_of_alreadyInactive {fault : Option String} {stored : Option Subscription}
    {rate : Float} (h : actionOf p fault stored rate = .alreadyInactive) {s : Subscription}
    (hs : stored = some s) : s.isActive = false := by
  subst hs
  unfold actionOf at h
  cases hactive : s.isActive with
  | false => rfl
  | true =>
    simp only [Option.any_some, hactive, if_true] at h
    split_ifs at h

theorem act_fst (repository : Repository) (e : Entry) (rate : Float) :
    (act p repository e rate).1
      = actionOf p repository.deactivateFault (repository.store.find? e.id) rate := by
  unfold act actionOf
  cases p.isUnhealthy rate with
  | false => rfl
  | true =>
    unfold handleUnhealthy
    cases p.autoDisable with
    | false => rfl
    | true =>
      obtain ⟨store, findFault, deactivateFault⟩ := repository
      cases deactivateFault with
      | some text => rfl
      | none =>
        simp only [Repository.deactivate, Store.deactivate]
        cases store.find? e.id with
        | none => rfl
        | some s => cases hactive : s.isActive <;> simp [hactive]

theorem repository_act_eq (repository : Repository) (e : Entry) (rate : Float) :
    (act p repository e rate).2.1
      = if actionOf p repository.deactivateFault (repository.store.find? e.id) rate = .disabled then
          { repository with store := (repository.store.deactivate e.id).2 }
        else repository := by
  rw [repository_act]
  unfold actionOf
  cases p.isUnhealthy rate with
  | false => simp
  | true =>
    cases p.autoDisable with
    | false => simp
    | true =>
      obtain ⟨store, findFault, deactivateFault⟩ := repository
      cases deactivateFault with
      | some text => simp [Repository.deactivate]
      | none =>
        simp only [Repository.deactivate, Store.deactivate]
        cases store.find? e.id with
        | none => simp
        | some s => cases hactive : s.isActive <;> simp [hactive]

/-! ## One visit -/

theorem verdicts_visit (c : Checkup) (e : Entry) :
    (visit p now c e).verdicts = c.verdicts ++ if isDue p now c.ledger e then
      [verdictOf p c.repository.deactivateFault (c.repository.store.find? e.id)
        (c.ledger.get e.stats) e.id] else [] := by
  cases h : isDue p now c.ledger e with
  | false => simp [visit_of_not_isDue p now h]
  | true =>
    rw [isDue] at h
    simp [visit, judge?, h, verdictOf, act_fst]

theorem repository_visit_eq (c : Checkup) (e : Entry) :
    (visit p now c e).repository
      = if isDue p now c.ledger e = true ∧ (verdictOf p c.repository.deactivateFault
          (c.repository.store.find? e.id) (c.ledger.get e.stats) e.id).action = .disabled then
          { c.repository with store := (c.repository.store.deactivate e.id).2 }
        else c.repository := by
  cases h : isDue p now c.ledger e with
  | false => simp [visit_of_not_isDue p now h]
  | true =>
    rw [isDue] at h
    simp [visit, judge?, h, verdictOf, repository_act_eq]

/-! ## Faults that differ from webhook to webhook -/

/-- The check as it stands, with the store failing to switch off as told. -/
def meeting (c : Checkup) (fault : Option String) : Checkup :=
  { c with repository := { c.repository with deactivateFault := fault } }

/-- A visit that meets the fault that there is for the webhook. -/
def visitOver (faults : WebhookId → Option String) (c : Checkup) (e : Entry) : Checkup :=
  visit p now (c.meeting (faults e.id)) e

variable (faults : WebhookId → Option String)

/-- The verdict of a visit as it stands. -/
def verdictAt (c : Checkup) (e : Entry) : Verdict :=
  verdictOf p (faults e.id) (c.repository.store.find? e.id) (c.ledger.get e.stats) e.id

theorem verdicts_visitOver (c : Checkup) (e : Entry) :
    (visitOver p now faults c e).verdicts
      = c.verdicts ++ if isDue p now c.ledger e then [verdictAt p faults c e] else [] :=
  verdicts_visit p now _ e

theorem store_visitOver (c : Checkup) (e : Entry) :
    (visitOver p now faults c e).repository.store
      = if isDue p now c.ledger e = true ∧ (verdictAt p faults c e).action = .disabled then
          (c.repository.store.deactivate e.id).2
        else c.repository.store :=
  (congrArg Repository.store (repository_visit_eq p now (c.meeting (faults e.id)) e)).trans
    (apply_ite Repository.store ..)

theorem find?_visitOver (c : Checkup) (e : Entry) (id : WebhookId) :
    (visitOver p now faults c e).repository.store.find? id
      = if isDue p now c.ledger e = true ∧ (verdictAt p faults c e).action = .disabled ∧ e.id = id
        then (c.repository.store.find? id).map ({ · with isActive := false })
        else c.repository.store.find? id := by
  rw [store_visitOver]
  by_cases h : isDue p now c.ledger e = true ∧ (verdictAt p faults c e).action = .disabled
  · rw [if_pos h, Store.find?_deactivate]
    simp [h]
  · rw [if_neg h, if_neg fun hall => h ⟨hall.1, hall.2.1⟩]

/-- The ledger does not depend on the store. -/
theorem ledger_visitOver (c : Checkup) (e : Entry) :
    (visitOver p now faults c e).ledger = (visit p now c e).ledger := by
  cases h : isDue p now c.ledger e with
  | false =>
    have hvisit : visitOver p now faults c e = c.meeting (faults e.id) := visit_of_not_isDue p now h
    rw [hvisit, visit_of_not_isDue p now h]
    rfl
  | true =>
    have hvisit : (visitOver p now faults c e).ledger = c.ledger.modify e.stats (·.resetAt now) :=
      (visit_of_isDue p now (c := c.meeting (faults e.id)) h).1
    rw [hvisit, (visit_of_isDue p now h).1]

/-- With the fault that the repository has anyway a visit is the same. -/
theorem visitOver_eq_visit {c : Checkup} {e : Entry}
    (h : faults e.id = c.repository.deactivateFault) :
    visitOver p now faults c e = visit p now c e := by
  rw [visitOver, meeting, h]

theorem deactivateFault_visit (c : Checkup) (e : Entry) :
    (visit p now c e).repository.deactivateFault = c.repository.deactivateFault := by
  rw [repository_visit_eq]
  split <;> rfl

theorem findFault_visitOver (c : Checkup) (e : Entry) :
    (visitOver p now faults c e).repository.findFault = c.repository.findFault := by
  rw [visitOver, repository_visit_eq]
  split <;> rfl

/-! ## All visits -/

/-- The records after all visits: those of entries that were due start over. -/
theorem get_foldl_visitOver {entries : List Entry} {c : Checkup}
    (hlt : ∀ e ∈ entries, e.stats < c.ledger.records.length) (key : StatsKey) :
    (entries.foldl (visitOver p now faults) c).ledger.get key
      = if ∃ e ∈ entries, isDue p now c.ledger e = true ∧ e.stats = key then .startingAt now
        else c.ledger.get key := by
  induction entries generalizing c with
  | nil => simp
  | cons e entries ih =>
    have hlte := hlt e List.mem_cons_self
    have hledger := ledger_visitOver p now faults c e
    have hvisited : ∀ x ∈ entries,
        x.stats < (visitOver p now faults c e).ledger.records.length := by
      rw [hledger]
      exact lt_length_visit p now hlt
    rw [List.foldl_cons, ih hvisited, hledger]
    -- A record that has started over looks the same after a later visit to it, due or not.
    by_cases hkey : key = e.stats
    · subst hkey
      rw [get_visit p now hlte]
      cases hdue : isDue p now c.ledger e with
      | true => simp [hdue]
      | false => simp [visit_of_not_isDue p now hdue, hdue]
    · have hsame : ∀ x : Entry, x.stats = key →
          isDue p now (visit p now c e).ledger x = isDue p now c.ledger x := by
        intro x hx
        rw [isDue, isDue, hx, get_visit_of_ne p now hlte hkey]
      have hiff : (∃ x ∈ entries, isDue p now (visit p now c e).ledger x = true ∧ x.stats = key) ↔
          ∃ x ∈ e :: entries, isDue p now c.ledger x = true ∧ x.stats = key := by
        constructor
        · rintro ⟨x, hx, hdue, hstats⟩
          rw [hsame x hstats] at hdue
          exact ⟨x, List.mem_cons_of_mem _ hx, hdue, hstats⟩
        · rintro ⟨x, hx, hdue, hstats⟩
          rcases List.mem_cons.1 hx with rfl | hx
          · exact absurd hstats.symm hkey
          · exact ⟨x, hx, (hsame x hstats).trans hdue, hstats⟩
      rw [get_visit_of_ne p now hlte hkey]
      simp only [hiff]

/-- A row that is off, or is switched off, is off. -/
theorem isActive_of_off {stored : Option Subscription} {q : Prop} [Decidable q]
    (hoff : ∀ s, stored = some s → s.isActive = false) {s : Subscription}
    (h : (if q then stored.map ({ · with isActive := false }) else stored) = some s) :
    s.isActive = false := by
  split at h
  · obtain ⟨-, -, rfl⟩ := Option.map_eq_some_iff.1 h
    rfl
  · exact hoff s h

/-- What the visits do to the store is what their verdicts say. -/
theorem exists_verdicts_foldl_visitOver (entries : List Entry) (c : Checkup) :
    ∃ new, (entries.foldl (visitOver p now faults) c).verdicts = c.verdicts ++ new ∧
      (∀ id, (entries.foldl (visitOver p now faults) c).repository.store.find? id
        = if ∃ v ∈ new, v.webhookId = id ∧ v.action = .disabled
          then (c.repository.store.find? id).map ({ · with isActive := false })
          else c.repository.store.find? id) ∧
      ∀ v ∈ new, v.action = .disabled ∨ v.action = .alreadyInactive → ∀ s,
        (entries.foldl (visitOver p now faults) c).repository.store.find? v.webhookId = some s →
          s.isActive = false := by
  induction entries generalizing c with
  | nil => exact ⟨[], by simp⟩
  | cons e entries ih =>
    obtain ⟨new, hnew, hstore, hoff⟩ := ih (visitOver p now faults c e)
    rw [List.foldl_cons]
    rw [verdicts_visitOver] at hnew
    -- A row is switched off by the first visit or by one of those after it.
    cases hdue : isDue p now c.ledger e with
    | false =>
      simp only [find?_visitOver, hdue, Bool.false_eq_true, false_and, if_false] at hnew hstore
      exact ⟨new, by simpa using hnew, hstore, hoff⟩
    | true =>
      rw [hdue, if_pos rfl, List.append_assoc, List.singleton_append] at hnew
      simp only [find?_visitOver, hdue, true_and] at hstore
      refine ⟨verdictAt p faults c e :: new, hnew, ?rows, ?off⟩
      case rows =>
        intro id
        rw [hstore]
        have hid : (verdictAt p faults c e).webhookId = e.id := rfl
        by_cases hhead : (verdictAt p faults c e).action = .disabled ∧ e.id = id
        · by_cases htail : ∃ v ∈ new, v.webhookId = id ∧ v.action = .disabled <;>
            simp [hid, hhead, htail, Function.comp_def]
        · have hhead' : ¬ (e.id = id ∧ (verdictAt p faults c e).action = .disabled) :=
            fun h => hhead h.symm
          simp [hid, hhead, hhead']
      case off =>
        intro v hv haction s hs
        rcases List.mem_cons.1 hv with rfl | hv
        · refine isActive_of_off ?_ ((hstore _).symm.trans hs)
          intro t ht
          rcases haction with hdisabled | hinactive
          · rw [if_pos ⟨hdisabled, rfl⟩] at ht
            obtain ⟨-, -, rfl⟩ := Option.map_eq_some_iff.1 ht
            rfl
          · have hnot : (verdictAt p faults c e).action ≠ .disabled := by simp [hinactive]
            rw [if_neg fun h => hnot h.1] at ht
            exact isActive_of_alreadyInactive p hinactive ht
        · exact hoff v hv haction s hs

/-- Every visit finds for its webhook what was there before the first one. -/
theorem verdictAt_visitOver {c : Checkup} {e x : Entry} (hlt : e.stats < c.ledger.records.length)
    (hid : e.id ≠ x.id) (hstats : x.stats ≠ e.stats) :
    verdictAt p faults (visitOver p now faults c e) x = verdictAt p faults c x := by
  have hrow : (visitOver p now faults c e).repository.store.find? x.id
      = c.repository.store.find? x.id := by
    rw [find?_visitOver, if_neg fun h => hid h.2.2]
  have hrecord : (visitOver p now faults c e).ledger.get x.stats = c.ledger.get x.stats := by
    rw [ledger_visitOver, get_visit_of_ne p now hlt hstats]
  rw [verdictAt, verdictAt, hrow, hrecord]

theorem verdicts_foldl_visitOver {entries : List Entry} {c : Checkup}
    (hlt : ∀ e ∈ entries, e.stats < c.ledger.records.length)
    (hids : (entries.map (·.id)).Nodup) (hstats : (entries.map (·.stats)).Nodup) :
    (entries.foldl (visitOver p now faults) c).verdicts
      = c.verdicts ++ (entries.filter (isDue p now c.ledger)).map (verdictAt p faults c) := by
  induction entries generalizing c with
  | nil => simp
  | cons e entries ih =>
    obtain ⟨hid, hids⟩ := List.nodup_cons.1 hids
    obtain ⟨hkey, hstats⟩ := List.nodup_cons.1 hstats
    have hlte := hlt e List.mem_cons_self
    have hledger := ledger_visitOver p now faults c e
    have hvisited : ∀ x ∈ entries,
        x.stats < (visitOver p now faults c e).ledger.records.length := by
      rw [hledger]
      exact lt_length_visit p now hlt
    have hdue : entries.filter (isDue p now (visitOver p now faults c e).ledger)
        = entries.filter (isDue p now c.ledger) := by
      rw [hledger]
      exact List.filter_congr fun x hx => isDue_visit p now hlte hkey hx
    have hverdicts : (entries.filter (isDue p now c.ledger)).map
          (verdictAt p faults (visitOver p now faults c e))
        = (entries.filter (isDue p now c.ledger)).map (verdictAt p faults c) := by
      refine List.map_congr_left fun x hx => ?_
      have hx := (List.mem_filter.1 hx).1
      refine verdictAt_visitOver p now faults hlte ?_ ?_
      · intro heq
        exact hid (List.mem_map.2 ⟨x, hx, heq.symm⟩)
      · intro heq
        exact hkey (List.mem_map.2 ⟨x, hx, heq⟩)
    rw [List.foldl_cons, ih hvisited hids hstats, verdicts_visitOver, hdue, hverdicts]
    cases h : isDue p now c.ledger e <;> simp [h]

theorem length_records_foldl_visitOver (entries : List Entry) (c : Checkup) :
    (entries.foldl (visitOver p now faults) c).ledger.records.length = c.ledger.records.length := by
  induction entries generalizing c with
  | nil => rfl
  | cons e entries ih => rw [List.foldl_cons, ih, ledger_visitOver, length_records_visit]

theorem findFault_foldl_visitOver (entries : List Entry) (c : Checkup) :
    (entries.foldl (visitOver p now faults) c).repository.findFault = c.repository.findFault := by
  induction entries generalizing c with
  | nil => rfl
  | cons e entries ih => rw [List.foldl_cons, ih, findFault_visitOver]

theorem foldl_visitOver_eq_foldl_visit {entries : List Entry} {c : Checkup}
    (h : ∀ e ∈ entries, faults e.id = c.repository.deactivateFault) :
    entries.foldl (visitOver p now faults) c = entries.foldl (visit p now) c := by
  induction entries generalizing c with
  | nil => rfl
  | cons e entries ih =>
    rw [List.foldl_cons, List.foldl_cons, visitOver_eq_visit p now faults (h e List.mem_cons_self)]
    refine ih fun x hx => ?_
    rw [deactivateFault_visit]
    exact h x (List.mem_cons_of_mem _ hx)

end Checkup

open Checkup

/-! ## The whole check -/

/-- A health check that meets another fault at each webhook. -/
def checkHealthOver (p : HealthPolicy) (now : Time) (faults : WebhookId → Option String)
    (repository : Repository) (ledger : Ledger) (entries : List Entry) : Checkup :=
  entries.foldl (Checkup.visitOver p now faults) (.start repository ledger)

variable (p : HealthPolicy) (now : Time) (faults : WebhookId → Option String)
  (repository : Repository)

section

variable {l : Ledger} {entries : List Entry}

theorem checkHealthOver_eq_checkHealth
    (h : ∀ e ∈ entries, faults e.id = repository.deactivateFault) :
    checkHealthOver p now faults repository l entries = checkHealth p now repository l entries :=
  foldl_visitOver_eq_foldl_visit p now faults h

theorem verdicts_checkHealthOver (hlt : ∀ e ∈ entries, e.stats < l.records.length)
    (hids : (entries.map (·.id)).Nodup) (hstats : (entries.map (·.stats)).Nodup) :
    (checkHealthOver p now faults repository l entries).verdicts
      = (entries.filter (isDue p now l)).map (verdictAt p faults (.start repository l)) :=
  (verdicts_foldl_visitOver p now faults hlt hids hstats).trans (List.nil_append _)

/-- The records of entries that are due start over, all others stay as they are. -/
theorem get_checkHealthOver (hlt : ∀ e ∈ entries, e.stats < l.records.length) (key : StatsKey) :
    (checkHealthOver p now faults repository l entries).ledger.get key
      = if ∃ e ∈ entries, isDue p now l e = true ∧ e.stats = key then .startingAt now
        else l.get key :=
  get_foldl_visitOver p now faults hlt key

theorem length_records_checkHealthOver :
    (checkHealthOver p now faults repository l entries).ledger.records.length = l.records.length :=
  length_records_foldl_visitOver p now faults entries _

theorem findFault_checkHealthOver :
    (checkHealthOver p now faults repository l entries).repository.findFault
      = repository.findFault :=
  findFault_foldl_visitOver p now faults entries _

/-- Rows are switched off where a verdict says so, and nowhere else. -/
theorem find?_checkHealthOver (id : WebhookId) :
    (checkHealthOver p now faults repository l entries).repository.store.find? id
      = if ∃ v ∈ (checkHealthOver p now faults repository l entries).verdicts,
          v.webhookId = id ∧ v.action = .disabled
        then (repository.store.find? id).map ({ · with isActive := false })
        else repository.store.find? id := by
  obtain ⟨new, hnew, hstore, -⟩ :=
    exists_verdicts_foldl_visitOver p now faults entries (.start repository l)
  rw [checkHealthOver, hstore, hnew]
  rfl

/-- A webhook that was switched off, or found to be off, is off in the end. -/
theorem isActive_of_verdict {v : Verdict}
    (hv : v ∈ (checkHealthOver p now faults repository l entries).verdicts)
    (haction : v.action = .disabled ∨ v.action = .alreadyInactive) {s : Subscription}
    (hs : (checkHealthOver p now faults repository l entries).repository.store.find? v.webhookId
      = some s) : s.isActive = false := by
  obtain ⟨new, hnew, -, hoff⟩ :=
    exists_verdicts_foldl_visitOver p now faults entries (.start repository l)
  rw [checkHealthOver, hnew] at hv
  exact hoff v hv haction s hs

/-- Health checks that judge and do the same leave the same behind. -/
theorem checkHealthOver_congr {other : List Entry}
    (hlt : ∀ e ∈ entries, e.stats < l.records.length) (hperm : other.Perm entries)
    (hverdicts : (checkHealthOver p now faults repository l other).verdicts.Perm
      (checkHealthOver p now faults repository l entries).verdicts) :
    (checkHealthOver p now faults repository l other).ledger
        = (checkHealthOver p now faults repository l entries).ledger ∧
      (checkHealthOver p now faults repository l other).repository.store
        = (checkHealthOver p now faults repository l entries).repository.store := by
  constructor
  · refine Ledger.eq_of_get_eq ?_ fun key => ?_
    · rw [length_records_checkHealthOver, length_records_checkHealthOver]
    · rw [get_checkHealthOver p now faults repository fun e he => hlt e (hperm.mem_iff.1 he),
        get_checkHealthOver p now faults repository hlt]
      simp only [hperm.mem_iff]
  · refine Store.eq_of_find?_eq fun id => ?_
    rw [find?_checkHealthOver, find?_checkHealthOver]
    simp only [hverdicts.mem_iff]

/-! ## The same fault all along -/

theorem checkHealthOver_const :
    checkHealthOver p now (fun _ => repository.deactivateFault) repository l entries
      = checkHealth p now repository l entries :=
  checkHealthOver_eq_checkHealth p now _ repository fun _ _ => rfl

theorem findFault_checkHealth :
    (checkHealth p now repository l entries).repository.findFault = repository.findFault := by
  rw [← checkHealthOver_const]
  exact findFault_checkHealthOver ..

theorem get_checkHealth_of_lt (hlt : ∀ e ∈ entries, e.stats < l.records.length) (key : StatsKey) :
    (checkHealth p now repository l entries).ledger.get key
      = if ∃ e ∈ entries, isDue p now l e = true ∧ e.stats = key
        then .startingAt now else l.get key := by
  rw [← checkHealthOver_const]
  exact get_checkHealthOver p now _ repository hlt key

theorem find?_checkHealth (id : WebhookId) :
    (checkHealth p now repository l entries).repository.store.find? id
      = if ∃ v ∈ (checkHealth p now repository l entries).verdicts,
          v.webhookId = id ∧ v.action = .disabled
        then (repository.store.find? id).map ({ · with isActive := false })
        else repository.store.find? id := by
  rw [← checkHealthOver_const]
  exact find?_checkHealthOver p now _ repository id

theorem verdicts_checkHealth (hlt : ∀ e ∈ entries, e.stats < l.records.length)
    (hids : (entries.map (·.id)).Nodup) (hstats : (entries.map (·.stats)).Nodup) :
    (checkHealth p now repository l entries).verdicts
      = (entries.filter (isDue p now l)).map fun e =>
          verdictOf p repository.deactivateFault (repository.store.find? e.id) (l.get e.stats)
            e.id := by
  rw [← checkHealthOver_const]
  exact verdicts_checkHealthOver p now _ repository hlt hids hstats

end

/-- A health check judges each webhook by itself: by its record when the check begins, by
its row in the store, and by whether switching off fails for it. The entries that are due
get one verdict each, in their order. Their records start over, and the rows of those that
were disabled are switched off; nothing else changes. So the order of the entries is the
order of the verdicts, and makes no other difference. -/
theorem health_check_entrywise {l : Ledger} {entries : List Entry}
    (hids : (entries.map (·.id)).Nodup) (hstats : (entries.map (·.stats)).Nodup)
    (hlt : ∀ e ∈ entries, e.stats < l.records.length) :
    let c := checkHealthOver p now faults repository l entries
    let verdict := fun e : Entry =>
      verdictOf p (faults e.id) (repository.store.find? e.id) (l.get e.stats) e.id
    ((∀ e ∈ entries, faults e.id = repository.deactivateFault) →
      c = checkHealth p now repository l entries) ∧
    c.verdicts = (entries.filter (isDue p now l)).map verdict ∧
    (∀ key, c.ledger.get key
      = if ∃ e ∈ entries, isDue p now l e = true ∧ e.stats = key then .startingAt now
        else l.get key) ∧
    (∀ id, c.repository.store.find? id
      = if ∃ v ∈ c.verdicts, v.webhookId = id ∧ v.action = .disabled
        then (repository.store.find? id).map ({ · with isActive := false })
        else repository.store.find? id) ∧
    ∀ other : List Entry, other.Perm entries →
      let d := checkHealthOver p now faults repository l other
      d.verdicts = (other.filter (isDue p now l)).map verdict ∧ d.verdicts.Perm c.verdicts ∧
        d.ledger = c.ledger ∧ d.repository.store = c.repository.store := by
  intro c verdict
  have hverdicts : c.verdicts = (entries.filter (isDue p now l)).map verdict :=
    verdicts_checkHealthOver p now faults repository hlt hids hstats
  refine ⟨checkHealthOver_eq_checkHealth p now faults repository, hverdicts,
    get_checkHealthOver p now faults repository hlt, find?_checkHealthOver p now faults repository,
    ?_⟩
  intro other hperm d
  have hother : d.verdicts = (other.filter (isDue p now l)).map verdict :=
    verdicts_checkHealthOver p now faults repository (fun e he => hlt e (hperm.mem_iff.1 he))
      ((hperm.map _).nodup_iff.2 hids) ((hperm.map _).nodup_iff.2 hstats)
  have hpermuted : d.verdicts.Perm c.verdicts := by
    rw [hother, hverdicts]
    exact (hperm.filter _).map _
  exact ⟨hother, hpermuted, checkHealthOver_congr p now faults repository hlt hperm hpermuted⟩

/-- Five webhooks: one is switched off, one fails exactly half of the time, one is not due,
one cannot be switched off, and one is no longer stored. -/
theorem health_check_entrywise_of_five :
    let hook := fun n => Subscription.new ⟨n⟩ ("http://[::1]/" ++ toString n.toNat)
    let repository := Repository.ofStore (.ofList [hook 1, hook 2, hook 3, hook 4])
    let l : Ledger := ⟨[⟨4, 6, 0⟩, ⟨5, 5, 0⟩, ⟨0, 9, 1⟩, ⟨0, 3, 0⟩, ⟨1, 2, 0⟩]⟩
    let entries : List Entry := [⟨hook 1, 0⟩, ⟨hook 2, 1⟩, ⟨hook 3, 2⟩, ⟨hook 4, 3⟩, ⟨hook 5, 4⟩]
    let faults := fun id : WebhookId => if id = ⟨4⟩ then some "connection reset" else none
    let c := checkHealthOver ⟨60000, 50.0, true⟩ 60000 faults repository l entries
    c.verdicts.map (fun v => (v.webhookId, v.action))
        = [(⟨1⟩, .disabled), (⟨2⟩, .healthy), (⟨4⟩, .disableFailed), (⟨5⟩, .alreadyInactive)] ∧
      c.ledger.get 0 = .startingAt 60000 ∧ c.ledger.get 2 = ⟨0, 9, 1⟩ ∧
      c.repository.store.find? ⟨1⟩ = some { hook 1 with isActive := false } ∧
      c.repository.store.find? ⟨4⟩ = some (hook 4) := by
  intro hook repository l entries faults c
  have hids : (entries.map (·.id)).Nodup := by decide
  have hstats : (entries.map (·.stats)).Nodup := by decide
  have hlt : ∀ e ∈ entries, e.stats < l.records.length := by decide
  obtain ⟨-, hverdicts, hget, hfind, -⟩ :=
    health_check_entrywise ⟨60000, 50.0, true⟩ 60000 faults repository hids hstats hlt
  refine ⟨?_, ?_, ?_, ?_, ?_⟩
  · rw [hverdicts]
    decide +kernel
  · rw [hget]
    decide +kernel
  · rw [hget]
    decide +kernel
  · rw [hfind, hverdicts]
    decide +kernel
  · rw [hfind, hverdicts]
    decide +kernel

end WebhookRelay

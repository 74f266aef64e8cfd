-- SUMMARY: One refresh: the registry it leads to and the counts it reports, or, when the store cannot be read, the registry it leaves in place.
import WebhookRelay.Proofs.Registry.Entries
import WebhookRelay.Proofs.Registry.Verdicts

/-!
# One refresh

A refresh is a health check followed by a reload. The two fail independently: the
health check has done its work on the records and the store by the time the reload finds
that the store cannot be read. A reload replaces the registry by what is active in the
store; what the registry was before decides only which records the new entries have.
-/

namespace WebhookRelay
namespace Registry

/-! ## Ids of two registries -/

theorem mem_map_id_iff (r : Registry) (id : WebhookId) :
    id ∈ r.entries.map (·.id) ↔ (r.find? id).isSome := by
  rw [Option.isSome_iff_exists]
  constructor
  · intro h
    obtain ⟨e, he, rfl⟩ := List.mem_map.1 h
    exact ⟨e, (find?_eq_some_iff r).2 ⟨he, rfl⟩⟩
  · rintro ⟨e, he⟩
    obtain ⟨hmem, rfl⟩ := (find?_eq_some_iff r).1 he
    exact List.mem_map_of_mem hmem

/-- The entries of a registry whose id another one has. -/
def shared (a b : Registry) : List Entry :=
  a.entries.filter fun e => (b.find? e.id).isSome

theorem mem_map_id_shared_iff (a b : Registry) (id : WebhookId) :
    id ∈ (a.shared b).map (·.id) ↔ (a.find? id).isSome ∧ (b.find? id).isSome := by
  rw [← mem_map_id_iff a, shared, List.mem_map, List.mem_map]
  constructor
  · rintro ⟨e, he, rfl⟩
    obtain ⟨hmem, hb⟩ := List.mem_filter.1 he
    exact ⟨⟨e, hmem, rfl⟩, hb⟩
  · rintro ⟨⟨e, hmem, rfl⟩, hb⟩
    exact ⟨e, List.mem_filter.2 ⟨hmem, hb⟩, rfl⟩

/-- Two registries share as many ids seen from one of them as from the other. -/
theorem length_shared_comm (a b : Registry) : (a.shared b).length = (b.shared a).length := by
  have hnodup : ∀ a b : Registry, ((a.shared b).map (·.id)).Nodup := fun a b =>
    a.ids_nodup.sublist (List.filter_sublist.map _)
  have hperm : ((a.shared b).map (·.id)).Perm ((b.shared a).map (·.id)) := by
    rw [List.perm_ext_iff_of_nodup (hnodup a b) (hnodup b a)]
    intro id
    rw [mem_map_id_shared_iff, mem_map_id_shared_iff, and_comm]
  simpa using hperm.length_eq

theorem length_shared_add (a b : Registry) :
    (a.shared b).length + (a.entries.filter fun e => (b.find? e.id).isNone).length = a.size := by
  have hnone : (fun e : Entry => (b.find? e.id).isNone) = fun e => !(b.find? e.id).isSome := by
    funext e
    cases b.find? e.id <;> rfl
  rw [hnone, shared, size]
  exact (List.length_eq_length_filter_add _).symm

/-! ## Reloads -/

section

variable (current : Registry) (loaded : Time) (l : Ledger) (store : Store)
  (verdicts : List Verdict)

theorem map_subscription_reload :
    (current.reload loaded l store verdicts).1.entries.map (·.subscription) = store.active :=
  map_subscription_entriesFor ..

/-- After a reload the registry has the active rows of the store, as they are there. -/
theorem map_find?_reload (id : WebhookId) :
    ((current.reload loaded l store verdicts).1.find? id).map (·.subscription)
      = (store.find? id).filter (·.isActive) := by
  have hrows := map_subscription_reload current loaded l store verdicts
  ext s
  simp only [Option.map_eq_some_iff, Option.filter_eq_some_iff, Store.find?_eq_some_iff,
    find?_eq_some_iff]
  constructor
  · rintro ⟨x, ⟨hx, rfl⟩, rfl⟩
    have hactive : x.subscription ∈ store.active := hrows ▸ List.mem_map_of_mem hx
    obtain ⟨hrow, hon⟩ := List.mem_filter.1 hactive
    exact ⟨⟨hrow, rfl⟩, hon⟩
  · rintro ⟨⟨hrow, rfl⟩, hon⟩
    have hactive : s ∈ store.active := List.mem_filter.2 ⟨hrow, hon⟩
    rw [← hrows] at hactive
    obtain ⟨x, hx, rfl⟩ := List.mem_map.1 hactive
    exact ⟨x, ⟨hx, rfl⟩, rfl⟩

/-- An id that is there keeps its record, and no other record than it had; a new id has a
new record, in which nothing is counted yet. -/
theorem stats_of_mem_reload {current : Registry} {x : Entry}
    (hlt : ∀ e ∈ current.entries, e.stats < l.records.length)
    (hx : x ∈ (current.reload loaded l store verdicts).1.entries) :
    (∃ e, current.find? x.id = some e ∧ x.stats = e.stats ∧
      (current.reload loaded l store verdicts).2.1.get x.stats = l.get e.stats) ∨
    (current.find? x.id = none ∧ l.records.length ≤ x.stats ∧
      (current.reload loaded l store verdicts).2.1.get x.stats = .startingAt loaded) := by
  rcases placed_of_mem_entriesFor current loaded hx with
    ⟨e, he, hstats⟩ | ⟨hnone, hle, -, hget⟩
  · refine .inl ⟨e, he, hstats, ?_⟩
    rw [hstats]
    exact get_entriesFor current loaded store.active
      (hlt e ((find?_eq_some_iff current).1 he).1)
  · exact .inr ⟨hnone, hle, hget⟩

/-- What the report of a reload counts. -/
theorem report_reload :
    let report := (current.reload loaded l store verdicts).2.2
    report.loaded = report.kept + report.added ∧
    report.loaded = (current.reload loaded l store verdicts).1.size ∧
    report.kept + report.dropped = current.size := by
  intro report
  let next := (current.reload loaded l store verdicts).1
  have hkept : report.kept = (next.shared current).length := rfl
  refine ⟨(length_shared_add next current).symm, rfl, ?_⟩
  rw [hkept, length_shared_comm]
  exact length_shared_add current next

end

/-! ## The whole refresh -/

variable (p : HealthPolicy) (checked loaded : Time) (repository : Repository)

/-- When the store can be read, a refresh is a health check and a reload. -/
theorem tryRefresh_of_none (l : Ledger) (current : Registry) (h : repository.findFault = none) :
    let c := checkHealth p checked repository l current.entries
    let made := current.reload loaded c.ledger c.repository.store c.verdicts
    current.tryRefresh p checked loaded repository l
      = ⟨c.repository, made.2.1, made.1, .ok made.2.2, c.log ++ [made.2.2.logRecord]⟩ := by
  intro c made
  have hactive : c.repository.findActive = .ok c.repository.store.active := by
    rw [Repository.findActive, findFault_checkHealth, h]
    rfl
  simp only [tryRefresh]
  rw [hactive]

/-- When the store cannot be read, a refresh is a health check. -/
theorem tryRefresh_of_some (l : Ledger) (current : Registry) {text : String}
    (h : repository.findFault = some text) :
    let c := checkHealth p checked repository l current.entries
    current.tryRefresh p checked loaded repository l
      = ⟨c.repository, c.ledger, current, .error (.repository (.storage text)), c.log⟩ := by
  intro c
  have hactive : c.repository.findActive = .error (.storage text) := by
    rw [Repository.findActive, findFault_checkHealth, h]
    rfl
  simp only [tryRefresh]
  rw [hactive]

/-- A webhook that the health check found or left switched off is not in the new registry. -/
theorem find?_reload_of_verdict {l : Ledger} {current : Registry} {v : Verdict}
    (hv : v ∈ (checkHealth p checked repository l current.entries).verdicts)
    (haction : v.action = .disabled ∨ v.action = .alreadyInactive) :
    let c := checkHealth p checked repository l current.entries
    (current.reload loaded c.ledger c.repository.store c.verdicts).1.find? v.webhookId = none := by
  intro c
  have hrow : (c.repository.store.find? v.webhookId).filter (·.isActive) = none := by
    rw [Option.filter_eq_none_iff]
    intro s hs
    subst c
    rw [← checkHealthOver_const] at hv hs
    rw [isActive_of_verdict p checked _ repository hv haction hs]
    exact Bool.false_ne_true
  rw [← map_find?_reload current loaded c.ledger _ c.verdicts, Option.map_eq_none_iff] at hrow
  exact hrow

/-- One refresh. When the store can be read, the registry becomes what is active there
after the health check, an id that stays keeps its record as the health check left it, and
a new id has a new record; what was found or left switched off is gone, and the counts of
the report add up. When the store cannot be read, the registry stays as it was, with its
records: those that were due have started over, and the rows that the health check switched
off are off. -/
theorem replaced_or_kept {l : Ledger} {current : Registry}
    (hlt : ∀ e ∈ current.entries, e.stats < l.records.length) :
    let c := checkHealth p checked repository l current.entries
    let done := current.tryRefresh p checked loaded repository l
    done.repository = c.repository ∧
    (repository.findFault = none → ∃ report, done.result = .ok report ∧
      report.verdicts = c.verdicts ∧
      (∀ id, (done.registry.find? id).map (·.subscription)
        = (c.repository.store.find? id).filter (·.isActive)) ∧
      (∀ x ∈ done.registry.entries,
        (∃ e, current.find? x.id = some e ∧ x.stats = e.stats ∧
          done.ledger.get x.stats = c.ledger.get e.stats) ∨
        (current.find? x.id = none ∧ l.records.length ≤ x.stats ∧
          done.ledger.get x.stats = .startingAt loaded)) ∧
      (∀ v ∈ report.verdicts, v.action = .disabled ∨ v.action = .alreadyInactive →
        done.registry.find? v.webhookId = none) ∧
      report.loaded = report.kept + report.added ∧
      report.loaded = done.registry.size ∧
      report.kept + report.dropped = current.size) ∧
    (∀ text, repository.findFault = some text →
      done.result = .error (.repository (.storage text)) ∧
      done.registry = current ∧
      done.ledger.records.length = l.records.length ∧
      (∀ key, done.ledger.get key
        = if ∃ e ∈ current.entries, Checkup.isDue p checked l e = true ∧ e.stats = key
          then .startingAt checked else l.get key) ∧
      ∀ id, done.repository.store.find? id
        = if ∃ v ∈ c.verdicts, v.webhookId = id ∧ v.action = .disabled
          then (repository.store.find? id).map ({ · with isActive := false })
          else repository.store.find? id) := by
  intro c done
  have hlength : c.ledger.records.length = l.records.length := length_records_checkHealth ..
  cases hfault : repository.findFault with
  | none =>
    have hdone : done = _ := tryRefresh_of_none p checked loaded repository l current hfault
    refine ⟨by rw [hdone], fun _ => ?read, by simp⟩
    rw [hdone]
    refine ⟨_, rfl, rfl, map_find?_reload current loaded c.ledger _ c.verdicts, ?records,
      fun v hv haction => find?_reload_of_verdict p checked loaded repository hv haction,
      report_reload current loaded c.ledger _ c.verdicts⟩
    case records =>
      intro x hx
      rw [← hlength]
      exact stats_of_mem_reload loaded c.ledger _ c.verdicts
        (fun e he => hlength ▸ hlt e he) hx
  | some text =>
    have hdone : done = _ := tryRefresh_of_some p checked loaded repository l current hfault
    refine ⟨by rw [hdone], by simp, fun told htold => ?_⟩
    obtain rfl : text = told := Option.some.inj htold
    rw [hdone]
    refine ⟨rfl, rfl, hlength, ?records, ?rows⟩
    case records =>
      intro key
      exact get_checkHealth_of_lt p checked repository hlt key
    case rows =>
      intro id
      exact find?_checkHealth p checked repository id

/-- Of two webhooks one is switched off while a third one is found in the store; when the
store cannot be read, the webhook is switched off all the same and stays in the registry. -/
theorem replaced_or_kept_of_two :
    let hook := fun n => Subscription.new ⟨n⟩ ("http://[::1]/" ++ toString n.toNat)
    let store : Store := .ofList [hook 1, hook 2, hook 3]
    let l : Ledger := ⟨[⟨4, 6, 0⟩, ⟨1, 9, 5⟩]⟩
    let current : Registry := ⟨[⟨hook 1, 0⟩, ⟨hook 2, 1⟩], by decide⟩
    let p : HealthPolicy := ⟨60000, 50.0, true⟩
    let done := current.tryRefresh p 60000 60001 ⟨store, none, none⟩ l
    let failed := current.tryRefresh p 60000 60001 ⟨store, some "timeout", none⟩ l
    (done.registry.find? ⟨1⟩).map (·.subscription) = none ∧
      (done.registry.find? ⟨3⟩).map (·.subscription) = some (hook 3) ∧
      failed.registry = current ∧ failed.ledger.get 0 = .startingAt 60000 ∧
      failed.repository.store.find? ⟨1⟩ = some { hook 1 with isActive := false } := by
  intro hook store l current p done failed
  have hlt : ∀ e ∈ current.entries, e.stats < l.records.length := by decide
  obtain ⟨-, hread, -⟩ := replaced_or_kept p 60000 60001 ⟨store, none, none⟩ hlt
  obtain ⟨-, -, -, hfound, -⟩ := hread rfl
  obtain ⟨-, -, hkept⟩ := replaced_or_kept p 60000 60001 ⟨store, some "timeout", none⟩ hlt
  obtain ⟨-, hregistry, -, hget, hfind⟩ := hkept "timeout" rfl
  refine ⟨?_, ?_, hregistry, ?_, ?_⟩
  · rw [hfound]
    decide +kernel
  · rw [hfound]
    decide +kernel
  · rw [hget]
    decide +kernel
  · rw [hfind]
    decide +kernel

end Registry
end WebhookRelay

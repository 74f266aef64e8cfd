-- SUMMARY: The store in memory: what is found after saving, and what switching off does.
import WebhookRelay.Proofs.Store.Rows
import WebhookRelay.Store.Basic

/-!
# The store in memory

Looking an id up tells all there is to a store. Saving changes what one id has, and
switching off saves what was there with one field changed, if it was there and active.
-/

namespace WebhookRelay
namespace Store

theorem find?_eq_some_iff {store : Store} {id : WebhookId} {s : Subscription} :
    store.find? id = some s ↔ s ∈ store.rows ∧ s.id = id :=
  find?_id_eq_some_iff store.ordered

theorem find?_save (store : Store) (s : Subscription) (id : WebhookId) :
    (store.save s).find? id = if s.id = id then some s else store.find? id :=
  find?_insertRow store.ordered s id

/-- Stores in which every id has the same are the same. -/
theorem eq_of_find?_eq {a b : Store} (h : ∀ id, a.find? id = b.find? id) : a = b := by
  have hmem : ∀ s, s ∈ a.rows ↔ s ∈ b.rows := by
    intro s
    have ha : s ∈ a.rows ↔ a.find? s.id = some s := by simp [find?_eq_some_iff]
    have hb : s ∈ b.rows ↔ b.find? s.id = some s := by simp [find?_eq_some_iff]
    rw [ha, hb, h]
  have hperm : a.rows.Perm b.rows :=
    (List.perm_ext_iff_of_nodup (nodup_ids a.ordered).of_map (nodup_ids b.ordered).of_map).2 hmem
  have hrows : a.rows = b.rows := by
    refine hperm.eq_of_pairwise ?_ a.ordered b.ordered
    intro s t _ _ hst hts
    exact absurd (WebhookId.lt_trans hst hts) (WebhookId.lt_irrefl _)
  cases a
  cases b
  congr

theorem nodup_ids_active (store : Store) : (store.active.map (·.id)).Nodup :=
  nodup_ids (store.ordered.filter _)

theorem deactivate_of_active {store : Store} {id : WebhookId} {s : Subscription}
    (h : store.find? id = some s) (hactive : s.isActive = true) :
    store.deactivate id = (true, store.save { s with isActive := false }) := by
  rw [deactivate, h]
  exact if_pos hactive

theorem deactivate_of_not_active {store : Store} {id : WebhookId}
    (h : ∀ s, store.find? id = some s → s.isActive = false) :
    store.deactivate id = (false, store) := by
  rw [deactivate]
  cases hfound : store.find? id with
  | none => rfl
  | some s => simp [h s hfound]

/-- Switching off concerns the row of one id; a row that is off stays as it is. -/
theorem find?_deactivate (store : Store) (id k : WebhookId) :
    (store.deactivate id).2.find? k
      = if id = k then (store.find? k).map ({ · with isActive := false }) else store.find? k := by
  by_cases h : ∃ s, store.find? id = some s ∧ s.isActive = true
  · obtain ⟨s, hs, hactive⟩ := h
    have hid := (find?_eq_some_iff.1 hs).2
    rw [deactivate_of_active hs hactive, find?_save]
    by_cases hk : id = k
    · subst hk
      simp [hid, hs]
    · simp [hid, hk]
  · have hoff : ∀ s, store.find? id = some s → s.isActive = false := by simpa using h
    rw [deactivate_of_not_active hoff]
    by_cases hk : id = k
    · subst hk
      cases hs : store.find? id with
      | none => simp
      | some s => simp [← hoff s hs]
    · simp [hk]

end Store

/-- Switching off changes one field of one row, or nothing. -/
theorem Repository.deactivate_cases (r : Repository) (id : WebhookId) :
    (r.deactivate id).2 = r ∨ ∃ s, r.store.find? id = some s ∧ s.isActive = true ∧
      (r.deactivate id).2 = { r with store := r.store.save { s with isActive := false } } := by
  obtain ⟨store, findFault, deactivateFault⟩ := r
  cases deactivateFault with
  | some fault => exact .inl rfl
  | none =>
    by_cases h : ∃ s, store.find? id = some s ∧ s.isActive = true
    · obtain ⟨s, hs, hactive⟩ := h
      simp only [Repository.deactivate, Store.deactivate_of_active hs hactive]
      exact .inr ⟨s, hs, hactive, rfl⟩
    · have hoff : ∀ s, store.find? id = some s → s.isActive = false := by simpa using h
      exact .inl (by simp only [Repository.deactivate, Store.deactivate_of_not_active hoff])

end WebhookRelay

-- SUMMARY: Rows in the order of their ids as a finite map: looking an id up, before and after a row is placed.
import WebhookRelay.Store.Rows
import Mathlib.Data.List.Nodup

/-!
# Rows as a finite map

The store, the table and the registry each keep rows whose ids strictly increase
and look a row up by its id. Here is what they have in common: an id has at most
one row, and placing a row changes what is found under its id and under no other.
-/

namespace WebhookRelay

theorem WebhookId.lt_irrefl (a : WebhookId) : ¬ a < a :=
  Nat.lt_irrefl a.bits.toNat

variable {Row : Type} {id : Row → WebhookId}

theorem nodup_ids {rows : List Row} (h : rows.Pairwise (id · < id ·)) : (rows.map id).Nodup := by
  rw [List.Nodup, List.pairwise_map]
  refine h.imp ?_
  intro a b hlt heq
  rw [heq] at hlt
  exact WebhookId.lt_irrefl _ hlt

/-- The row of an id is the only one with that id. -/
theorem find?_id_eq_some_iff {rows : List Row} (h : rows.Pairwise (id · < id ·)) {k : WebhookId}
    {row : Row} : rows.find? (id · = k) = some row ↔ row ∈ rows ∧ id row = k := by
  constructor
  · intro hfound
    exact ⟨List.mem_of_find?_eq_some hfound, by simpa using List.find?_some hfound⟩
  · rintro ⟨hmem, rfl⟩
    cases hfound : rows.find? (id · = id row) with
    | none =>
      have hnone := List.find?_eq_none.1 hfound row hmem
      simp at hnone
    | some x =>
      have hx : id x = id row := by simpa using List.find?_some hfound
      rw [List.inj_on_of_nodup_map (nodup_ids h) (List.mem_of_find?_eq_some hfound) hmem hx]

/-- Placing a row changes what its id has, and nothing else. -/
theorem find?_insertRow {rows : List Row} (h : rows.Pairwise (id · < id ·)) (row : Row)
    (k : WebhookId) :
    (insertRow id row rows).find? (id · = k)
      = if id row = k then some row else rows.find? (id · = k) := by
  induction rows with
  | nil => by_cases hk : id row = k <;> simp [insertRow, hk]
  | cons r rows ih =>
    obtain ⟨-, hrows⟩ := List.pairwise_cons.1 h
    have ih := ih hrows
    simp only [insertRow]
    split
    case isTrue => by_cases hk : id row = k <;> simp [List.find?_cons, hk]
    case isFalse hlt =>
      split
      case isTrue heq => by_cases hk : id row = k <;> simp [hk, ← heq]
      case isFalse hne =>
        by_cases hk : id row = k
        · have hr : id r ≠ k := fun hrk => hne (hk.trans hrk.symm)
          simp [hr, ih, hk]
        · simp only [List.find?_cons, ih, if_neg hk]

end WebhookRelay

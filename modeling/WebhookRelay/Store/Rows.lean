-- SUMMARY: Rows in the order of their ids: placing a row keeps the order.
import WebhookRelay.Subscription.Id

/-!
# Rows

A finite map from ids, kept as a list of rows whose ids strictly increase.
`insertRow` is the only way a row is placed; `pairwise_insertRow` says that the
order survives it.
-/

namespace WebhookRelay

theorem WebhookId.lt_trans {a b c : WebhookId} (h₁ : a < b) (h₂ : b < c) : a < c :=
  Nat.lt_trans (n := a.bits.toNat) h₁ h₂

theorem WebhookId.lt_of_not_lt_of_ne {a b : WebhookId} (h₁ : ¬ a < b) (h₂ : a ≠ b) : b < a := by
  have h : a.bits.toNat ≠ b.bits.toNat := fun e => h₂ (by
    cases a; cases b; simpa [BitVec.toNat_inj] using e)
  have h₁' : ¬ a.bits.toNat < b.bits.toNat := h₁
  show b.bits.toNat < a.bits.toNat
  omega

variable {Row : Type} (id : Row → WebhookId)

/-- Places a row among rows in the order of their ids, replacing the row with its id. -/
def insertRow (row : Row) : List Row → List Row
  | [] => [row]
  | r :: rows =>
    if id row < id r then row :: r :: rows
    else if id row = id r then row :: rows
    else r :: insertRow row rows

variable {id}

theorem mem_insertRow {row x : Row} {rows : List Row} (h : x ∈ insertRow id row rows) :
    x = row ∨ x ∈ rows := by
  induction rows with
  | nil => simpa [insertRow] using h
  | cons r rows ih =>
    simp only [insertRow] at h
    split at h
    · simpa using h
    · split at h
      · rcases List.mem_cons.1 h with h | h
        · exact .inl h
        · exact .inr (List.mem_cons_of_mem _ h)
      · rcases List.mem_cons.1 h with h | h
        · exact .inr (h ▸ List.mem_cons_self)
        · exact (ih h).imp_right (List.mem_cons_of_mem _)

theorem pairwise_insertRow {row : Row} {rows : List Row}
    (h : rows.Pairwise (id · < id ·)) : (insertRow id row rows).Pairwise (id · < id ·) := by
  induction rows with
  | nil => simp [insertRow]
  | cons r rows ih =>
    obtain ⟨hr, hrows⟩ := List.pairwise_cons.1 h
    simp only [insertRow]
    split
    case isTrue hlt =>
      refine List.pairwise_cons.2 ⟨fun x hx => ?_, h⟩
      rcases List.mem_cons.1 hx with rfl | hx
      · exact hlt
      · exact WebhookId.lt_trans hlt (hr x hx)
    case isFalse hlt =>
      split
      case isTrue heq => exact List.pairwise_cons.2 ⟨fun x hx => heq ▸ hr x hx, hrows⟩
      case isFalse hne =>
        refine List.pairwise_cons.2 ⟨fun x hx => ?_, ih hrows⟩
        rcases mem_insertRow hx with rfl | hx
        · exact WebhookId.lt_of_not_lt_of_ne hlt hne
        · exact hr x hx

end WebhookRelay

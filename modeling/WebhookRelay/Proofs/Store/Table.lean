-- SUMMARY: The statements lose nothing of a row: an insert places it whole, a query gives it back whole.
import WebhookRelay.Proofs.Store.Rows
import WebhookRelay.Store.Table

/-!
# The subscription table

The columns that the statements name are written down four times: for the insert, for
its values, for what replaces an old row and for the queries. That none is missing or
out of its place is what lets the table be read row by row from here on.
-/

namespace WebhookRelay
namespace Row

/-- The columns of a query make up the row. -/
@[simp] theorem ofRecord?_record (r : Row) : ofRecord? (r.record Column.selected) = some r := rfl

/-- The columns of an insert, with its values, make up the row. -/
@[simp] theorem ofRecord?_values (r : Row) : ofRecord? (Column.written.zip r.values) = some r := rfl

@[simp] theorem mapM_ofRecord?_record (rows : List Row) :
    (rows.map (·.record Column.selected)).mapM ofRecord? = some rows := by
  induction rows with
  | nil => rfl
  | cons r rows ih => simp [List.mapM_cons, ih]

/-- The replaced columns are all but the id. -/
theorem foldl_replace {old new : Row} (h : old.id = new.id) :
    Column.replaced.foldl new.replace old = new := by
  cases old
  cases new
  cases h
  simp [Column.replaced, replace, Switches.set, Switches.get]

end Row

namespace Table

/-- A row is inserted whole, whether or not its id is there already. -/
@[simp] theorem merge_eq (t : Table) (row : Row) : t.merge row = row := by
  unfold merge
  cases h : t.find? row.id with
  | none => rfl
  | some old => exact Row.foldl_replace ((find?_id_eq_some_iff t.ordered).1 h).2

theorem execute_upsert (t : Table) (row : Row) :
    t.execute (.upsert row)
      = if t.isTaken row.id row.url then none else some (.affected 1, t.place row) := by
  simp [execute]

theorem find?_place (t : Table) (row : Row) (id : WebhookId) :
    (t.place row).find? id = if row.id = id then some row else t.find? id :=
  find?_insertRow t.ordered row id

/-- A URL is taken when the row of another id has it. -/
theorem isTaken_eq_true_iff (t : Table) (id : WebhookId) (url : String) :
    t.isTaken id url = true ↔ ∃ other r, t.find? other = some r ∧ other ≠ id ∧ r.url = url := by
  simp only [isTaken, List.any_eq_true, decide_eq_true_eq]
  constructor
  · rintro ⟨r, hr, hid, hurl⟩
    exact ⟨r.id, r, (find?_id_eq_some_iff t.ordered).2 ⟨hr, rfl⟩, hid, hurl⟩
  · rintro ⟨other, r, hr, hid, hurl⟩
    obtain ⟨hmem, rfl⟩ := (find?_id_eq_some_iff t.ordered).1 hr
    exact ⟨r, hmem, hid, hurl⟩

end Table
end WebhookRelay

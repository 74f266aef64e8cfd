-- SUMMARY: Entries of a registry: lookup by id, records of their own, and what a reload makes of them.
import WebhookRelay.Registry.Basic
import WebhookRelay.Proofs.Store.Rows
import Mathlib.Data.List.Nodup

/-!
# Entries and their records

A registry and a ledger are `Separated` when every entry has a record of the
ledger to itself: then an entry is known by its record as well as by its id.

A reload keeps the record of every id it keeps and opens one for every id it adds
(`Placed`), so that it leads from separated registries to separated ones.
-/

namespace WebhookRelay

namespace Registry

/-- The subscriptions of the entries. -/
def subscriptions (r : Registry) : List Subscription :=
  r.entries.map (·.subscription)

theorem ids_nodup (r : Registry) : (r.entries.map (·.id)).Nodup :=
  nodup_ids r.ordered

/-- The entry of an id is the only one with that id. -/
theorem find?_eq_some_iff (r : Registry) {id : WebhookId} {e : Entry} :
    r.find? id = some e ↔ e ∈ r.entries ∧ e.id = id :=
  find?_id_eq_some_iff r.ordered

/-! ## Records of their own -/

/-- Every entry has a record of the ledger to itself. -/
structure Separated (r : Registry) (l : Ledger) : Prop where
  lt_length : ∀ e ∈ r.entries, e.stats < l.records.length
  distinct : (r.entries.map (·.stats)).Nodup

theorem Separated.empty (l : Ledger) : Separated .empty l :=
  ⟨by simp [Registry.empty], by simp [Registry.empty]⟩

/-- Further records and other contents of the records make no difference. -/
theorem Separated.of_length_le {r : Registry} {l m : Ledger} (h : Separated r l)
    (hlm : l.records.length ≤ m.records.length) : Separated r m :=
  ⟨fun e he => Nat.lt_of_lt_of_le (h.lt_length e he) hlm, h.distinct⟩

/-- Entries share a record exactly when they share their id. -/
theorem Separated.stats_eq_iff_id_eq {r : Registry} {l : Ledger} (h : Separated r l)
    {e x : Entry} (he : e ∈ r.entries) (hx : x ∈ r.entries) : e.stats = x.stats ↔ e.id = x.id := by
  constructor
  · intro heq
    rw [List.inj_on_of_nodup_map h.distinct he hx heq]
  · intro heq
    rw [List.inj_on_of_nodup_map r.ids_nodup he hx heq]

/-! ## Entries for subscriptions -/

variable (current : Registry) (now : Time)

/-- An id that is there keeps its record; for a new one a record is opened. -/
theorem entryFor_cases (l : Ledger) (s : Subscription) :
    (∃ e, current.find? s.id = some e ∧ current.entryFor now l s = (⟨s, e.stats⟩, l)) ∨
    (current.find? s.id = none ∧
      current.entryFor now l s = (⟨s, l.records.length⟩, (l.add (.startingAt now)).2)) := by
  cases hfound : current.find? s.id with
  | some e => exact .inl ⟨e, rfl, by simp [entryFor, hfound]⟩
  | none => exact .inr ⟨rfl, by simp [entryFor, hfound, Ledger.add]⟩

theorem length_le_entryFor (l : Ledger) (s : Subscription) :
    l.records.length ≤ (current.entryFor now l s).2.records.length := by
  rcases entryFor_cases current now l s with ⟨e, -, heq⟩ | ⟨-, heq⟩
  · simp [heq]
  · simp [heq, Ledger.add]

theorem length_le_entriesFor (l : Ledger) (ss : List Subscription) :
    l.records.length ≤ (current.entriesFor now l ss).2.records.length := by
  induction ss generalizing l with
  | nil => exact Nat.le_refl _
  | cons s ss ih => exact Nat.le_trans (length_le_entryFor current now l s) (ih _)

/-- No record that is there is touched. -/
theorem get_entryFor {l : Ledger} (s : Subscription) {key : StatsKey}
    (h : key < l.records.length) : (current.entryFor now l s).2.get key = l.get key := by
  rcases entryFor_cases current now l s with ⟨e, -, heq⟩ | ⟨-, heq⟩
  · rw [heq]
  · rw [heq]
    exact Ledger.get_add_of_lt l _ h

theorem get_entriesFor {l : Ledger} (ss : List Subscription) {key : StatsKey}
    (h : key < l.records.length) : (current.entriesFor now l ss).2.get key = l.get key := by
  induction ss generalizing l with
  | nil => rfl
  | cons s ss ih =>
    have hkey := Nat.lt_of_lt_of_le h (length_le_entryFor current now l s)
    exact (ih hkey).trans (get_entryFor current now s h)

/-- A record that is opened starts with nothing delivered. -/
theorem get_entriesFor_of_le {l : Ledger} {ss : List Subscription} {key : StatsKey}
    (hle : l.records.length ≤ key) (hlt : key < (current.entriesFor now l ss).2.records.length) :
    (current.entriesFor now l ss).2.get key = .startingAt now := by
  induction ss generalizing l with
  | nil => exact absurd hlt (Nat.not_lt.2 hle)
  | cons s ss ih =>
    simp only [entriesFor] at hlt ⊢
    rcases entryFor_cases current now l s with ⟨e, -, heq⟩ | ⟨-, heq⟩
    · rw [heq] at hlt ⊢
      exact ih hle hlt
    · rw [heq] at hlt ⊢
      by_cases hkey : key = l.records.length
      · subst hkey
        rw [get_entriesFor current now ss (by simp [Ledger.add])]
        exact Ledger.get_add l _
      · refine ih ?_ hlt
        rw [Ledger.add, List.length_append, List.length_singleton]
        exact Nat.lt_of_le_of_ne hle (Ne.symm hkey)

/-- Where an entry made between the ledgers `l` and `m` has its record from: from the
entry of its id, or newly opened, with nothing delivered yet. -/
def Placed (l m : Ledger) (x : Entry) : Prop :=
  (∃ e, current.find? x.id = some e ∧ x.stats = e.stats) ∨
  (current.find? x.id = none ∧ l.records.length ≤ x.stats ∧ x.stats < m.records.length ∧
    m.get x.stats = .startingAt now)

theorem placed_entryFor (l : Ledger) (s : Subscription) :
    Placed current now l (current.entryFor now l s).2 (current.entryFor now l s).1 := by
  rcases entryFor_cases current now l s with ⟨e, hfound, heq⟩ | ⟨hnone, heq⟩
  · rw [heq]
    exact .inl ⟨e, hfound, rfl⟩
  · rw [heq]
    exact .inr ⟨hnone, Nat.le_refl _, by simp [Ledger.add], Ledger.get_add l _⟩

theorem placed_of_mem_entriesFor {l : Ledger} {ss : List Subscription} {x : Entry}
    (hx : x ∈ (current.entriesFor now l ss).1) :
    Placed current now l (current.entriesFor now l ss).2 x := by
  induction ss generalizing l with
  | nil => simp [entriesFor] at hx
  | cons s ss ih =>
    simp only [entriesFor, List.mem_cons] at hx ⊢
    rcases hx with rfl | hx
    · rcases placed_entryFor current now l s with
        hkept | ⟨hnone, hle, hlt, hget⟩
      · exact .inl hkept
      · exact .inr ⟨hnone, hle, Nat.lt_of_lt_of_le hlt (length_le_entriesFor current now _ ss),
          (get_entriesFor current now ss hlt).trans hget⟩
    · rcases ih hx with hkept | ⟨hnone, hle, hlt, hget⟩
      · exact .inl hkept
      · exact .inr ⟨hnone, Nat.le_trans (length_le_entryFor current now l s) hle, hlt, hget⟩

variable {current now}

/-- Entries with different ids that are placed one after the other have different records. -/
theorem Placed.stats_ne {k l m : Ledger} (hsep : current.Separated k)
    (hgrow : k.records.length ≤ l.records.length) {x y : Entry} (hx : Placed current now k l x)
    (hy : Placed current now l m y) (hne : x.id ≠ y.id) : x.stats ≠ y.stats := by
  rcases hx with ⟨e, he, hxe⟩ | ⟨-, hkx, hxl, -⟩
  · obtain ⟨hmem, heid⟩ := (find?_eq_some_iff current).1 he
    have hek := hsep.lt_length e hmem
    rcases hy with ⟨f, hf, hyf⟩ | ⟨-, hly, -, -⟩
    · obtain ⟨hmem', hfid⟩ := (find?_eq_some_iff current).1 hf
      rw [hxe, hyf, Ne, hsep.stats_eq_iff_id_eq hmem hmem', heid, hfid]
      exact hne
    · rw [hxe]
      exact Nat.ne_of_lt (Nat.lt_of_lt_of_le hek (Nat.le_trans hgrow hly))
  · rcases hy with ⟨f, hf, hyf⟩ | ⟨-, hly, -, -⟩
    · have hfk := hsep.lt_length f ((find?_eq_some_iff current).1 hf).1
      rw [hyf]
      exact Nat.ne_of_gt (Nat.lt_of_lt_of_le hfk hkx)
    · exact Nat.ne_of_lt (Nat.lt_of_lt_of_le hxl hly)

/-- Entries made for subscriptions with different ids have different records. -/
theorem nodup_stats_entriesFor {l : Ledger} (hsep : current.Separated l)
    {ss : List Subscription} (hids : (ss.map (·.id)).Nodup) :
    ((current.entriesFor now l ss).1.map (·.stats)).Nodup := by
  induction ss generalizing l with
  | nil => simp [entriesFor]
  | cons s ss ih =>
    obtain ⟨hs, hss⟩ := List.nodup_cons.1 hids
    have hgrow := length_le_entryFor current now l s
    simp only [entriesFor, List.map_cons, List.nodup_cons]
    refine ⟨?_, ih (hsep.of_length_le hgrow) hss⟩
    intro hmem
    obtain ⟨x, hx, hstats⟩ := List.mem_map.1 hmem
    have hxs : x.subscription ∈ ss := by
      rw [← map_subscription_entriesFor current now (current.entryFor now l s).2 ss]
      exact List.mem_map_of_mem hx
    have hne : (current.entryFor now l s).1.id ≠ x.id := by
      intro heq
      rw [Entry.id, entryFor_subscription] at heq
      exact hs (List.mem_map.2 ⟨x.subscription, hxs, heq.symm⟩)
    exact Placed.stats_ne hsep hgrow (placed_entryFor current now l s)
      (placed_of_mem_entriesFor current now hx) hne hstats.symm

/-- The entries that subscriptions with different ids lead to have records of their own. -/
theorem Separated.entriesFor {l : Ledger} (hsep : current.Separated l) {ss : List Subscription}
    (hids : (ss.map (·.id)).Nodup) {next : Registry}
    (hnext : next.entries = (current.entriesFor now l ss).1) :
    next.Separated (current.entriesFor now l ss).2 := by
  refine ⟨fun x hx => ?_, hnext ▸ nodup_stats_entriesFor hsep hids⟩
  rcases placed_of_mem_entriesFor current now (hnext ▸ hx) with ⟨e, he, hxe⟩ | ⟨-, -, hlt, -⟩
  · rw [hxe]
    exact Nat.lt_of_lt_of_le (hsep.lt_length e ((find?_eq_some_iff current).1 he).1)
      (length_le_entriesFor current now l ss)
  · exact hlt

end Registry
end WebhookRelay

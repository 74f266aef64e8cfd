-- SUMMARY: Lists: the first element with a property, elements with keys of their own, and partial maps.
import Mathlib.Data.List.Forall2
import Mathlib.Data.List.Nodup

/-!
# Lists

What is said of lists in more than one place. `IsFirst` names the element that a search finds. Where
elements have different keys, a key singles its element out (`filter_key_eq_singleton`). A partial
map over a list has a result exactly when it has one for each element (`mapM_eq_some_iff`).
-/

namespace WebhookRelay

variable {α β : Type}

/-! ## First elements -/

/-- Whether an element is the first of a list that has a property. -/
def IsFirst (p : α → Prop) (x : α) (xs : List α) : Prop :=
  ∃ front rest, xs = front ++ x :: rest ∧ p x ∧ ∀ y ∈ front, ¬ p y

theorem isFirst_cons_iff {p : α → Prop} {x y : α} {xs : List α} :
    IsFirst p x (y :: xs) ↔ (p y ∧ x = y) ∨ (¬ p y ∧ IsFirst p x xs) := by
  constructor
  · rintro ⟨front, rest, heq, hx, hfront⟩
    cases front with
    | nil =>
      cases heq
      exact .inl ⟨hx, rfl⟩
    | cons z front =>
      cases heq
      obtain ⟨hy, hfront⟩ := List.forall_mem_cons.1 hfront
      exact .inr ⟨hy, front, rest, rfl, hx, hfront⟩
  · rintro (⟨hy, rfl⟩ | ⟨hy, front, rest, rfl, hx, hfront⟩)
    · exact ⟨[], xs, rfl, hy, nofun⟩
    · exact ⟨y :: front, rest, rfl, hx, List.forall_mem_cons.2 ⟨hy, hfront⟩⟩

theorem not_isFirst_nil {p : α → Prop} {x : α} : ¬ IsFirst p x [] := by
  rintro ⟨front, rest, heq, -⟩
  simp at heq

theorem find?_eq_some_iff_isFirst {p : α → Prop} {test : α → Bool}
    (htest : ∀ x, test x = true ↔ p x) {x : α} {xs : List α} :
    xs.find? test = some x ↔ IsFirst p x xs := by
  induction xs with
  | nil => exact iff_of_false nofun not_isFirst_nil
  | cons y xs ih =>
    rw [isFirst_cons_iff, ← ih, ← htest, List.find?_cons]
    cases test y with
    | true => simp [eq_comm]
    | false => simp

theorem IsFirst.unique {p : α → Prop} {x y : α} {xs : List α} (hx : IsFirst p x xs)
    (hy : IsFirst p y xs) : x = y := by
  induction xs with
  | nil => exact absurd hx not_isFirst_nil
  | cons z xs ih =>
    rcases isFirst_cons_iff.1 hx with ⟨hz, rfl⟩ | ⟨hz, hx⟩ <;>
      rcases isFirst_cons_iff.1 hy with ⟨hz', rfl⟩ | ⟨hz', hy⟩
    · rfl
    · exact absurd hz hz'
    · exact absurd hz' hz
    · exact ih hx hy

/-! ## Keys -/

/-- Of elements with different keys there is one with the key of an element, and it is this one. -/
theorem filter_key_eq_singleton [DecidableEq β] {key : α → β} {xs : List α}
    (hnodup : (xs.map key).Nodup) {x : α} (hx : x ∈ xs) : xs.filter (key · = key x) = [x] := by
  induction xs with
  | nil => cases hx
  | cons y xs ih =>
    obtain ⟨hy, hnodup⟩ := List.nodup_cons.1 hnodup
    rcases List.mem_cons.1 hx with rfl | hx
    · have hnone : xs.filter (key · = key x) = [] := by
        rw [List.filter_eq_nil_iff]
        intro z hz
        have hne : key z ≠ key x := fun heq => hy (heq ▸ List.mem_map_of_mem hz)
        simpa using hne
      rw [List.filter_cons_of_pos (by simp), hnone]
    · have hne : key y ≠ key x := fun heq => hy (heq ▸ List.mem_map_of_mem hx)
      rw [List.filter_cons_of_neg (by simpa using hne), ih hnodup hx]

/-! ## Partial maps -/

theorem exists_of_forall₂ {r : α → β → Prop} {xs : List α} {ys : List β}
    (h : List.Forall₂ r xs ys) {x : α} (hx : x ∈ xs) : ∃ y ∈ ys, r x y := by
  induction h with
  | nil => cases hx
  | cons hxy _ ih =>
    rcases List.mem_cons.1 hx with rfl | hx
    · exact ⟨_, List.mem_cons_self, hxy⟩
    · obtain ⟨y, hy, hxy⟩ := ih hx
      exact ⟨y, List.mem_cons_of_mem _ hy, hxy⟩

theorem exists_forall₂_iff {r : α → β → Prop} {xs : List α} :
    (∃ ys, List.Forall₂ r xs ys) ↔ ∀ x ∈ xs, ∃ y, r x y := by
  induction xs with
  | nil => simp
  | cons x xs ih =>
    rw [List.forall_mem_cons, ← ih]
    constructor
    · rintro ⟨_, hxy | ⟨hxy, hmore⟩⟩
      exact ⟨⟨_, hxy⟩, _, hmore⟩
    · rintro ⟨⟨y, hxy⟩, ys, hmore⟩
      exact ⟨y :: ys, .cons hxy hmore⟩

theorem mapM_eq_some_iff {f : α → Option β} {xs : List α} {ys : List β} :
    xs.mapM f = some ys ↔ List.Forall₂ (fun x y => f x = some y) xs ys := by
  induction xs generalizing ys with
  | nil => simp [eq_comm]
  | cons x xs ih =>
    simp only [List.mapM_cons, Option.bind_eq_bind, Option.bind_eq_some_iff,
      List.forall₂_cons_left_iff, ← ih]
    constructor
    · rintro ⟨y, hy, ys, hys, heq⟩
      cases heq
      exact ⟨y, ys, hy, hys, rfl⟩
    · rintro ⟨y, ys, hy, hys, rfl⟩
      exact ⟨y, hy, ys, hys, rfl⟩

end WebhookRelay

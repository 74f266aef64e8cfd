-- SUMMARY: Runs of a step function that can refuse an event: cutting them up, induction, first and last steps of a kind.
import Mathlib.Data.List.Induction

/-!
# Runs

A transition system is a step function that gives the next state for an event, or
`none` when the event cannot happen. A run carries out events one after the other;
it is `some` exactly when each of them can happen when it comes.
-/

namespace WebhookRelay
namespace Run

variable {σ ε : Type} {step? : σ → ε → Option σ}

theorem append_eq_some_iff {front rest : List ε} {s t : σ} :
    (front ++ rest).foldlM step? s = some t ↔
      ∃ m, front.foldlM step? s = some m ∧ rest.foldlM step? m = some t := by
  rw [List.foldlM_append, Option.bind_eq_bind, Option.bind_eq_some_iff]

theorem cons_eq_some_iff {e : ε} {rest : List ε} {s t : σ} :
    (e :: rest).foldlM step? s = some t ↔
      ∃ m, step? s e = some m ∧ rest.foldlM step? m = some t := by
  rw [List.foldlM_cons, Option.bind_eq_bind, Option.bind_eq_some_iff]

theorem singleton_eq (e : ε) (s : σ) : [e].foldlM step? s = step? s e := by
  rw [List.foldlM_cons]
  cases step? s e <;> rfl

theorem snoc {events : List ε} {s m t : σ} (hm : events.foldlM step? s = some m) {e : ε}
    (he : step? m e = some t) : (events ++ [e]).foldlM step? s = some t :=
  append_eq_some_iff.2 ⟨m, hm, (singleton_eq e m).trans he⟩

/-- What holds in the beginning, and after an event if it held before, holds after a run. -/
theorem induction_on {s : σ} {motive : List ε → σ → Prop} (hstart : motive [] s)
    (hstep : ∀ events m e t, events.foldlM step? s = some m → motive events m →
      step? m e = some t → motive (events ++ [e]) t)
    {events : List ε} {t : σ} (h : events.foldlM step? s = some t) : motive events t := by
  induction events using List.reverseRecOn generalizing t with
  | nil =>
    cases h
    exact hstart
  | append_singleton events e ih =>
    obtain ⟨m, hm, he⟩ := append_eq_some_iff.1 h
    rw [singleton_eq] at he
    exact hstep events m e t hm (ih hm) he

/-- What becomes true in a run becomes true with one of its events. -/
theorem exists_step {P : σ → Prop} {s : σ} (hs : ¬ P s) {events : List ε} {t : σ}
    (h : events.foldlM step? s = some t) (ht : P t) :
    ∃ before e after m n, events = before ++ e :: after ∧ before.foldlM step? s = some m ∧
      step? m e = some n ∧ ¬ P m ∧ P n ∧ after.foldlM step? n = some t := by
  induction events generalizing s with
  | nil =>
    cases h
    exact absurd ht hs
  | cons e events ih =>
    obtain ⟨m, hm, hrest⟩ := cons_eq_some_iff.1 h
    by_cases hPm : P m
    · exact ⟨[], e, events, s, m, rfl, rfl, hm, hs, hPm, hrest⟩
    · obtain ⟨before, e', after, k, n, rfl, hk, hn, hPk, hPn, hafter⟩ := ih hPm hrest
      exact ⟨e :: before, e', after, k, n, rfl, cons_eq_some_iff.2 ⟨m, hm, hk⟩, hn, hPk, hPn,
        hafter⟩

/-! ## All along a run -/

section

variable (step? : σ → ε → Option σ)

/-- Whether every state of a run is of a kind, the first and the last included. -/
def Always (p : σ → Prop) (s : σ) (events : List ε) : Prop :=
  ∀ front back m, events = front ++ back → front.foldlM step? s = some m → p m

/-- Whether no event of a run, at the state it meets, is of a kind. -/
def Never (p : σ → ε → Prop) (s : σ) (events : List ε) : Prop :=
  ∀ front e back m, events = front ++ e :: back → front.foldlM step? s = some m → ¬ p m e

end

variable {p : σ → ε → Prop} {s : σ} {events : List ε} {e : ε}

theorem Always.of_append {p : σ → Prop} {rest : List ε} (h : Always step? p s (events ++ rest)) :
    Always step? p s events := by
  rintro front back m rfl hm
  exact h front (back ++ rest) m (List.append_assoc ..) hm

/-- The last state of a run. -/
theorem Always.last {p : σ → Prop} (h : Always step? p s events) {t : σ}
    (hrun : events.foldlM step? s = some t) : p t :=
  h events [] t (List.append_nil _).symm hrun

theorem Never.nil : Never step? p s [] := by
  intro front e back m hnil
  simp at hnil

theorem Never.of_append {rest : List ε} (h : Never step? p s (events ++ rest)) :
    Never step? p s events := by
  rintro front e back m rfl hm
  exact h front e (back ++ rest) m (List.append_assoc ..) hm

theorem Never.last (h : Never step? p s (events ++ [e])) {m : σ}
    (hrun : events.foldlM step? s = some m) : ¬ p m e :=
  h events e [] m rfl hrun

theorem Never.mono {q : σ → ε → Prop} (h : Never step? p s events)
    (hqp : ∀ m e, q m e → p m e) : Never step? q s events :=
  fun front e back m hevents hm hq => h front e back m hevents hm (hqp m e hq)

theorem Never.snoc (h : Never step? p s events) {m : σ} (hrun : events.foldlM step? s = some m)
    (he : ¬ p m e) : Never step? p s (events ++ [e]) := by
  intro front x back k hevents hk
  rcases List.eq_nil_or_concat back with rfl | ⟨back, y, rfl⟩
  · obtain ⟨rfl, hx⟩ := List.append_inj' hevents rfl
    cases hx
    rw [hrun] at hk
    cases hk
    exact he
  · rw [List.concat_eq_append, ← List.cons_append, ← List.append_assoc] at hevents
    exact h front x back k (List.append_inj' hevents rfl).1 hk

/-- A run with an event of a kind has a last one. -/
theorem exists_last_of_not_never (h : ¬ Never step? p s events) {t : σ}
    (hrun : events.foldlM step? s = some t) :
    ∃ before e after m n, events = before ++ e :: after ∧ before.foldlM step? s = some m ∧
      step? m e = some n ∧ p m e ∧ Never step? p n after ∧ after.foldlM step? n = some t := by
  induction events using List.reverseRecOn generalizing t with
  | nil => exact absurd .nil h
  | append_singleton events e ih =>
    obtain ⟨m, hm, he⟩ := append_eq_some_iff.1 hrun
    rw [singleton_eq] at he
    by_cases hp : p m e
    · exact ⟨events, e, [], m, t, rfl, hm, he, hp, .nil, rfl⟩
    · have hbefore : ¬ Never step? p s events := fun hnever => h (hnever.snoc hm hp)
      obtain ⟨before, a, after, k, n, rfl, hk, hn, ha, hnever, hafter⟩ := ih hbefore hm
      exact ⟨before, a, after ++ [e], k, n, by simp, hk, hn, ha, hnever.snoc hafter hp,
        snoc hafter he⟩

end Run
end WebhookRelay

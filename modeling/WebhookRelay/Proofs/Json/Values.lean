-- SUMMARY: The values of terms, items and members, and one induction for what holds of all of them.
import WebhookRelay.Json.Term
import WebhookRelay.Proofs.Lists
import Mathlib.Data.List.Perm.Basic

/-!
# Values of terms

Items and members have values exactly when each of them has one. So members in another order have
the same keys and values in another order (`exists_memberValuesWith?_of_perm`), and what is
preserved from the parts of a term to the whole holds of every term with a value
(`Term.valueWith?_induction`). All this is said once for both ways to take an object that embeds a
text.
-/

namespace WebhookRelay.Json

variable {special : List (List StringUnit × Term) → Option (Option Json)} {depth : Nat}

/-! ## Items and members -/

section

variable {ts : List Term} {vs : List Json} {ms ms' : List (List StringUnit × Term)}
  {pairs : List (String × Json)}

theorem itemValuesWith?_eq_some_iff : itemValuesWith? special depth ts = some vs ↔
    List.Forall₂ (fun t v => t.valueWith? special depth = some v) ts vs := by
  induction ts generalizing vs with
  | nil => simp [itemValuesWith?, eq_comm]
  | cons t ts ih =>
    simp only [itemValuesWith?, Option.bind_eq_bind, Option.bind_eq_some_iff,
      List.forall₂_cons_left_iff, ← ih]
    constructor
    · rintro ⟨v, hv, more, hmore, heq⟩
      cases heq
      exact ⟨v, more, hv, hmore, rfl⟩
    · rintro ⟨v, more, hv, hmore, rfl⟩
      exact ⟨v, hv, more, hmore, rfl⟩

theorem memberValuesWith?_eq_some_iff : memberValuesWith? special depth ms = some pairs ↔
    List.Forall₂ (fun m p => textOf? m.1 = some p.1 ∧ m.2.valueWith? special depth = some p.2)
      ms pairs := by
  induction ms generalizing pairs with
  | nil => simp [memberValuesWith?, eq_comm]
  | cons m ms ih =>
    obtain ⟨units, t⟩ := m
    simp only [memberValuesWith?, Option.bind_eq_bind, Option.bind_eq_some_iff,
      List.forall₂_cons_left_iff, ← ih]
    constructor
    · rintro ⟨k, hk, v, hv, more, hmore, heq⟩
      cases heq
      exact ⟨(k, v), more, ⟨hk, hv⟩, hmore, rfl⟩
    · rintro ⟨⟨k, v⟩, more, ⟨hk, hv⟩, hmore, rfl⟩
      exact ⟨k, hk, v, hv, more, hmore, rfl⟩

theorem isSome_itemValuesWith?_iff : (itemValuesWith? special depth ts).isSome ↔
    ∀ t ∈ ts, (t.valueWith? special depth).isSome := by
  simp only [Option.isSome_iff_exists, itemValuesWith?_eq_some_iff, exists_forall₂_iff]

theorem isSome_memberValuesWith?_iff : (memberValuesWith? special depth ms).isSome ↔
    ∀ m ∈ ms, (textOf? m.1).isSome ∧ (m.2.valueWith? special depth).isSome := by
  simp only [Option.isSome_iff_exists, memberValuesWith?_eq_some_iff, exists_forall₂_iff,
    Prod.exists]
  simp

/-- Two ways to take special objects come to the same when they do so for each item. -/
theorem itemValuesWith?_congr {special' : List (List StringUnit × Term) → Option (Option Json)}
    (h : ∀ t ∈ ts, t.valueWith? special depth = t.valueWith? special' depth) :
    itemValuesWith? special depth ts = itemValuesWith? special' depth ts := by
  induction ts with
  | nil => rfl
  | cons t ts ih =>
    obtain ⟨ht, hts⟩ := List.forall_mem_cons.1 h
    simp only [itemValuesWith?, ht, ih hts]

theorem memberValuesWith?_congr {special' : List (List StringUnit × Term) → Option (Option Json)}
    (h : ∀ m ∈ ms, m.2.valueWith? special depth = m.2.valueWith? special' depth) :
    memberValuesWith? special depth ms = memberValuesWith? special' depth ms := by
  induction ms with
  | nil => rfl
  | cons m ms ih =>
    obtain ⟨hm, hms⟩ := List.forall_mem_cons.1 h
    simp only [memberValuesWith?, hm, ih hms]

/-- Members in another order have the same keys and values in another order. -/
theorem exists_memberValuesWith?_of_perm (h : memberValuesWith? special depth ms = some pairs)
    (hperm : ms'.Perm ms) :
    ∃ pairs', memberValuesWith? special depth ms' = some pairs' ∧ pairs'.Perm pairs := by
  obtain ⟨pairs', hpairs', hperm'⟩ :=
    List.perm_comp_forall₂ hperm (memberValuesWith?_eq_some_iff.1 h)
  exact ⟨pairs', memberValuesWith?_eq_some_iff.2 hpairs', hperm'⟩

theorem map_textOf?_eq (h : memberValuesWith? special depth ms = some pairs) :
    ms.map (fun m => textOf? m.1) = (pairs.map (·.1)).map some := by
  have hkeys : List.Forall₂ Eq (ms.map fun m => textOf? m.1) (pairs.map fun p => some p.1) :=
    List.forall₂_map_left_iff.2 <| List.forall₂_map_right_iff.2 <|
      (memberValuesWith?_eq_some_iff.1 h).imp fun _ _ hmp => hmp.1
  rw [List.forall₂_eq_eq_eq] at hkeys
  rw [hkeys, List.map_map]
  rfl

end

/-! ## Terms -/

theorem nothingSpecial_ne (members : List (List StringUnit × Term)) (value : Option Json) :
    nothingSpecial members ≠ some value := by
  simp [nothingSpecial]

/-- What the parts of a term pass on to the term holds of every term that has a value. -/
theorem Term.valueWith?_induction {P : Nat → Term → Json → Prop}
    (null : ∀ depth, P depth .null .null) (bool : ∀ depth b, P depth (.bool b) (.bool b))
    (number : ∀ depth l n, l.number? = some n → P depth (.number l) (.number n))
    (string : ∀ depth units s, textOf? units = some s → P depth (.string units) (.string s))
    (array : ∀ depth items vs, List.Forall₂ (P depth) items vs →
      P (depth + 1) (.array items) (.array vs))
    (specialObject : ∀ depth members v, special members = some (some v) →
      P (depth + 1) (.object members) v)
    (object : ∀ depth members pairs, special members = none →
      List.Forall₂ (fun m p => textOf? m.1 = some p.1 ∧ P depth m.2 p.2) members pairs →
      P (depth + 1) (.object members) (.object (Members.ofList pairs))) {t : Term} {v : Json}
    (h : t.valueWith? special depth = some v) : P depth t v := by
  have hall := Term.valueWith?.mutual_induct special
    (fun depth t => ∀ v, t.valueWith? special depth = some v → P depth t v)
    (fun depth ms => ∀ pairs, memberValuesWith? special depth ms = some pairs →
      List.Forall₂ (fun m p => textOf? m.1 = some p.1 ∧ P depth m.2 p.2) ms pairs)
    (fun depth ts => ∀ vs, itemValuesWith? special depth ts = some vs →
      List.Forall₂ (P depth) ts vs)
    ?null ?bool ?number ?string ?tooDeep ?array ?tooDeep' ?special ?object ?noItems ?item
    ?noMembers ?member
  case null =>
    rintro depth v ⟨⟩
    exact null depth
  case bool =>
    rintro depth b v ⟨⟩
    exact bool depth b
  case number =>
    intro depth l v h
    obtain ⟨n, hn, rfl⟩ := Option.map_eq_some_iff.1 h
    exact number depth l n hn
  case string =>
    intro depth units v h
    obtain ⟨s, hs, rfl⟩ := Option.map_eq_some_iff.1 h
    exact string depth units s hs
  case tooDeep => exact fun items v h => nomatch h
  case array =>
    intro items depth ih v h
    obtain ⟨vs, hvs, rfl⟩ := Option.map_eq_some_iff.1 h
    exact array depth items vs (ih vs hvs)
  case tooDeep' => exact fun members v h => nomatch h
  case special =>
    intro members depth value hspecial v h
    simp only [valueWith?, hspecial] at h
    exact specialObject depth members v (h ▸ hspecial)
  case object =>
    intro members depth hspecial ih v h
    simp only [valueWith?, hspecial] at h
    obtain ⟨pairs, hpairs, rfl⟩ := Option.map_eq_some_iff.1 h
    exact object depth members pairs hspecial (ih pairs hpairs)
  case noItems =>
    rintro depth vs ⟨⟩
    exact .nil
  case item =>
    intro depth t ts iht ihts vs h
    simp only [itemValuesWith?, Option.bind_eq_bind, Option.bind_eq_some_iff] at h
    obtain ⟨v, hv, more, hmore, heq⟩ := h
    cases heq
    exact .cons (iht v hv) (ihts more hmore)
  case noMembers =>
    rintro depth pairs ⟨⟩
    exact .nil
  case member =>
    intro depth units t ms iht ihms pairs h
    simp only [memberValuesWith?, Option.bind_eq_bind, Option.bind_eq_some_iff] at h
    obtain ⟨k, hk, v, hv, more, hmore, heq⟩ := h
    cases heq
    exact .cons ⟨hk, iht v hv⟩ (ihms more hmore)
  exact hall.1 depth t v h

end WebhookRelay.Json

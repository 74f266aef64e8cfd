-- SUMMARY: The position of a subscription: what was published since it was added, and what it is offered next.
import WebhookRelay.Proofs.Feed.Holding

/-!
# Positions

A feed is used by several parties: some publish, some subscribe and receive, and handles
are made and given up (`Feed.Call`). What one subscription gets is told by its
`Position` alone: the events published since it was added, numbered from zero, and the
number from which it looks for the next one. A receive gives the least number on offer.
-/

namespace WebhookRelay
namespace Feed

/-! ## Calls -/

/-- What can be done with a feed. -/
inductive Call where
  | subscribe (name : String) (address : Option String)
  | unsubscribe (name : String)
  | publish (e : Event)
  | receive (name : String)
  /-- One more handle is made. -/
  | clone
  /-- A handle is given up. -/
  | close

namespace Call

/-- The event that is published. -/
def event? : Call → Option Event
  | .publish e => some e
  | _ => none

/-- Whether a call adds or removes the reader of a name. -/
def Replaces (name : String) : Call → Prop
  | .subscribe other _ => other = name
  | .unsubscribe other => other = name
  | _ => False

/-- Whether a call publishes, or receives by a name. -/
def concerns (name : String) : Call → Bool
  | .publish _ => true
  | .receive other => other = name
  | _ => false

/-- The handles that a call makes. -/
def made : Call → Nat
  | .clone => 1
  | _ => 0

/-- The handles that a call gives up. -/
def givenUp : Call → Nat
  | .close => 1
  | _ => 0

end Call

/-! ## Positions -/

/-- A subscription as its reader knows it: the events published since it was added, and
the number from which it looks for the next one. -/
structure Position where
  events : List Event
  cursor : Nat

namespace Position

/-- The position of a new subscription. -/
def start : Position :=
  ⟨[], 0⟩

/-- Whether an event can be given: it was not passed, is among the last events, and has
the address that is followed. -/
structure Offers (size : Nat) (address : Option String) (p : Position) (i : Nat) : Prop where
  not_passed : p.cursor ≤ i
  recent : p.events.length ≤ i + size
  matching : ∃ e, p.events[i]? = some e ∧ ∀ a, address = some a → e.address = a

section

variable (size : Nat) (name : String) (address : Option String)

/-- The least number on offer. -/
def next? (p : Position) : Option Nat :=
  (List.range p.events.length).find? fun i =>
    p.cursor ≤ i && p.events.length ≤ i + size &&
      p.events[i]?.any (⟨0, address⟩ : Subscriber).accepts

/-- What a receive gives while there are so many handles. -/
def answer (handles : Nat) (p : Position) : Received :=
  match (p.next? size address).bind (p.events[·]?) with
  | some e => .event e
  | none => if handles = 0 then .closed else .waiting

/-- The number that a call gives to the reader of a name. -/
def gives? (p : Position) : Call → Option Nat
  | .receive other => if other = name then p.next? size address else none
  | _ => none

/-- The position after a call. -/
def after (p : Position) (c : Call) : Position :=
  ⟨p.events ++ c.event?.toList, (p.gives? size name address c).elim p.cursor (· + 1)⟩

/-- The position after some calls. -/
def follow (p : Position) (calls : List Call) : Position :=
  calls.foldl (after size name address) p

/-- The numbers given in the course of some calls. -/
def given : Position → List Call → List Nat
  | _, [] => []
  | p, c :: rest =>
    (p.gives? size name address c).toList ++ given (p.after size name address c) rest

end
end Position

/-! ## What positions offer -/

namespace Position

variable {size : Nat} {name : String} {address : Option String} {p : Position}

theorem lt_length_of_getElem? {events : List Event} {i : Nat} {e : Event}
    (h : events[i]? = some e) : i < events.length :=
  (List.getElem?_eq_some_iff.1 h).1

/-- What is on offer later and was published before, was on offer before. -/
theorem Offers.of_append {q : Position} {i : Nat} (h : q.Offers size address i)
    {more : List Event} (hevents : q.events = p.events ++ more) (hcursor : p.cursor ≤ q.cursor)
    (hlt : i < p.events.length) : p.Offers size address i := by
  obtain ⟨e, he, hmatch⟩ := h.matching
  have hrecent := h.recent
  rw [hevents, List.length_append] at hrecent
  rw [hevents, List.getElem?_append_left hlt] at he
  exact ⟨Nat.le_trans hcursor h.not_passed, by omega, e, he, hmatch⟩

theorem next?_eq_some_iff {i : Nat} :
    p.next? size address = some i ↔ IsLeast {i | p.Offers size address i} i := by
  have hoffers : ∀ i, (decide (p.cursor ≤ i) && decide (p.events.length ≤ i + size)
      && p.events[i]?.any (⟨0, address⟩ : Subscriber).accepts) = true
        ↔ p.Offers size address i := by
    intro i
    simp only [Bool.and_eq_true, decide_eq_true_eq, Option.any_eq_true, Subscriber.accepts_iff]
    constructor
    · rintro ⟨⟨hcursor, hrecent⟩, e, he, hmatch⟩
      exact ⟨hcursor, hrecent, e, he, hmatch⟩
    · rintro ⟨hcursor, hrecent, e, he, hmatch⟩
      exact ⟨⟨hcursor, hrecent⟩, e, he, hmatch⟩
  rw [next?, List.find?_range_eq_some, hoffers]
  constructor
  · rintro ⟨hi, -, hbefore⟩
    refine ⟨hi, ?_⟩
    intro j hj
    by_contra hlt
    have hj' := hbefore j (Nat.not_le.1 hlt)
    rw [(hoffers j).2 hj] at hj'
    cases hj'
  · rintro ⟨hi, hleast⟩
    obtain ⟨e, he, -⟩ := hi.matching
    refine ⟨hi, List.mem_range.2 (lt_length_of_getElem? he), ?_⟩
    intro j hj
    rw [Bool.not_eq_true', Bool.eq_false_iff, ne_eq, hoffers]
    exact fun hoffered => absurd (hleast hoffered) (Nat.not_le.2 hj)

theorem next?_eq_none_iff :
    p.next? size address = none ↔ ∀ i, ¬ p.Offers size address i := by
  constructor
  · intro h i hi
    -- If a number is on offer, the least one is given.
    have hne : {i | p.Offers size address i}.Nonempty := ⟨i, hi⟩
    have hleast := next?_eq_some_iff.2
      ⟨Nat.sInf_mem hne, fun j hj => Nat.sInf_le hj⟩
    rw [h] at hleast
    cases hleast
  · intro h
    cases hnext : p.next? size address with
    | none => rfl
    | some i => exact absurd (next?_eq_some_iff.1 hnext).1 (h i)

theorem gives?_eq_some {c : Call} {i : Nat} (h : p.gives? size name address c = some i) :
    c = .receive name ∧ IsLeast {i | p.Offers size address i} i := by
  cases c with
  | receive other =>
    rw [gives?] at h
    obtain ⟨rfl, hnext⟩ := Option.ite_none_right_eq_some.1 h
    exact ⟨rfl, next?_eq_some_iff.1 hnext⟩
  | subscribe | unsubscribe | publish | clone | close => cases h

theorem events_follow (p : Position) (calls : List Call) :
    (p.follow size name address calls).events = p.events ++ calls.filterMap (·.event?) := by
  induction calls generalizing p with
  | nil => exact (List.append_nil _).symm
  | cons c calls ih =>
    rw [follow, List.foldl_cons, ← follow, ih, after, List.append_assoc]
    cases c <;> rfl

/-- An event keeps its number. -/
theorem getElem?_follow {i : Nat} {e : Event} (h : p.events[i]? = some e) (calls : List Call) :
    (p.follow size name address calls).events[i]? = some e := by
  rw [events_follow, List.getElem?_append_left (lt_length_of_getElem? h), h]

theorem cursor_le_after (p : Position) (c : Call) :
    p.cursor ≤ (p.after size name address c).cursor := by
  cases hgives : p.gives? size name address c with
  | none => simp [after, hgives]
  | some i =>
    have hi := (gives?_eq_some hgives).2.1.not_passed
    simp only [after, hgives, Option.elim_some]
    omega

theorem cursor_le_of_mem_given {calls : List Call} {i : Nat}
    (h : i ∈ p.given size name address calls) : p.cursor ≤ i := by
  induction calls generalizing p with
  | nil => cases h
  | cons c calls ih =>
    rcases List.mem_append.1 h with hi | hi
    · exact (gives?_eq_some (Option.mem_toList.1 hi)).2.1.not_passed
    · exact Nat.le_trans (cursor_le_after p c) (ih hi)

/-- Numbers are given in their order, and none twice. -/
theorem pairwise_given (p : Position) (calls : List Call) :
    (p.given size name address calls).Pairwise (· < ·) := by
  induction calls generalizing p with
  | nil => exact .nil
  | cons c calls ih =>
    refine List.pairwise_append.2 ⟨?_, ih _, ?_⟩
    · cases p.gives? size name address c <;> simp
    · intro i hi j hj
      have hcursor := cursor_le_of_mem_given hj
      rw [after, Option.mem_toList.1 hi] at hcursor
      exact hcursor

/-- Only events with the address that is followed are given. -/
theorem matching_of_mem_given {calls : List Call} {i : Nat}
    (h : i ∈ p.given size name address calls) :
    ∃ e, (p.follow size name address calls).events[i]? = some e ∧
      ∀ a, address = some a → e.address = a := by
  induction calls generalizing p with
  | nil => cases h
  | cons c calls ih =>
    rcases List.mem_append.1 h with hi | hi
    · obtain ⟨e, he, hmatch⟩ := (gives?_eq_some (Option.mem_toList.1 hi)).2.1.matching
      exact ⟨e, getElem?_follow he (c :: calls), hmatch⟩
    · exact ih hi

/-- An event that was passed and not given was out of reach when it was passed. -/
theorem exists_of_not_mem_given {calls : List Call} {i : Nat} {e : Event}
    (he : (p.follow size name address calls).events[i]? = some e)
    (hmatch : ∀ a, address = some a → e.address = a) (hstart : p.cursor ≤ i)
    (hgiven : i ∉ p.given size name address calls)
    (hpassed : i < (p.follow size name address calls).cursor) :
    ∃ front back, calls = front ++ .receive name :: back ∧
      (p.follow size name address front).cursor ≤ i ∧
      i + size < (p.follow size name address front).events.length := by
  induction calls generalizing p with
  | nil => exact absurd hstart (Nat.not_le.2 hpassed)
  | cons c calls ih =>
    have hhere : i ∉ (p.gives? size name address c).toList := fun h =>
      hgiven (List.mem_append_left _ h)
    by_cases hcursor : (p.after size name address c).cursor ≤ i
    · obtain ⟨front, back, rfl, hfront, hlost⟩ :=
        ih he hcursor (fun h => hgiven (List.mem_append_right _ h)) hpassed
      exact ⟨c :: front, back, rfl, hfront, hlost⟩
    · -- The call passes the event, so it gives a later one.
      cases hgives : p.gives? size name address c with
      | none =>
        simp only [after, hgives, Option.elim_none] at hcursor
        exact absurd hstart hcursor
      | some k =>
        obtain ⟨rfl, hk, hleast⟩ := gives?_eq_some hgives
        simp only [after, hgives, Option.elim_some] at hcursor
        have hne : i ≠ k := by
          rintro rfl
          exact hhere (by rw [hgives]; simp)
        obtain ⟨x, hx, -⟩ := hk.matching
        have hlt : i < p.events.length := by
          have hklt := lt_length_of_getElem? hx
          omega
        have hsame : p.events[i]? = some e := by
          rw [← he, getElem?_follow (List.getElem?_eq_getElem hlt) (.receive name :: calls),
            List.getElem?_eq_getElem hlt]
        refine ⟨[], calls, rfl, hstart, ?_⟩
        by_contra hrecent
        have hle := hleast ⟨hstart, Nat.not_lt.1 hrecent, e, hsame, hmatch⟩
        omega

/-- Calls that neither publish nor receive by the name do not matter. -/
theorem follow_filter (p : Position) (calls : List Call) :
    p.follow size name address (calls.filter (·.concerns name))
      = p.follow size name address calls := by
  induction calls generalizing p with
  | nil => rfl
  | cons c calls ih =>
    by_cases hc : c.concerns name = true
    · rw [List.filter_cons_of_pos hc]
      exact ih _
    · have hidle : p.after size name address c = p := by
        cases c with
        | publish e => exact absurd rfl hc
        | receive other =>
          have hother : ¬ other = name := by simpa [Call.concerns] using hc
          simp [after, gives?, hother, Call.event?]
        | subscribe | unsubscribe | clone | close => simp [after, gives?, Call.event?]
      rw [List.filter_cons_of_neg hc, ih, follow, follow, List.foldl_cons, hidle]

end Position

end Feed
end WebhookRelay

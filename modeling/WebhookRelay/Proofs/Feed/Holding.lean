-- SUMMARY: What a feed holds, and what a reader finds among it: the first event it accepts, not before its cursor.
import WebhookRelay.Feed
import Mathlib

/-!
# What a feed holds

A feed holds the last of all events that were published, as many as its capacity
(`Feed.Holds`). A reader that receives is looking at the feed again and again
(`Feed.Takes`): it is put to the oldest event held when it fell behind, passes over the
events it does not follow, and stops at the first other one or at the end.
`Feed.read` gives in one go what this comes to.
-/

namespace WebhookRelay

/-- The capacity of a feed is the least power of two that is enough. -/
theorem isLeast_nextPowerOfTwo (n : Nat) :
    IsLeast {c | c.isPowerOfTwo ∧ max n 1 ≤ c} (nextPowerOfTwo n) := by
  unfold nextPowerOfTwo
  by_cases hn : n ≤ 1
  · rw [if_pos hn]
    refine ⟨⟨⟨0, rfl⟩, by omega⟩, ?_⟩
    rintro c ⟨-, hc⟩
    omega
  · have hne : n - 1 ≠ 0 := by omega
    rw [if_neg hn, Nat.one_shiftLeft]
    have hlt : n - 1 < 2 ^ (Nat.log2 (n - 1) + 1) := Nat.lt_log2_self
    refine ⟨⟨⟨_, rfl⟩, by omega⟩, ?_⟩
    rintro c ⟨⟨k, rfl⟩, hc⟩
    have hk : Nat.log2 (n - 1) < k := (Nat.log2_lt hne).2 (by omega)
    exact Nat.pow_le_pow_right (by decide) hk

theorem Subscriber.accepts_iff (s : Subscriber) (e : Event) :
    s.accepts e = true ↔ ∀ a, s.address = some a → e.address = a := by
  unfold Subscriber.accepts
  cases s.address <;> simp

namespace Feed

/-! ## Publishing -/

/-- Whether a feed is one that these events were published to. -/
structure Holds (f : Feed) (all : List Event) : Prop where
  published : f.published = all.length
  held : f.held = all.drop (all.length - f.capacity)

theorem holds_ofCapacity (capacity : Nat) : (ofCapacity capacity).Holds [] :=
  ⟨rfl, List.drop_nil.symm⟩

theorem Holds.publish {f : Feed} {all : List Event} (h : f.Holds all) (e : Event) :
    (f.publish e).Holds (all ++ [e]) := by
  refine ⟨?_, ?_⟩
  · simp [Feed.publish, h.published]
  · have hdrop : all.length - f.capacity ≤ all.length := Nat.sub_le ..
    simp only [Feed.publish, h.held]
    rw [← List.drop_append_of_le_length hdrop, List.drop_drop, List.length_drop]
    congr 1
    simp only [List.length_append, List.length_singleton]
    omega

theorem Holds.oldest {f : Feed} {all : List Event} (h : f.Holds all) :
    f.oldest = all.length - f.capacity := by
  rw [Feed.oldest, h.published, h.held, List.length_drop]
  omega

/-- The events held from a number on are those published from it on. -/
theorem Holds.drop_held {f : Feed} {all : List Event} (h : f.Holds all) {start : Nat}
    (hstart : f.oldest ≤ start) : f.held.drop (start - f.oldest) = all.drop start := by
  rw [h.held, List.drop_drop, ← h.oldest, Nat.add_sub_cancel' hstart]

/-! ## Looking for an event -/

/-- The event found is the first that is accepted. -/
theorem next?_eq_some_iff {s : Subscriber} {start cursor : Nat} {events : List Event} {e : Event} :
    next? s start events = some (e, cursor) ↔
      ∃ i, events[i]? = some e ∧ s.accepts e = true ∧ cursor = start + i + 1 ∧
        ∀ j < i, ∀ x, events[j]? = some x → s.accepts x = false := by
  induction events generalizing start with
  | nil => simp [next?]
  | cons x events ih =>
    unfold next?
    by_cases hx : s.accepts x = true
    · rw [if_pos hx]
      constructor
      · intro h
        cases h
        exact ⟨0, rfl, hx, rfl, fun j hj => absurd hj (Nat.not_lt_zero j)⟩
      · rintro ⟨i, he, -, hcursor, hbefore⟩
        cases i with
        | zero =>
          cases he
          rw [hcursor]
        | succ i =>
          rw [hbefore 0 (Nat.succ_pos i) x rfl] at hx
          cases hx
    · rw [if_neg hx, ih]
      constructor
      · rintro ⟨i, he, haccepts, hcursor, hbefore⟩
        refine ⟨i + 1, he, haccepts, by omega, ?_⟩
        intro j hj y hy
        cases j with
        | zero =>
          cases hy
          exact Bool.eq_false_iff.2 hx
        | succ j => exact hbefore j (Nat.lt_of_succ_lt_succ hj) y hy
      · rintro ⟨i, he, haccepts, hcursor, hbefore⟩
        cases i with
        | zero =>
          cases he
          exact absurd haccepts hx
        | succ i =>
          refine ⟨i, he, haccepts, by omega, ?_⟩
          intro j hj y hy
          exact hbefore (j + 1) (Nat.succ_lt_succ hj) y hy

theorem next?_eq_none_iff {s : Subscriber} {start : Nat} {events : List Event} :
    next? s start events = none ↔ ∀ e ∈ events, s.accepts e = false := by
  induction events generalizing start with
  | nil => simp [next?]
  | cons x events ih =>
    unfold next?
    by_cases hx : s.accepts x = true
    · simp [hx]
    · simp [hx, ih]

/-- Only the address of a reader decides what is found. -/
theorem next?_congr {s t : Subscriber} (h : s.address = t.address) (start : Nat)
    (events : List Event) : next? s start events = next? t start events := by
  have haccepts : s.accepts = t.accepts := by
    funext e
    rw [Subscriber.accepts, Subscriber.accepts, h]
  induction events generalizing start with
  | nil => rfl
  | cons x events ih => rw [next?, next?, haccepts, ih]

/-! ## Reading -/

/-- The number from which a reader looks for an event. -/
def start (f : Feed) (s : Subscriber) : Nat :=
  max s.cursor f.oldest

theorem oldest_le_start (f : Feed) (s : Subscriber) : f.oldest ≤ f.start s :=
  Nat.le_max_right ..

/-- What is logged when a reader reads. -/
def lagLog (f : Feed) (s : Subscriber) : List LogRecord :=
  if s.cursor < f.start s then [lagRecord (f.start s - s.cursor)] else []

theorem Holds.read_of_some {f : Feed} {all : List Event} (h : f.Holds all) {s : Subscriber}
    {e : Event} {cursor : Nat}
    (hfound : next? s (f.start s) (all.drop (f.start s)) = some (e, cursor)) :
    f.read s = (.event e, { s with cursor }, f.lagLog s) := by
  rw [← h.drop_held (f.oldest_le_start s), start] at hfound
  simp only [read, hfound]
  rfl

theorem Holds.read_of_none {f : Feed} {all : List Event} (h : f.Holds all) {s : Subscriber}
    (hfound : next? s (f.start s) (all.drop (f.start s)) = none) :
    f.read s = (if f.handles = 0 then .closed else .waiting, { s with cursor := all.length },
      f.lagLog s) := by
  rw [← h.drop_held (f.oldest_le_start s), start] at hfound
  simp only [read, hfound, h.published]
  rfl

/-! ## Receiving, look by look -/

/-- What a look at the feed finds. -/
inductive Look where
  /-- The reader fell behind, by so many events. -/
  | lagged (skipped : Nat)
  | event (e : Event)
  | nothing

/-- A look at the feed from a cursor, and the cursor afterwards. -/
def look (f : Feed) (cursor : Nat) : Look × Nat :=
  if cursor < f.oldest then (.lagged (f.oldest - cursor), f.oldest)
  else
    match f.held[cursor - f.oldest]? with
    | some e => (.event e, cursor + 1)
    | none => (.nothing, cursor)

/-- What a reader gets by looking until it finds an event it follows, or none is left. -/
inductive Takes (f : Feed) : Subscriber → Received → Subscriber → List LogRecord → Prop where
  | lagged {s s' : Subscriber} {skipped cursor : Nat} {received : Received} {log : List LogRecord}
      (look : f.look s.cursor = (.lagged skipped, cursor))
      (rest : Takes f { s with cursor } received s' log) :
      Takes f s received s' (lagRecord skipped :: log)
  | passed {s s' : Subscriber} {e : Event} {cursor : Nat} {received : Received}
      {log : List LogRecord} (look : f.look s.cursor = (.event e, cursor))
      (refused : s.accepts e = false) (rest : Takes f { s with cursor } received s' log) :
      Takes f s received s' log
  | event {s : Subscriber} {e : Event} {cursor : Nat}
      (look : f.look s.cursor = (.event e, cursor)) (accepted : s.accepts e = true) :
      Takes f s (.event e) { s with cursor } []
  | waiting {s : Subscriber} {cursor : Nat} (look : f.look s.cursor = (.nothing, cursor))
      (open_ : f.handles ≠ 0) : Takes f s .waiting { s with cursor } []
  | closed {s : Subscriber} {cursor : Nat} (look : f.look s.cursor = (.nothing, cursor))
      (gone : f.handles = 0) : Takes f s .closed { s with cursor } []

theorem look_of_lt {f : Feed} {cursor : Nat} (h : cursor < f.oldest) :
    f.look cursor = (.lagged (f.oldest - cursor), f.oldest) :=
  if_pos h

theorem Holds.look_of_le {f : Feed} {all : List Event} (h : f.Holds all) {cursor : Nat}
    (hle : f.oldest ≤ cursor) :
    f.look cursor = match all[cursor]? with
      | some e => (.event e, cursor + 1)
      | none => (.nothing, cursor) := by
  have hget : f.held[cursor - f.oldest]? = all[cursor]? := by
    rw [h.held, List.getElem?_drop, ← h.oldest, Nat.add_sub_cancel' hle]
  rw [look, if_neg (Nat.not_lt.2 hle), hget]

theorem start_of_le {f : Feed} {s : Subscriber} (h : f.oldest ≤ s.cursor) : f.start s = s.cursor :=
  Nat.max_eq_left h

theorem lagLog_of_le {f : Feed} {s : Subscriber} (h : f.oldest ≤ s.cursor) : f.lagLog s = [] := by
  rw [lagLog, start_of_le h, if_neg (Nat.lt_irrefl _)]

/-- What is logged is told by the cursor, everything else by what is found. -/
theorem Holds.read_congr {f : Feed} {all : List Event} (h : f.Holds all) {s t : Subscriber}
    (haddress : s.address = t.address)
    (hnext : next? s (f.start s) (all.drop (f.start s))
      = next? t (f.start t) (all.drop (f.start t))) :
    f.read s = ((f.read t).1, (f.read t).2.1, f.lagLog s) := by
  have hsame : ∀ cursor, ({ s with cursor } : Subscriber) = { t with cursor } := by
    intro cursor
    rw [haddress]
  cases hfound : next? t (f.start t) (all.drop (f.start t)) with
  | none => rw [h.read_of_none (hnext.trans hfound), h.read_of_none hfound, hsame]
  | some found => rw [h.read_of_some (hnext.trans hfound), h.read_of_some hfound, hsame]

theorem snd_snd_read (f : Feed) (s : Subscriber) : (f.read s).2.2 = f.lagLog s := by
  simp only [read]
  split <;> rfl

/-- A reader that does not follow the event at its cursor reads as from behind it. -/
theorem Holds.read_of_refused {f : Feed} {all : List Event} (h : f.Holds all) {s : Subscriber}
    (hle : f.oldest ≤ s.cursor) (hlt : s.cursor < all.length)
    (hrefused : s.accepts all[s.cursor] = false) :
    f.read s = f.read { s with cursor := s.cursor + 1 } := by
  let t : Subscriber := { s with cursor := s.cursor + 1 }
  have hle' : f.oldest ≤ t.cursor := Nat.le_succ_of_le hle
  have hnext : next? s (f.start s) (all.drop (f.start s))
      = next? t (f.start t) (all.drop (f.start t)) := by
    rw [start_of_le hle, start_of_le hle', List.drop_eq_getElem_cons hlt, next?, hrefused,
      if_neg Bool.false_ne_true]
    exact next?_congr (s := s) (t := t) rfl ..
  have hlog : (f.read t).2.2 = f.lagLog s := by
    rw [snd_snd_read, lagLog_of_le hle', lagLog_of_le hle]
  rw [h.read_congr (s := s) (t := t) rfl hnext, ← hlog]

/-- A reader that fell behind reads as from the oldest event held, and that is logged. -/
theorem Holds.read_of_lagged {f : Feed} {all : List Event} (h : f.Holds all) {s : Subscriber}
    (hlt : s.cursor < f.oldest) :
    let t : Subscriber := { s with cursor := f.oldest }
    f.read s
      = ((f.read t).1, (f.read t).2.1, lagRecord (f.oldest - s.cursor) :: (f.read t).2.2) := by
  intro t
  have hs : f.start s = f.oldest := Nat.max_eq_right (Nat.le_of_lt hlt)
  have ht : f.start t = f.oldest := Nat.max_self _
  have hnext : next? s (f.start s) (all.drop (f.start s))
      = next? t (f.start t) (all.drop (f.start t)) := by
    rw [hs, ht]
    exact next?_congr (s := s) (t := t) rfl ..
  rw [h.read_congr (s := s) (t := t) rfl hnext, snd_snd_read, lagLog_of_le (s := t) (Nat.le_refl _),
    lagLog, hs, if_pos hlt]

theorem Holds.takes_of_le {f : Feed} {all : List Event} (h : f.Holds all) {s : Subscriber}
    (hle : f.oldest ≤ s.cursor) (hcursor : s.cursor ≤ all.length) :
    f.Takes s (f.read s).1 (f.read s).2.1 (f.read s).2.2 := by
  -- Each look takes the cursor nearer to the end.
  induction hn : all.length - s.cursor generalizing s with
  | zero =>
    have hend : s.cursor = all.length := by omega
    have hlook : f.look s.cursor = (.nothing, s.cursor) := by
      rw [h.look_of_le hle, hend, List.getElem?_length]
    have hfound : next? s (f.start s) (all.drop (f.start s)) = none := by
      rw [start_of_le hle, hend, List.drop_length, next?]
    rw [h.read_of_none hfound, lagLog_of_le hle, ← hend]
    by_cases hgone : f.handles = 0
    · rw [if_pos hgone]
      exact .closed hlook hgone
    · rw [if_neg hgone]
      exact .waiting hlook hgone
  | succ n ih =>
    have hlt : s.cursor < all.length := by omega
    have hlook : f.look s.cursor = (.event all[s.cursor], s.cursor + 1) := by
      rw [h.look_of_le hle, List.getElem?_eq_getElem hlt]
    cases haccepts : s.accepts all[s.cursor] with
    | true =>
      have hfound : next? s (f.start s) (all.drop (f.start s))
          = some (all[s.cursor], s.cursor + 1) := by
        rw [start_of_le hle, List.drop_eq_getElem_cons hlt, next?, if_pos haccepts]
      rw [h.read_of_some hfound, lagLog_of_le hle]
      exact .event hlook haccepts
    | false =>
      rw [h.read_of_refused hle hlt haccepts]
      refine .passed hlook haccepts (ih (Nat.le_succ_of_le hle) hlt ?_)
      show all.length - (s.cursor + 1) = n
      omega

/-- Reading the feed is looking at it until there is something to give. -/
theorem Holds.takes_read {f : Feed} {all : List Event} (h : f.Holds all) {s : Subscriber}
    (hcursor : s.cursor ≤ all.length) : f.Takes s (f.read s).1 (f.read s).2.1 (f.read s).2.2 := by
  by_cases hle : f.oldest ≤ s.cursor
  · exact h.takes_of_le hle hcursor
  · have hlt : s.cursor < f.oldest := Nat.not_le.1 hle
    have holdest : f.oldest ≤ all.length := by
      rw [h.oldest]
      exact Nat.sub_le ..
    rw [h.read_of_lagged hlt]
    exact .lagged (look_of_lt hlt) (h.takes_of_le (Nat.le_refl _) holdest)

end Feed
end WebhookRelay

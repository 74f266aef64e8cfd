-- SUMMARY: Following a feed: which events a subscription gets, in the course of any calls of anybody.
import WebhookRelay.Proofs.Feed.Position
import WebhookRelay.Proofs.Run

/-!
# Following a feed

Calls are made on a feed one after the other (`Feed.run?`). Whatever they are, a reader
stands at the position of its subscription (`Feed.Stands`), so what it gets is what the
position is offered.

`Feed.deliveries` says so for a subscription of a new feed, in the course of any calls.
-/

namespace WebhookRelay
namespace Feed

/-! ## Making calls -/

/-- Makes a call; `none` when it cannot be made. Receiving and removing need a reader of
the name, everything else needs a handle. -/
def step? (f : Feed) : Call → Option Feed
  | .subscribe name address => if f.handles = 0 then none else some (f.subscribe name address)
  | .unsubscribe name =>
    if (f.subscribers.lookup name).isNone then none else some (f.unsubscribe name)
  | .publish e => if f.handles = 0 then none else some (f.publish e)
  | .receive name => (f.receive? name).map (·.2.1)
  | .clone => if f.handles = 0 then none else some f.clone
  | .close => if f.handles = 0 then none else some f.close

/-- Makes calls, one after the other. -/
def run? (f : Feed) (calls : List Call) : Option Feed :=
  calls.foldlM step? f

/-- The reader of a name. -/
def reader? (f : Feed) (name : String) : Option Subscriber :=
  f.subscribers.lookup name

/-- The event that the reader of a name gets by a call. -/
def gets? (f : Feed) (name : String) : Call → Option Event
  | .receive other =>
    if other = name then
      match f.receive? name with
      | some (.event e, _) => some e
      | _ => none
    else none
  | _ => none

/-- The events that the reader of a name gets in the course of some calls. -/
def received (name : String) : Feed → List Call → List Event
  | _, [] => []
  | f, c :: rest =>
    (f.gets? name c).toList ++ (f.step? c).elim [] (received name · rest)

/-! ## What a call does -/

/-- The feed with another reader under a name that it has. -/
def withReader (f : Feed) (name : String) (s : Subscriber) : Feed :=
  { f with subscribers := f.subscribers.map fun (n, r) => (n, if n = name then s else r) }

/-- What a call does when it is made. -/
inductive Step (f : Feed) : Call → Feed → Prop where
  | subscribe (name : String) (address : Option String) (handle : f.handles ≠ 0) :
      Step f (.subscribe name address) (f.subscribe name address)
  | unsubscribe (name : String) : Step f (.unsubscribe name) (f.unsubscribe name)
  | publish (e : Event) (handle : f.handles ≠ 0) : Step f (.publish e) (f.publish e)
  | receive (name : String) (s : Subscriber) (reader : f.reader? name = some s) :
      Step f (.receive name) (f.withReader name (f.read s).2.1)
  | clone (handle : f.handles ≠ 0) : Step f .clone f.clone
  | close (handle : f.handles ≠ 0) : Step f .close f.close

theorem receive?_of_reader? {f : Feed} {name : String} {s : Subscriber}
    (h : f.reader? name = some s) :
    f.receive? name = some ((f.read s).1, f.withReader name (f.read s).2.1, (f.read s).2.2) := by
  unfold reader? at h
  rw [receive?, h]
  rfl

/-- Every call that is made does what `Step` says. -/
theorem step_of_step? {f g : Feed} {c : Call} (h : f.step? c = some g) : f.Step c g := by
  cases c with
  | subscribe name address =>
    obtain ⟨hhandle, h⟩ := Option.ite_none_left_eq_some.1 h
    cases h
    exact .subscribe name address hhandle
  | unsubscribe name =>
    obtain ⟨-, h⟩ := Option.ite_none_left_eq_some.1 h
    cases h
    exact .unsubscribe name
  | publish e =>
    obtain ⟨hhandle, h⟩ := Option.ite_none_left_eq_some.1 h
    cases h
    exact .publish e hhandle
  | receive name =>
    cases hreader : f.reader? name with
    | none =>
      unfold reader? at hreader
      rw [step?, receive?, hreader] at h
      cases h
    | some s =>
      rw [step?, receive?_of_reader? hreader] at h
      cases h
      exact .receive name s hreader
  | clone =>
    obtain ⟨hhandle, h⟩ := Option.ite_none_left_eq_some.1 h
    cases h
    exact .clone hhandle
  | close =>
    obtain ⟨hhandle, h⟩ := Option.ite_none_left_eq_some.1 h
    cases h
    exact .close hhandle

theorem capacity_step {f g : Feed} {c : Call} (h : f.step? c = some g) :
    g.capacity = f.capacity := by
  cases step_of_step? h <;> rfl

theorem Holds.step {f g : Feed} {c : Call} {all : List Event} (hf : f.Holds all)
    (h : f.step? c = some g) : g.Holds (all ++ c.event?.toList) := by
  cases step_of_step? h with
  | publish e => exact hf.publish e
  | subscribe | unsubscribe | receive | clone | close =>
    show Holds _ (all ++ [])
    rw [List.append_nil]
    exact ⟨hf.published, hf.held⟩

/-- Handles are counted. -/
theorem handles_step {f g : Feed} {c : Call} (h : f.step? c = some g) :
    g.handles + c.givenUp = f.handles + c.made := by
  cases step_of_step? h with
  | close hhandle => exact Nat.sub_add_cancel (Nat.pos_of_ne_zero hhandle)
  | subscribe | unsubscribe | publish | receive | clone => rfl

/-! ## Readers -/

theorem lookup_filter_ne (readers : List (String × Subscriber)) {name other : String}
    (h : other ≠ name) : (readers.filter (·.1 != other)).lookup name = readers.lookup name := by
  induction readers with
  | nil => rfl
  | cons r readers ih =>
    obtain ⟨n, s⟩ := r
    by_cases hn : n = other
    · subst hn
      have hname : (name == n) = false := by simpa using Ne.symm h
      simp [List.lookup_cons, hname, ih]
    · simp [List.lookup_cons, hn, ih]

theorem lookup_replace (readers : List (String × Subscriber)) (name other : String)
    (t : Subscriber) :
    (readers.map fun (n, r) => (n, if n = other then t else r)).lookup name
      = (readers.lookup name).map fun r => if name = other then t else r := by
  induction readers with
  | nil => rfl
  | cons r readers ih =>
    obtain ⟨n, s⟩ := r
    by_cases hn : name = n
    · subst hn
      simp
    · have hname : (name == n) = false := by simpa using hn
      simp [List.lookup_cons, hname, ih]

theorem reader?_subscribe_self (f : Feed) (name : String) (address : Option String) :
    (f.subscribe name address).reader? name = some ⟨f.published, address⟩ := by
  simp [reader?, subscribe]

theorem reader?_withReader {f : Feed} {name : String} {s : Subscriber}
    (h : f.reader? name = some s) (t : Subscriber) :
    (f.withReader name t).reader? name = some t := by
  unfold reader? at h ⊢
  simp [withReader, lookup_replace, h]

/-- A reader is moved by its own receives and by nothing else that leaves it there. -/
theorem reader?_step {f g : Feed} {c : Call} (h : f.step? c = some g) {name : String}
    {s : Subscriber} (hs : f.reader? name = some s) (hkept : ¬ c.Replaces name) :
    g.reader? name = some (match c with
      | .receive other => if other = name then (f.read s).2.1 else s
      | _ => s) := by
  unfold reader? at hs ⊢
  cases step_of_step? h with
  | subscribe other address =>
    have hne : name ≠ other := Ne.symm hkept
    have hname : (name == other) = false := by simpa using hne
    simp [subscribe, List.lookup_cons, hname, lookup_filter_ne _ hkept, hs]
  | unsubscribe other => simp [unsubscribe, lookup_filter_ne _ hkept, hs]
  | receive other t ht =>
    unfold reader? at ht
    simp only [withReader, lookup_replace, hs, Option.map_some]
    by_cases hname : other = name
    · subst hname
      rw [hs] at ht
      cases ht
      simp
    · simp [hname, Ne.symm hname]
  | publish | clone | close => exact hs

/-! ## Where a reader stands -/

/-- Whether a reader stands at a position, `before` being what was published before it was
added: what lies between the two cannot be given. -/
structure Stands (f : Feed) (s : Subscriber) (before : List Event) (p : Position) : Prop where
  holds : f.Holds (before ++ p.events)
  cursor_le : before.length + p.cursor ≤ s.cursor
  le_length : s.cursor ≤ before.length + p.events.length
  passed : ∀ i, before.length + i < s.cursor → ¬ p.Offers f.capacity s.address i

section

variable {f g : Feed} {s : Subscriber} {before : List Event} {p : Position}

/-- On offer is what the reader finds from where it starts. -/
theorem Stands.offers_iff (h : f.Stands s before p) {i : Nat} :
    p.Offers f.capacity s.address i ↔
      f.start s ≤ before.length + i ∧ ∃ e, p.events[i]? = some e ∧ s.accepts e = true := by
  have holdest := h.holds.oldest
  rw [List.length_append] at holdest
  have hcursor := h.cursor_le
  unfold start
  constructor
  · intro hi
    have hpassed : s.cursor ≤ before.length + i := by
      by_contra hlt
      exact h.passed i (Nat.not_le.1 hlt) hi
    obtain ⟨e, he, hmatch⟩ := hi.matching
    have hrecent := hi.recent
    exact ⟨by omega, e, he, (s.accepts_iff e).2 hmatch⟩
  · rintro ⟨hstart, e, he, haccepts⟩
    exact ⟨by omega, by omega, e, he, (s.accepts_iff e).1 haccepts⟩

theorem Stands.start_le (h : f.Stands s before p) :
    before.length ≤ f.start s ∧ f.start s ≤ before.length + p.events.length := by
  have holdest := h.holds.oldest
  rw [List.length_append] at holdest
  have hcursor := h.cursor_le
  have hlength := h.le_length
  unfold start
  omega

theorem getElem?_before_append (before events : List Event) (i : Nat) :
    (before ++ events)[before.length + i]? = events[i]? := by
  rw [List.getElem?_append_right (Nat.le_add_right ..), Nat.add_sub_cancel_left]

/-- The event that the reader finds, by its number since the reader was added. -/
theorem getElem?_drop_start {i : Nat} (hi : f.start s ≤ before.length + i) :
    ((before ++ p.events).drop (f.start s))[before.length + i - f.start s]? = p.events[i]? := by
  rw [List.getElem?_drop, Nat.add_sub_cancel' hi, getElem?_before_append]

/-- A reader gets the least number on offer. -/
theorem Stands.read_of_some (h : f.Stands s before p) {i : Nat}
    (hi : p.next? f.capacity s.address = some i) :
    ∃ e, p.events[i]? = some e ∧
      f.read s = (.event e, { s with cursor := before.length + i + 1 }, f.lagLog s) := by
  obtain ⟨hoffers, hleast⟩ := Position.next?_eq_some_iff.1 hi
  obtain ⟨hstart, e, he, haccepts⟩ := h.offers_iff.1 hoffers
  refine ⟨e, he, h.holds.read_of_some (next?_eq_some_iff.2
    ⟨before.length + i - f.start s, ?_, haccepts, by omega, ?_⟩)⟩
  · rw [getElem?_drop_start hstart, he]
  · intro j hj x hx
    -- An earlier one that is accepted would be on offer.
    obtain ⟨k, hk⟩ : ∃ k, f.start s + j = before.length + k :=
      Nat.exists_eq_add_of_le (Nat.le_trans h.start_le.1 (Nat.le_add_right ..))
    rw [List.getElem?_drop, hk, getElem?_before_append] at hx
    by_contra hx'
    have hle := hleast (h.offers_iff.2 ⟨by omega, x, hx, by simpa using hx'⟩)
    omega

/-- A reader to whom nothing is on offer waits, or is told that the feed is closed. -/
theorem Stands.read_of_none (h : f.Stands s before p)
    (hnone : p.next? f.capacity s.address = none) :
    f.read s = (if f.handles = 0 then .closed else .waiting,
      { s with cursor := before.length + p.events.length }, f.lagLog s) := by
  have hoffers := Position.next?_eq_none_iff.1 hnone
  have hread := h.holds.read_of_none (s := s) (next?_eq_none_iff.2 ?_)
  · rw [hread, List.length_append]
  · intro x hx
    obtain ⟨j, hj⟩ := List.mem_iff_getElem?.1 hx
    obtain ⟨k, hk⟩ : ∃ k, f.start s + j = before.length + k :=
      Nat.exists_eq_add_of_le (Nat.le_trans h.start_le.1 (Nat.le_add_right ..))
    rw [List.getElem?_drop, hk, getElem?_before_append] at hj
    by_contra haccepts
    exact hoffers k (h.offers_iff.2 ⟨by omega, x, hj, by simpa using haccepts⟩)

theorem stands_subscribe {all : List Event} (h : f.Holds all) (name : String)
    (address : Option String) :
    (f.subscribe name address).Stands ⟨f.published, address⟩ all .start := by
  refine ⟨?_, ?_, ?_, ?_⟩
  · rw [Position.start, List.append_nil]
    exact ⟨h.published, h.held⟩
  · exact Nat.le_of_eq h.published.symm
  · exact Nat.le_of_eq h.published
  · rintro i - hi
    obtain ⟨e, he, -⟩ := hi.matching
    cases he

/-- A reader that receives stands at its position afterwards. -/
theorem Stands.receive (h : f.Stands s before p) {name : String}
    (hstep : f.step? (.receive name) = some g) :
    g.Stands (f.read s).2.1 before (p.after f.capacity name s.address (.receive name)) := by
  have hholds := h.holds.step hstep
  have hgives : p.gives? f.capacity name s.address (.receive name)
      = p.next? f.capacity s.address := if_pos rfl
  rw [List.append_assoc] at hholds
  rw [Position.after, hgives]
  cases hnext : p.next? f.capacity s.address with
  | some k =>
    obtain ⟨e, he, hread⟩ := h.read_of_some hnext
    have hk := Position.lt_length_of_getElem? he
    rw [hread]
    refine ⟨hholds, Nat.le_refl _, ?_, ?_⟩
    · show before.length + k + 1 ≤ _
      simp only [Call.event?, Option.toList_none, List.append_nil]
      omega
    · intro i hi hoffers
      have hcursor : k + 1 ≤ i := hoffers.not_passed
      have hlt : before.length + i < before.length + k + 1 := hi
      omega
  | none =>
    have hoffers := Position.next?_eq_none_iff.1 hnext
    rw [h.read_of_none hnext]
    refine ⟨hholds, Nat.le_trans h.cursor_le h.le_length, ?_, ?_⟩
    · exact Nat.add_le_add_left (Nat.le_of_eq (by simp [Call.event?])) _
    · intro i _ hi
      have hcapacity := capacity_step hstep
      rw [hcapacity] at hi
      have hlt : i < p.events.length := by
        obtain ⟨e, he, -⟩ := hi.matching
        simpa [Call.event?] using Position.lt_length_of_getElem? he
      exact hoffers i (hi.of_append rfl (Nat.le_refl _) hlt)

/-- A reader stands at its position after any call that leaves it there. -/
theorem Stands.step (h : f.Stands s before p) {c : Call} (hstep : f.step? c = some g)
    {name : String} (hs : f.reader? name = some s) (hkept : ¬ c.Replaces name) :
    ∃ t, g.reader? name = some t ∧ t.address = s.address ∧
      g.Stands t before (p.after f.capacity name s.address c) := by
  have hreader := reader?_step hstep hs hkept
  by_cases hc : c = .receive name
  · subst hc
    refine ⟨_, hreader.trans (congrArg some (if_pos rfl)), ?_, h.receive hstep⟩
    cases hnext : p.next? f.capacity s.address with
    | some k =>
      obtain ⟨e, -, hread⟩ := h.read_of_some hnext
      rw [hread]
    | none => rw [h.read_of_none hnext]
  · have hgives : p.gives? f.capacity name s.address c = none := by
      cases c with
      | receive other =>
        have hother : ¬ other = name := fun heq => hc (congrArg Call.receive heq)
        exact if_neg hother
      | subscribe | unsubscribe | publish | clone | close => rfl
    have hsame : g.reader? name = some s := by
      rw [hreader]
      cases c with
      | receive other =>
        have hother : ¬ other = name := fun heq => hc (congrArg Call.receive heq)
        exact congrArg some (if_neg hother)
      | subscribe | unsubscribe | publish | clone | close => rfl
    have hholds := h.holds.step hstep
    have hlength := h.le_length
    rw [List.append_assoc] at hholds
    refine ⟨s, hsame, rfl, ?_⟩
    rw [Position.after, hgives]
    refine ⟨hholds, h.cursor_le, ?_, ?_⟩
    · rw [List.length_append]
      omega
    · intro i hi hoffers
      rw [capacity_step hstep] at hoffers
      exact h.passed i hi (hoffers.of_append rfl (Nat.le_refl _) (by omega))

/-- What a receive gives is told by the position. -/
theorem Stands.read_fst (h : f.Stands s before p) :
    (f.read s).1 = p.answer f.capacity s.address f.handles := by
  cases hnext : p.next? f.capacity s.address with
  | some i =>
    obtain ⟨e, he, hread⟩ := h.read_of_some hnext
    rw [hread, Position.answer, hnext, Option.bind_some, he]
  | none =>
    rw [h.read_of_none hnext, Position.answer, hnext]
    rfl

theorem Stands.gets?_eq (h : f.Stands s before p) {name : String} (hs : f.reader? name = some s)
    (c : Call) :
    f.gets? name c = (p.gives? f.capacity name s.address c).bind (p.events[·]?) := by
  cases c with
  | receive other =>
    by_cases hother : other = name
    · subst hother
      rw [gets?, if_pos rfl, receive?_of_reader? hs, h.read_fst, Position.gives?, if_pos rfl,
        Position.answer]
      cases (p.next? f.capacity s.address).bind (p.events[·]?) with
      | some e => rfl
      | none =>
        -- Neither waiting nor a closed feed gives an event.
        by_cases hgone : f.handles = 0
        · simp [hgone]
        · simp [hgone]
    · rw [gets?, if_neg hother, Position.gives?, if_neg hother, Option.bind_none]
  | subscribe | unsubscribe | publish | clone | close => rfl

end

/-! ## Runs -/

theorem capacity_run {f g : Feed} {calls : List Call} (h : f.run? calls = some g) :
    g.capacity = f.capacity := by
  induction calls generalizing f with
  | nil =>
    cases h
    rfl
  | cons c calls ih =>
    obtain ⟨m, hm, hrest⟩ := Run.cons_eq_some_iff.1 h
    exact (ih hrest).trans (capacity_step hm)

theorem handles_run {f g : Feed} {calls : List Call} (h : f.run? calls = some g) :
    g.handles + (calls.map (·.givenUp)).sum = f.handles + (calls.map (·.made)).sum := by
  induction calls generalizing f with
  | nil =>
    cases h
    rfl
  | cons c calls ih =>
    obtain ⟨m, hm, hrest⟩ := Run.cons_eq_some_iff.1 h
    have hstep := handles_step hm
    have hcalls := ih hrest
    simp only [List.map_cons, List.sum_cons]
    omega

theorem Holds.run {f g : Feed} {all : List Event} (hf : f.Holds all) {calls : List Call}
    (h : f.run? calls = some g) : g.Holds (all ++ calls.filterMap (·.event?)) := by
  induction calls generalizing f all with
  | nil =>
    cases h
    rwa [List.filterMap_nil, List.append_nil]
  | cons c calls ih =>
    obtain ⟨m, hm, hrest⟩ := Run.cons_eq_some_iff.1 h
    have hcalls := ih (hf.step hm) hrest
    cases hevent : c.event? with
    | none => simpa [hevent] using hcalls
    | some e => simpa [hevent] using hcalls

/-- In the course of some calls a reader follows its position. -/
theorem Stands.run {f g : Feed} {s : Subscriber} {before : List Event} {p : Position}
    (h : f.Stands s before p) {name : String} (hs : f.reader? name = some s)
    {calls : List Call} (hrun : f.run? calls = some g) (hkept : ∀ c ∈ calls, ¬ c.Replaces name) :
    ∃ t, g.reader? name = some t ∧ t.address = s.address ∧
      g.Stands t before (p.follow f.capacity name s.address calls) := by
  induction calls generalizing f s p with
  | nil =>
    cases hrun
    exact ⟨s, hs, rfl, h⟩
  | cons c calls ih =>
    obtain ⟨m, hm, hrest⟩ := Run.cons_eq_some_iff.1 hrun
    obtain ⟨t, ht, haddress, hstands⟩ := h.step hm hs (hkept c List.mem_cons_self)
    obtain ⟨u, hu, hsame, hend⟩ := ih hstands ht hrest fun x hx =>
      hkept x (List.mem_cons_of_mem _ hx)
    rw [capacity_step hm, haddress] at hend
    exact ⟨u, hu, hsame.trans haddress, hend⟩

/-- What a reader gets in the course of some calls are the events of the numbers given. -/
theorem Stands.received_eq {f g : Feed} {s : Subscriber} {before : List Event} {p : Position}
    (h : f.Stands s before p) {name : String} (hs : f.reader? name = some s)
    {calls : List Call} (hrun : f.run? calls = some g) (hkept : ∀ c ∈ calls, ¬ c.Replaces name) :
    (received name f calls).map some
      = (p.given f.capacity name s.address calls).map
          ((p.follow f.capacity name s.address calls).events[·]?) := by
  induction calls generalizing f s p with
  | nil => rfl
  | cons c calls ih =>
    obtain ⟨m, hm, hrest⟩ := Run.cons_eq_some_iff.1 hrun
    obtain ⟨t, ht, haddress, hstands⟩ := h.step hm hs (hkept c List.mem_cons_self)
    have hcalls := ih hstands ht hrest fun x hx => hkept x (List.mem_cons_of_mem _ hx)
    rw [capacity_step hm, haddress] at hcalls
    rw [received, Position.given, List.map_append, List.map_append, hm, Option.elim_some, hcalls,
      h.gets?_eq hs c]
    congr 1
    cases hgives : p.gives? f.capacity name s.address c with
    | none => rfl
    | some k =>
      obtain ⟨e, he, -⟩ := (Position.gives?_eq_some hgives).2.1.matching
      rw [Option.bind_some, he, Option.toList_some, Option.toList_some, List.map_singleton,
        List.map_singleton, Position.getElem?_follow he (c :: calls)]

/-- A subscription of a new feed stands at its start when it is added. -/
theorem exists_opened {capacity : Nat} {name : String} {address : Option String}
    {before after : List Call} {f : Feed}
    (hrun : (ofCapacity capacity).run? (before ++ .subscribe name address :: after) = some f) :
    ∃ opened s, (ofCapacity capacity).run? (before ++ [.subscribe name address]) = some opened ∧
      opened.run? after = some f ∧ opened.capacity = nextPowerOfTwo capacity ∧
      opened.reader? name = some s ∧ s.address = address ∧
      opened.Stands s (before.filterMap (·.event?)) .start := by
  obtain ⟨m, hm, hrest⟩ := Run.append_eq_some_iff.1 hrun
  obtain ⟨opened, hopened, hafter⟩ := Run.cons_eq_some_iff.1 hrest
  have hholds := (holds_ofCapacity capacity).run hm
  have hcapacity : opened.capacity = nextPowerOfTwo capacity :=
    (capacity_step hopened).trans (capacity_run hm)
  have hstep := step_of_step? hopened
  cases hstep with
  | subscribe _ _ _ =>
    exact ⟨_, ⟨m.published, address⟩, Run.snoc hm hopened, hafter, hcapacity,
      reader?_subscribe_self .., rfl, stands_subscribe hholds name address⟩

/-- What a feed delivers to a subscription, whatever calls are made and by whom. The
events published since it was added are numbered from zero, and each receive gives the
least number on offer: not passed yet, among the last as many as the feed holds, and with
the address that is followed. When none is on offer the receive waits, and is told that
the feed is closed once every handle is given up. So events come in their order and none
twice, one that is missed was followed by as many others as the feed holds before a receive
passed it, and only what was published since, the own receives and the handles matter. -/
theorem deliveries {capacity : Nat} {name : String} {address : Option String}
    {before after : List Call} {f : Feed}
    (hrun : (ofCapacity capacity).run? (before ++ .subscribe name address :: after) = some f)
    (hkept : ∀ c ∈ after, ¬ c.Replaces name) :
    let calls := before ++ .subscribe name address :: after
    let size := nextPowerOfTwo capacity
    let p := Position.start.follow size name address after
    let given := Position.start.given size name address after
    IsLeast {n | n.isPowerOfTwo ∧ max capacity 1 ≤ n} size ∧
    p.events = after.filterMap (·.event?) ∧
    (∀ i, p.next? size address = some i ↔ IsLeast {i | p.Offers size address i} i) ∧
    f.handles + (calls.map (·.givenUp)).sum = 1 + (calls.map (·.made)).sum ∧
    (∃ s s' g log, f.reader? name = some s ∧ g.reader? name = some s' ∧
      f.receive? name = some (p.answer size address f.handles, g, log) ∧
      f.Takes s (p.answer size address f.handles) s' log) ∧
    (∃ opened, (ofCapacity capacity).run? (before ++ [.subscribe name address]) = some opened ∧
      (received name opened after).map some = given.map (p.events[·]?)) ∧
    given.Pairwise (· < ·) ∧
    (∀ i ∈ given, ∃ e, p.events[i]? = some e ∧ ∀ a, address = some a → e.address = a) ∧
    (∀ i e, p.events[i]? = some e → (∀ a, address = some a → e.address = a) → i ∉ given →
      p.cursor ≤ i ∨ ∃ front back, after = front ++ .receive name :: back ∧
        let q := Position.start.follow size name address front
        q.cursor ≤ i ∧ i + size < q.events.length) ∧
    ∀ before' after' f',
      (ofCapacity capacity).run? (before' ++ .subscribe name address :: after') = some f' →
      (∀ c ∈ after', ¬ c.Replaces name) →
      after'.filter (·.concerns name) = after.filter (·.concerns name) →
      (f'.handles = 0 ↔ f.handles = 0) →
      (f'.receive? name).map (·.1) = (f.receive? name).map (·.1) := by
  intro calls size p given
  obtain ⟨opened, s, hopened, hafter, hcapacity, hs, haddress, hstart⟩ := exists_opened hrun
  obtain ⟨t, ht, hsame, hstands⟩ := hstart.run hs hafter hkept
  rw [haddress, hcapacity] at hstands
  have hsize : f.capacity = size := capacity_run hrun
  have hanswer := hstands.read_fst
  rw [hsame, haddress, hsize] at hanswer
  have hreceive := receive?_of_reader? ht
  refine ⟨isLeast_nextPowerOfTwo capacity, ?events, fun i => Position.next?_eq_some_iff,
    handles_run hrun, ?answer, ?received, Position.pairwise_given ..,
    fun i hi => Position.matching_of_mem_given hi, ?missed, ?independent⟩
  case events => exact (Position.events_follow ..).trans (List.nil_append _)
  case answer =>
    have htakes := hstands.holds.takes_read (s := t) (by
      rw [List.length_append]
      exact hstands.le_length)
    exact ⟨t, _, _, _, ht, reader?_withReader ht _, by rw [hreceive, hanswer],
      by rwa [hanswer] at htakes⟩
  case received =>
    have hreceived := hstart.received_eq hs hafter hkept
    rw [haddress, hcapacity] at hreceived
    exact ⟨opened, hopened, hreceived⟩
  case missed =>
    intro i e he hmatch hgiven
    by_cases hpassed : p.cursor ≤ i
    · exact .inl hpassed
    · exact .inr (Position.exists_of_not_mem_given he hmatch (Nat.zero_le i) hgiven
        (Nat.not_le.1 hpassed))
  case independent =>
    intro before' after' f' hrun' hkept' hfilter hhandles
    obtain ⟨opened', s', -, hafter', hcapacity', hs', haddress', hstart'⟩ := exists_opened hrun'
    obtain ⟨t', ht', hsame', hstands'⟩ := hstart'.run hs' hafter' hkept'
    rw [haddress', hcapacity', ← Position.follow_filter, hfilter, Position.follow_filter]
      at hstands'
    have hsize' : f'.capacity = size := capacity_run hrun'
    have hanswer' := hstands'.read_fst
    rw [hsame', haddress', hsize'] at hanswer'
    rw [receive?_of_reader? ht', hreceive, Option.map_some, Option.map_some, hanswer', hanswer]
    simp only [Position.answer, hhandles]

/-- A feed of two events: a reader that follows one address falls behind, misses an event
that two others came after, gets the next one, and is told that the feed is closed. -/
theorem deliveries_of_lagging :
    let other := Event.new "1" "SAFE_CREATED" "0xA"
    let first := Event.new "1" "SAFE_CREATED" "0xB"
    let second := Event.new "2" "SAFE_CREATED" "0xB"
    let before : List Call := [.publish first, .subscribe "all" none, .clone, .close]
    let after : List Call :=
      [.publish first, .publish other, .publish second, .receive "all", .receive "safe", .close]
    ∃ opened f, (ofCapacity 2).run? (before ++ .subscribe "safe" (some "0xB") :: after) = some f ∧
      received "safe" opened after = [second] ∧
      ∃ g log, f.receive? "safe" = some (.closed, g, log) := by
  intro other first second before after
  obtain ⟨f, hrun⟩ :
      ∃ f, (ofCapacity 2).run? (before ++ .subscribe "safe" (some "0xB") :: after) = some f :=
    Option.isSome_iff_exists.1 (by decide +kernel)
  have hkept : ∀ c ∈ after, ¬ c.Replaces "safe" := by
    simp [after, Call.Replaces]
  obtain ⟨-, -, -, hhandles, ⟨-, -, g, log, -, -, hanswer, -⟩, ⟨opened, -, hreceived⟩, -⟩ :=
    deliveries hrun hkept
  refine ⟨opened, f, hrun, ?received, g, log, ?answer⟩
  case received => exact List.map_injective_iff.2 (Option.some_injective _) hreceived
  case answer =>
    have hgone : f.handles = 0 := by
      have hmade : f.handles + 2 = 1 + 1 := hhandles
      omega
    rw [hanswer, hgone]
    rfl

end Feed
end WebhookRelay

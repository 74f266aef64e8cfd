-- SUMMARY: What the state of a consumer tells of the events behind it.
import WebhookRelay.Proofs.Broker.Task

/-!
# The account of a consumer

`Consumer.Accounts events c` says how the events of a run are to be read off the
consumer they lead to: which messages were taken, what happened to the task of each,
whether the loop was left and why, what was closed, what the handler was called with
and what the broker saw. Every step preserves it (`Accounts.step`), so that it holds
after every run (`accounts_run`).
-/

namespace WebhookRelay
namespace Consumer

/-- The events that led to a consumer, read off its state. -/
structure Accounts (events : List ConsumerEvent) (c : Consumer) : Prop where
  numbered : c.Numbered
  payloads : events.filterMap (·.payload?) = c.taken.map (·.payload)
  /-- What happened to a task is what its phase stands for. -/
  tasks : ∀ m ∈ c.taken, events.filter (·.task? = some m.tag) = m.phase.history m.tag
  /-- Nothing happens to a task that was not started. -/
  others : ∀ tag, tag ∉ c.taken.map (·.tag) → events.filter (·.task? = some tag) = []
  exits : events.filterMap (·.exit?) = c.exit.toList
  closings : events.filterMap (·.closing?) = c.closing.history
  closed : c.closing ≠ .none → c.exit.isSome ∧ c.isIdle
  handled : c.handled.Perm ((c.taken.filter (·.phase ≠ .waiting)).map (·.payload))
  sent : c.sent.Sublist (events.filterMap (·.request?))

theorem accounts_start : Accounts [] start where
  numbered := rfl
  payloads := rfl
  tasks := nofun
  others := fun _ _ => rfl
  exits := rfl
  closings := rfl
  closed := nofun
  handled := .refl _
  sent := .refl _

/-! ## Steps -/

theorem filterMap_snoc {α β : Type} (f : α → Option β) (xs : List α) (x : α) :
    (xs ++ [x]).filterMap f = xs.filterMap f ++ (f x).toList := by
  cases h : f x <;> simp [h]

theorem ConsumerEvent.eq_none_of_task? {e : ConsumerEvent} {tag : Nat} (h : e.task? = some tag) :
    e.payload? = none ∧ e.exit? = none ∧ e.closing? = none := by
  cases e <;> first | exact ⟨rfl, rfl, rfl⟩ | cases h

theorem TaskPhase.ne_waiting_of_next? {p q : TaskPhase} {e : ConsumerEvent}
    (h : p.next? e = some q) : q ≠ .waiting := by
  unfold TaskPhase.next? at h
  split at h <;> cases h <;> nofun

/-- The broker is asked for something with the step of a task exactly when it acknowledges. -/
theorem TaskPhase.request?_of_next? {p q : TaskPhase} {e : ConsumerEvent} {tag : Nat}
    (h : p.next? e = some q) (htask : e.task? = some tag) :
    e.request? = if q = .ended (some true) then some (.acknowledge tag) else none := by
  unfold TaskPhase.next? at h
  split at h <;> cases h <;> cases htask <;> try rfl
  rename_i succeeded
  cases succeeded <;> rfl

/-- A task that was joined has nothing before it. -/
theorem not_next?_of_isIdle {c : Consumer} (h : c.isIdle) {m : TakenMessage} (hm : m ∈ c.taken)
    {e : ConsumerEvent} {phase : TaskPhase} : m.phase.next? e ≠ some phase := by
  have hjoined := List.all_eq_true.1 h m hm
  cases hphase : m.phase <;> simp_all [TaskPhase.next?]

variable {events : List ConsumerEvent} {c : Consumer}

theorem Accounts.nodup_tags (h : Accounts events c) : (c.taken.map (·.tag)).Nodup :=
  h.numbered ▸ List.nodup_range'

theorem Accounts.delivered (h : Accounts events c) (payload : ByteArray)
    (hrunning : c.exit = none) :
    Accounts (events ++ [.delivered payload])
      { c with taken := c.taken ++ [⟨c.taken.length + 1, payload, .waiting⟩] } := by
  have hnumbered : c.taken.map (·.tag) = List.range' 1 c.taken.length := h.numbered
  have hnew : c.taken.length + 1 ∉ c.taken.map (·.tag) := by
    rw [hnumbered, List.mem_range'_1]
    omega
  refine ⟨?numbered, ?payloads, ?tasks, ?others, ?exits, ?closings, ?closed, ?handled, ?sent⟩
  case numbered =>
    rw [Numbered, List.map_append, hnumbered, List.length_append, List.length_singleton,
      List.range'_concat]
    simp [Nat.add_comm]
  case payloads =>
    rw [List.filterMap_append, h.payloads, List.map_append]
    rfl
  case tasks =>
    intro m hm
    rw [List.filter_append]
    rcases List.mem_append.1 hm with hm | hm
    · rw [h.tasks m hm]
      exact List.append_nil _
    · cases List.mem_singleton.1 hm
      rw [h.others _ hnew]
      rfl
  case others =>
    intro tag htag
    rw [List.map_append, List.mem_append, not_or] at htag
    rw [List.filter_append, h.others tag htag.1]
    rfl
  case exits =>
    rw [List.filterMap_append, h.exits]
    exact List.append_nil _
  case closings =>
    rw [List.filterMap_append, h.closings]
    exact List.append_nil _
  case closed =>
    intro hclosing
    have hleft := (h.closed hclosing).1
    simp [hrunning] at hleft
  case handled => simpa using h.handled
  case sent =>
    rw [List.filterMap_append]
    exact h.sent.trans (List.sublist_append_left ..)

theorem Accounts.moved (h : Accounts events c) {e : ConsumerEvent} {front back : List TakenMessage}
    {m : TakenMessage} {phase : TaskPhase} (htaken : c.taken = front ++ m :: back)
    (htask : e.task? = some m.tag) (hnext : m.phase.next? e = some phase) :
    Accounts (events ++ [e]) (c.moved front m phase back) := by
  obtain ⟨hpayload, hexit, hclosing⟩ := ConsumerEvent.eq_none_of_task? htask
  have hmem : m ∈ c.taken := by simp [htaken]
  have hnodup := h.nodup_tags
  rw [htaken, List.map_append, List.map_cons] at hnodup
  have hother : ∀ x ∈ front ++ back, x.tag ≠ m.tag := by
    intro x hx heq
    have hm := (List.nodup_cons.1 (List.perm_middle.nodup hnodup)).1
    rw [← List.map_append] at hm
    exact hm (heq ▸ List.mem_map_of_mem hx)
  refine ⟨?numbered, ?payloads, ?tasks, ?others, ?exits, ?closings, ?closed, ?handled, ?sent⟩
  case numbered =>
    have hnumbered := h.numbered
    rw [Numbered, htaken] at hnumbered
    simpa [Numbered, Consumer.moved] using hnumbered
  case payloads =>
    rw [List.filterMap_append, h.payloads, htaken]
    simp [Consumer.moved, hpayload]
  case tasks =>
    intro x hx
    rw [List.filter_append]
    rcases List.mem_cons.1 (List.perm_middle.mem_iff.1 hx) with rfl | hx
    · rw [h.tasks m hmem, TaskPhase.history_next? hnext htask]
      simp [htask]
    · have hne : e.task? ≠ some x.tag := by
        rw [htask]
        exact fun heq => hother x hx (Option.some.inj heq).symm
      rw [h.tasks x (by rw [htaken]; exact List.perm_middle.mem_iff.2 (List.mem_cons_of_mem _ hx))]
      simp [hne]
  case others =>
    intro tag htag
    have htags : (c.moved front m phase back).taken.map (·.tag) = c.taken.map (·.tag) := by
      simp [Consumer.moved, htaken]
    rw [htags] at htag
    have hne : m.tag ≠ tag := fun heq => htag (heq ▸ List.mem_map_of_mem hmem)
    rw [List.filter_append, h.others tag htag]
    simp [htask, hne]
  case exits =>
    rw [List.filterMap_append, h.exits]
    simp [Consumer.moved, hexit]
  case closings =>
    rw [List.filterMap_append, h.closings]
    simp [Consumer.moved, hclosing]
  case closed =>
    intro hclosed
    exact absurd hnext (not_next?_of_isIdle (h.closed hclosed).2 hmem)
  case handled =>
    have hhandled := h.handled
    rw [htaken, List.filter_append, List.filter_cons] at hhandled
    have hphase : phase ≠ .waiting := TaskPhase.ne_waiting_of_next? hnext
    by_cases hwaiting : m.phase = .waiting
    · have hcalled := (List.perm_append_singleton m.payload c.handled).trans (hhandled.cons _)
      simp only [Consumer.moved, hwaiting, if_true]
      refine hcalled.trans ?_
      simpa [hwaiting, hphase] using List.perm_middle.symm
    · simpa [Consumer.moved, hwaiting, hphase] using hhandled
  case sent =>
    rw [filterMap_snoc, TaskPhase.request?_of_next? hnext htask]
    refine h.sent.append ?_
    by_cases hended : phase = .ended (some true) <;> by_cases hup : c.link = .up <;> simp [hended, hup]

/-- An event that is about no message leaves the account of the messages as it is. -/
theorem Accounts.apart (h : Accounts events c) {e : ConsumerEvent} {d : Consumer}
    (htask : e.task? = none) (hpayload : e.payload? = none) (htaken : d.taken = c.taken)
    (hhandled : d.handled = c.handled) (hexit : d.exit.toList = c.exit.toList ++ e.exit?.toList)
    (hclosing : d.closing.history = c.closing.history ++ e.closing?.toList)
    (hclosed : d.closing ≠ .none → d.exit.isSome ∧ d.isIdle)
    (hsent : ∃ new, d.sent = c.sent ++ new ∧ new.Sublist e.request?.toList) :
    Accounts (events ++ [e]) d := by
  obtain ⟨new, hnew, hsub⟩ := hsent
  refine ⟨?_, ?_, ?_, ?_, ?_, ?_, hclosed, ?_, ?_⟩
  · rw [Numbered, htaken]
    exact h.numbered
  · simp [h.payloads, hpayload, htaken]
  · intro m hm
    rw [htaken] at hm
    simp [h.tasks m hm, htask]
  · intro tag htag
    rw [htaken] at htag
    rw [List.filter_append, h.others tag htag]
    simp [htask]
  · rw [filterMap_snoc, h.exits, hexit]
  · rw [filterMap_snoc, h.closings, hclosing]
  · rw [hhandled, htaken]
    exact h.handled
  · rw [filterMap_snoc, hnew]
    exact h.sent.append hsub

theorem sent_send (c : Consumer) (r : BrokerRequest) :
    ∃ new, (c.send r).sent = c.sent ++ new ∧ new.Sublist [r] := by
  unfold send
  split
  · exact ⟨[r], rfl, .refl _⟩
  · exact ⟨[], (List.append_nil _).symm, List.nil_sublist _⟩

theorem Accounts.step (h : Accounts events c) {e : ConsumerEvent} {d : Consumer}
    (hstep : c.Step e d) : Accounts (events ++ [e]) d := by
  cases hstep with
  | delivered payload hrunning => exact h.delivered payload hrunning
  | moved htaken htask hnext => exact h.moved htaken htask hnext
  | left exit hrunning =>
    refine h.apart rfl rfl rfl rfl (by rw [hrunning]; rfl) (List.append_nil _).symm ?_ ?_
    · intro hclosing
      exact ⟨rfl, (h.closed hclosing).2⟩
    · exact ⟨[], (List.append_nil _).symm, .refl _⟩
  | linkChanged link =>
    exact h.apart rfl rfl rfl rfl (List.append_nil _).symm (List.append_nil _).symm h.closed
      ⟨[], (List.append_nil _).symm, .refl _⟩
  | channelClosed succeeded hleft hidle hunclosed =>
    refine h.apart rfl rfl rfl rfl (List.append_nil _).symm ?_ ?_ (sent_send _ _)
    · rw [hunclosed]
      rfl
    · intro _
      exact ⟨hleft, hidle⟩
  | connectionClosed succeeded hhalf =>
    refine h.apart rfl rfl rfl rfl (List.append_nil _).symm ?_ ?_ (sent_send _ _)
    · rw [hhalf]
      rfl
    · intro _
      exact h.closed (by rw [hhalf]; nofun)

/-! ## Runs -/

/-- After every run the consumer tells what has happened. -/
theorem accounts_run (hrun : start.run? events = some c) : Accounts events c :=
  Run.induction_on accounts_start
    (fun _ _ _ _ _ h hstep => h.step (step_of_step? h.numbered hstep)) hrun

end Consumer
end WebhookRelay

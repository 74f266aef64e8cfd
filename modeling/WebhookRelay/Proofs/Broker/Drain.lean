-- SUMMARY: A consumer that has left its loop is never stuck, and every event of its own brings its end nearer.
import WebhookRelay.Proofs.Broker.Account

/-!
# Draining

Once the loop over the stream is left, what is still to come is bounded: each task has
only so many events left, and two closings follow. `Consumer.remaining` counts them. It
falls with every event but a change of the link (`remaining_lt`), and as long as it is
not zero some other event can happen, without a handler breaking off (`exists_step?`).
So a consumer can always be carried on to its end.
-/

namespace WebhookRelay

/-- The most events that the task of a message can still have. -/
def TaskPhase.remaining : TaskPhase → Nat
  | .waiting => 4
  | .handling => 3
  | .acknowledging => 2
  | .ended _ => 1
  | .joined _ => 0

/-- The closings that are still to come. -/
def Closing.remaining : Closing → Nat
  | .none => 2
  | .channel => 1
  | .connection => 0

/-- Whether an event is more than a change of the link. -/
def ConsumerEvent.isOwn : ConsumerEvent → Bool
  | .linkChanged _ => false
  | _ => true

theorem ConsumerEvent.isOwn_of_task? {e : ConsumerEvent} {tag : Nat} (h : e.task? = some tag) :
    e.isOwn := by
  cases e <;> first | rfl | cases h

theorem TaskPhase.remaining_lt {p q : TaskPhase} {e : ConsumerEvent} (h : p.next? e = some q) :
    q.remaining < p.remaining := by
  unfold next? at h
  split at h <;> cases h <;> simp [remaining]

/-- A task that is not joined can go on, and its handler can return. -/
theorem TaskPhase.exists_next? (tag : Nat) {p : TaskPhase} (h : p.remaining ≠ 0) :
    ∃ e q, e.task? = some tag ∧ (∀ other, e ≠ .handlerBroke other) ∧ p.next? e = some q := by
  cases p with
  | waiting => exact ⟨.handlerCalled tag, _, rfl, nofun, rfl⟩
  | handling => exact ⟨.handlerReturned tag, _, rfl, nofun, rfl⟩
  | acknowledging => exact ⟨.acknowledged tag true, _, rfl, nofun, rfl⟩
  | ended acknowledged => exact ⟨.taskJoined tag, _, rfl, nofun, rfl⟩
  | joined => exact absurd rfl h

/-- The most events that the tasks of some messages can still have. -/
def TakenMessage.remaining : List TakenMessage → Nat
  | [] => 0
  | m :: rest => m.phase.remaining + remaining rest

theorem TakenMessage.remaining_append (front back : List TakenMessage) :
    remaining (front ++ back) = remaining front + remaining back := by
  induction front with
  | nil => simp [remaining]
  | cons m front ih => simp [remaining, ih, Nat.add_assoc]

theorem TakenMessage.remaining_eq_zero_iff {ms : List TakenMessage} :
    remaining ms = 0 ↔ ∀ m ∈ ms, m.phase.remaining = 0 := by
  induction ms with
  | nil => simp [remaining]
  | cons m ms ih => simp [remaining, ih]

namespace Consumer

/-- The most events that are still to come once the loop is left, changes of the link apart. -/
def remaining (c : Consumer) : Nat :=
  TakenMessage.remaining c.taken + c.closing.remaining

variable {c d : Consumer} {e : ConsumerEvent}

theorem isIdle_iff : c.isIdle ↔ TakenMessage.remaining c.taken = 0 := by
  rw [isIdle, List.all_eq_true, TakenMessage.remaining_eq_zero_iff]
  refine forall₂_congr fun m _ => ?_
  cases m.phase <;> simp [TaskPhase.remaining]

/-! ## Steps -/

/-- After the loop is left, every event but a change of the link brings the end nearer. -/
theorem remaining_lt (hstep : c.Step e d) (hleft : c.exit.isSome) (hown : e.isOwn) :
    d.remaining < c.remaining := by
  cases hstep with
  | delivered _ hrunning => simp [hrunning] at hleft
  | left _ hrunning => simp [hrunning] at hleft
  | linkChanged link => cases hown
  | moved htaken _ hnext =>
    have hlt := TaskPhase.remaining_lt hnext
    simp only [remaining, moved, htaken, TakenMessage.remaining_append, TakenMessage.remaining]
    omega
  | channelClosed _ _ _ hunclosed => simp [remaining, send, hunclosed, Closing.remaining]
  | connectionClosed _ hhalf => simp [remaining, send, hhalf, Closing.remaining]

/-- The loop stays left, for the same reason. -/
theorem exit_eq (hstep : c.Step e d) (hleft : c.exit.isSome) : d.exit = c.exit := by
  cases hstep with
  | delivered _ hrunning => simp [hrunning] at hleft
  | left _ hrunning => simp [hrunning] at hleft
  | moved | linkChanged | channelClosed | connectionClosed => rfl

theorem find?_tag_of_mem (hnumbered : c.Numbered) {m : TakenMessage} (hm : m ∈ c.taken) :
    c.find? m.tag = some m := by
  have hnodup : (c.taken.map (·.tag)).Nodup := hnumbered ▸ List.nodup_range'
  obtain ⟨front, back, htaken⟩ := List.append_of_mem hm
  rw [find?, List.find?_eq_some_iff_append]
  refine ⟨by simp, front, back, htaken, ?_⟩
  intro x hx
  rw [htaken, List.map_append, List.map_cons, List.nodup_append] at hnodup
  have hne := hnodup.2.2 x.tag (List.mem_map_of_mem hx) m.tag List.mem_cons_self
  simpa using hne

/-- What can happen to a task can happen to the consumer. -/
theorem exists_step?_of_next? (hnumbered : c.Numbered) {m : TakenMessage} (hm : m ∈ c.taken)
    (htask : e.task? = some m.tag) {phase : TaskPhase} (hnext : m.phase.next? e = some phase) :
    ∃ d, c.step? e = some d := by
  obtain ⟨d, hd⟩ : ∃ d, c.advance? m.tag e = some d := by
    simp [advance?, find?_tag_of_mem hnumbered hm, hnext]
  cases e <;> cases htask <;> simp [step?, hd]

/-- A consumer that has left its loop and not closed up can go on, and no handler has to
break off for it. -/
theorem exists_step? (hnumbered : c.Numbered) (hleft : c.exit.isSome) (h : c.remaining ≠ 0) :
    ∃ e d, c.step? e = some d ∧ e.isOwn ∧ ∀ tag, e ≠ .handlerBroke tag := by
  by_cases hidle : c.isIdle
  · cases hclosing : c.closing with
    | none => exact ⟨.channelClosed true, _, if_pos (by simp [hleft, hidle, hclosing]), rfl, nofun⟩
    | channel => exact ⟨.connectionClosed true, _, if_pos (by simp [hclosing]), rfl, nofun⟩
    | connection =>
      simp [remaining, isIdle_iff.1 hidle, hclosing, Closing.remaining] at h
  · simp only [isIdle_iff, TakenMessage.remaining_eq_zero_iff, not_forall] at hidle
    obtain ⟨m, hm, hphase⟩ := hidle
    obtain ⟨e, phase, htask, hreturns, hnext⟩ := TaskPhase.exists_next? m.tag hphase
    obtain ⟨d, hd⟩ := exists_step?_of_next? hnumbered hm htask hnext
    exact ⟨e, d, hd, ConsumerEvent.isOwn_of_task? htask, hreturns⟩

/-! ## Runs -/

theorem result?_of_remaining_eq_zero (hleft : c.exit.isSome) (h : c.remaining = 0) :
    ∃ result, c.result? = some result := by
  obtain ⟨exit, hexit⟩ := Option.isSome_iff_exists.1 hleft
  cases hclosing : c.closing with
  | none => simp [remaining, hclosing, Closing.remaining] at h
  | channel => simp [remaining, hclosing, Closing.remaining] at h
  | connection => cases exit <;> exact ⟨_, by rw [result?, hclosing, hexit]⟩

/-- A consumer that has left its loop can be carried on to a result, with every handler
returning. -/
theorem exists_result? {before : List ConsumerEvent} (hrun : start.run? before = some c)
    (hleft : c.exit.isSome) :
    ∃ after d result, c.run? after = some d ∧ (∀ tag, .handlerBroke tag ∉ after) ∧
      d.result? = some result := by
  induction hn : c.remaining using Nat.strongRecOn generalizing before c with
  | ind n ih =>
    by_cases hzero : c.remaining = 0
    · obtain ⟨result, hresult⟩ := result?_of_remaining_eq_zero hleft hzero
      exact ⟨[], c, result, rfl, nofun, hresult⟩
    · have hnumbered := (accounts_run hrun).numbered
      obtain ⟨e, m, hm, hown, hreturns⟩ := exists_step? hnumbered hleft hzero
      have hstep := step_of_step? hnumbered hm
      obtain ⟨after, d, result, hgo, hafter, hresult⟩ :=
        ih m.remaining (hn ▸ remaining_lt hstep hleft hown) (Run.snoc hrun hm)
          (exit_eq hstep hleft ▸ hleft) rfl
      refine ⟨e :: after, d, result, Run.cons_eq_some_iff.2 ⟨m, hm, hgo⟩, ?_, hresult⟩
      intro tag hmem
      rcases List.mem_cons.1 hmem with heq | hmem
      · exact hreturns tag heq.symm
      · exact hafter tag hmem

end Consumer
end WebhookRelay

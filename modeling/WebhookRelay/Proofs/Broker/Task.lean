-- SUMMARY: The tasks of a consumer: what each event does to them, and the events that a task has behind it.
import WebhookRelay.Broker.Consumer
import WebhookRelay.Proofs.Run
import Mathlib.Data.List.Basic

/-!
# Tasks

The messages of a consumer are numbered in the order they were taken, so that a tag
names one task. `Consumer.Step` says what an event does when it happens, one
constructor for each kind of event; `Consumer.step_of_step?` is the one place where
the step function is opened.

A phase stands for the events that lead to it, each once and in turn
(`TaskPhase.history`). An event that moves a task on is the next of them
(`TaskPhase.history_next?`).
-/

namespace WebhookRelay

/-! ## What events are about -/

namespace ConsumerEvent

/-- The tag of the task that an event is a step of. -/
def task? : ConsumerEvent → Option Nat
  | .handlerCalled tag => some tag
  | .handlerReturned tag => some tag
  | .handlerBroke tag => some tag
  | .acknowledged tag _ => some tag
  | .taskJoined tag => some tag
  | _ => none

/-- The payload of the message that is taken. -/
def payload? : ConsumerEvent → Option ByteArray
  | .delivered payload => some payload
  | _ => none

/-- Why the loop over the stream is left. -/
def exit? : ConsumerEvent → Option ConsumerExit
  | .left exit => some exit
  | _ => none

/-- What is closed. -/
def closing? : ConsumerEvent → Option Closing
  | .channelClosed _ => some .channel
  | .connectionClosed _ => some .connection
  | _ => none

theorem eq_channelClosed {e : ConsumerEvent} (h : e.closing? = some .channel) :
    ∃ succeeded, e = .channelClosed succeeded := by
  cases e <;> cases h
  exact ⟨_, rfl⟩

theorem eq_connectionClosed {e : ConsumerEvent} (h : e.closing? = some .connection) :
    ∃ succeeded, e = .connectionClosed succeeded := by
  cases e <;> cases h
  exact ⟨_, rfl⟩

/-- What the broker gets to see over a link that is up. -/
def request? : ConsumerEvent → Option BrokerRequest
  | .acknowledged tag true => some (.acknowledge tag)
  | .channelClosed _ => some Broker.closeChannel
  | .connectionClosed _ => some Broker.closeConnection
  | _ => none

end ConsumerEvent

namespace TaskPhase

/-- The events of a task whose handler has ended. -/
def ending (tag : Nat) : Option Bool → List ConsumerEvent
  | some succeeded => [.handlerCalled tag, .handlerReturned tag, .acknowledged tag succeeded]
  | none => [.handlerCalled tag, .handlerBroke tag]

/-- The events that lead the task of a message to a phase. -/
def history (tag : Nat) : TaskPhase → List ConsumerEvent
  | .waiting => []
  | .handling => [.handlerCalled tag]
  | .acknowledging => [.handlerCalled tag, .handlerReturned tag]
  | .ended acknowledged => ending tag acknowledged
  | .joined acknowledged => ending tag acknowledged ++ [.taskJoined tag]

theorem history_next? {tag : Nat} {p q : TaskPhase} {e : ConsumerEvent} (h : p.next? e = some q)
    (htask : e.task? = some tag) : q.history tag = p.history tag ++ [e] := by
  unfold next? at h
  split at h <;> cases h <;> cases htask <;> rfl

end TaskPhase

/-- The closings behind a consumer. -/
def Closing.history : Closing → List Closing
  | .none => []
  | .channel => [.channel]
  | .connection => [.channel, .connection]

namespace Consumer

/-! ## Steps -/

/-- The messages are numbered from one, in the order they were taken. -/
def Numbered (c : Consumer) : Prop :=
  c.taken.map (·.tag) = List.range' 1 c.taken.length

/-- The task of a message goes on to a phase: the handler is called when it was not
before, and the broker sees the acknowledgement when there is one and the link is up. -/
def moved (c : Consumer) (front : List TakenMessage) (m : TakenMessage) (phase : TaskPhase)
    (back : List TakenMessage) : Consumer :=
  { c with
    taken := front ++ { m with phase } :: back
    handled := c.handled ++ if m.phase = .waiting then [m.payload] else []
    sent := c.sent ++ if phase = .ended (some true) ∧ c.link = .up then [.acknowledge m.tag] else [] }

/-- What an event does to a consumer when it happens. -/
inductive Step (c : Consumer) : ConsumerEvent → Consumer → Prop where
  | delivered (payload : ByteArray) (running : c.exit = none) :
      Step c (.delivered payload)
        { c with taken := c.taken ++ [⟨c.taken.length + 1, payload, .waiting⟩] }
  | moved {e : ConsumerEvent} {front back : List TakenMessage} {m : TakenMessage}
      {phase : TaskPhase} (taken : c.taken = front ++ m :: back) (task : e.task? = some m.tag)
      (next : m.phase.next? e = some phase) : Step c e (c.moved front m phase back)
  | left (exit : ConsumerExit) (running : c.exit = none) : Step c (.left exit) { c with exit }
  | linkChanged (link : BrokerLink) : Step c (.linkChanged link) { c with link }
  | channelClosed (succeeded : Bool) (left : c.exit.isSome) (idle : c.isIdle)
      (unclosed : c.closing = .none) :
      Step c (.channelClosed succeeded) ({ c with closing := .channel }.send Broker.closeChannel)
  | connectionClosed (succeeded : Bool) (half : c.closing = .channel) :
      Step c (.connectionClosed succeeded)
        ({ c with closing := .connection }.send Broker.closeConnection)

/-- A tag names one message, and moving its task on changes no other. -/
theorem exists_of_advance? {c c' : Consumer} (hnumbered : c.Numbered) {tag : Nat}
    {e : ConsumerEvent} (h : c.advance? tag e = some c') :
    ∃ front m back phase, c.taken = front ++ m :: back ∧ m.tag = tag ∧
      m.phase.next? e = some phase ∧ c' = { c with taken := front ++ { m with phase } :: back } ∧
      c'.find? tag = some { m with phase } := by
  simp only [advance?, Option.bind_eq_bind, Option.bind_eq_some_iff, Option.pure_def,
    Option.some.injEq] at h
  obtain ⟨m, hfound, phase, hnext, rfl⟩ := h
  obtain ⟨htag, front, back, htaken, hfront⟩ := List.find?_eq_some_iff_append.1 hfound
  simp only [decide_eq_true_eq] at htag
  subst htag
  simp only [Bool.not_eq_true', decide_eq_false_iff_not] at hfront
  have hnodup : (c.taken.map (·.tag)).Nodup := hnumbered ▸ List.nodup_range'
  have hback : ∀ x ∈ back, x.tag ≠ m.tag := by
    intro x hx heq
    rw [htaken, List.map_append, List.map_cons] at hnodup
    have hm := (List.nodup_cons.1 (List.nodup_append.1 hnodup).2.1).1
    exact hm (heq ▸ List.mem_map_of_mem hx)
  -- The map over all messages leaves those in front of `m` and behind it alone.
  have hmap : c.taken.map (fun x => if x.tag = m.tag then { x with phase } else x)
      = front ++ { m with phase } :: back := by
    rw [htaken, List.map_append, List.map_cons, if_pos rfl,
      List.map_congr_left fun x hx => if_neg (hfront x hx),
      List.map_congr_left fun x hx => if_neg (hback x hx)]
    simp
  refine ⟨front, m, back, phase, htaken, rfl, hnext, by rw [hmap], ?_⟩
  rw [find?, hmap]
  refine List.find?_eq_some_iff_append.2 ⟨by simp, front, back, rfl, ?_⟩
  intro x hx
  simp [hfront x hx]

/-- What an event does that neither calls the handler nor acknowledges with success. -/
theorem moved_of_plain (c : Consumer) {front back : List TakenMessage} {m : TakenMessage}
    {e : ConsumerEvent} {phase : TaskPhase} (hnext : m.phase.next? e = some phase)
    (hcall : ∀ tag, e ≠ .handlerCalled tag) (hack : ∀ tag, e ≠ .acknowledged tag true) :
    c.moved front m phase back = { c with taken := front ++ { m with phase } :: back } := by
  unfold TaskPhase.next? at hnext
  split at hnext <;> cases hnext <;> simp_all [moved]

theorem carries_acknowledge (link : BrokerLink) (tag : Nat) :
    link.carries (.acknowledge tag) = true ↔ link = .up := by
  cases link <;> simp [BrokerLink.carries]

/-- An event of a task does what `Step` says. -/
theorem Step.of_advance? {c d : Consumer} (hnumbered : c.Numbered) {e : ConsumerEvent} {tag : Nat}
    (htask : e.task? = some tag) (hcall : ∀ tag, e ≠ .handlerCalled tag)
    (hack : ∀ tag, e ≠ .acknowledged tag true) (h : c.advance? tag e = some d) : c.Step e d := by
  obtain ⟨front, m, back, phase, htaken, rfl, hnext, rfl, -⟩ := exists_of_advance? hnumbered h
  rw [← moved_of_plain c hnext hcall hack]
  exact .moved htaken htask hnext

theorem Step.of_handlerCalled {c d : Consumer} (hnumbered : c.Numbered) {tag : Nat}
    (h : c.advance? tag (.handlerCalled tag) = some d) :
    c.Step (.handlerCalled tag) (d.call tag) := by
  obtain ⟨front, m, back, phase, htaken, rfl, hnext, hd, hfound⟩ := exists_of_advance? hnumbered h
  have hphase : m.phase = .waiting ∧ phase = .handling := by
    unfold TaskPhase.next? at hnext
    split at hnext <;> simp_all
  have hcall : d.call m.tag = c.moved front m phase back := by
    rw [call, hfound, hd]
    simp [Consumer.moved, hphase]
  rw [hcall]
  exact .moved htaken rfl hnext

theorem Step.of_acknowledged {c d : Consumer} (hnumbered : c.Numbered) {tag : Nat}
    (h : c.advance? tag (.acknowledged tag true) = some d) :
    c.Step (.acknowledged tag true) (d.send (.acknowledge tag)) := by
  obtain ⟨front, m, back, phase, htaken, rfl, hnext, rfl, -⟩ := exists_of_advance? hnumbered h
  have hphase : m.phase = .acknowledging ∧ phase = .ended (some true) := by
    unfold TaskPhase.next? at hnext
    split at hnext <;> simp_all
  have hsend : send { c with taken := front ++ { m with phase } :: back } (.acknowledge m.tag)
      = c.moved front m phase back := by
    by_cases hup : c.link = .up <;> simp [send, carries_acknowledge, Consumer.moved, hphase, hup]
  rw [hsend]
  exact .moved htaken rfl hnext

/-- Every event that happens does what `Step` says. -/
theorem step_of_step? {c c' : Consumer} (hnumbered : c.Numbered) {e : ConsumerEvent}
    (h : c.step? e = some c') : c.Step e c' := by
  cases e with
  | delivered payload =>
    obtain ⟨hexit, h⟩ := Option.ite_none_right_eq_some.1 h
    cases h
    exact .delivered payload (Option.isNone_iff_eq_none.1 hexit)
  | handlerCalled tag =>
    obtain ⟨d, hd, rfl⟩ := Option.map_eq_some_iff.1 h
    exact .of_handlerCalled hnumbered hd
  | handlerReturned tag => exact .of_advance? hnumbered rfl nofun nofun h
  | handlerBroke tag => exact .of_advance? hnumbered rfl nofun nofun h
  | acknowledged tag succeeded =>
    obtain ⟨d, hd, rfl⟩ := Option.map_eq_some_iff.1 h
    cases succeeded with
    | true => exact .of_acknowledged hnumbered hd
    | false => exact .of_advance? hnumbered rfl nofun nofun hd
  | taskJoined tag => exact .of_advance? hnumbered rfl nofun nofun h
  | left exit =>
    obtain ⟨hexit, h⟩ := Option.ite_none_right_eq_some.1 h
    cases h
    exact .left exit (Option.isNone_iff_eq_none.1 hexit)
  | linkChanged link =>
    cases h
    exact .linkChanged link
  | channelClosed succeeded =>
    obtain ⟨hready, h⟩ := Option.ite_none_right_eq_some.1 h
    cases h
    simp only [Bool.and_eq_true, beq_iff_eq] at hready
    exact .channelClosed succeeded hready.1.1 hready.1.2 hready.2
  | connectionClosed succeeded =>
    obtain ⟨hhalf, h⟩ := Option.ite_none_right_eq_some.1 h
    cases h
    exact .connectionClosed succeeded (beq_iff_eq.1 hhalf)

end Consumer
end WebhookRelay

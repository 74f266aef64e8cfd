-- SUMMARY: No message is lost, handled twice or acknowledged early, whatever happens to a consumer.
import WebhookRelay.Proofs.Broker.Drain

/-!
# Messages

What the account of a consumer says about whole runs. Each message that was taken
goes through its task once and in order; none is taken after the loop was left; and
when the consumer has ended, every message was handled and its acknowledgement tried
before the channel and then the connection were closed.

Whether acknowledgements and closings succeed, and over which link, makes no
difference to any of this: runs that differ in nothing else lead to consumers that
differ in nothing else (`run?_unreported`).
-/

namespace WebhookRelay

/-! ## Whether requests succeed -/

/-- The phase without what came of the acknowledgement. -/
def TaskPhase.unreported : TaskPhase → TaskPhase
  | .ended (some _) => .ended (some true)
  | .joined (some _) => .joined (some true)
  | phase => phase

/-- The message without what came of its acknowledgement. -/
def TakenMessage.unreported (m : TakenMessage) : TakenMessage :=
  { m with phase := m.phase.unreported }

/-- The event without what came of the request that is made with it, if any, and
without the state of the link. -/
def ConsumerEvent.unreported : ConsumerEvent → ConsumerEvent
  | .acknowledged tag _ => .acknowledged tag true
  | .channelClosed _ => .channelClosed true
  | .connectionClosed _ => .connectionClosed true
  | .linkChanged _ => .linkChanged .up
  | e => e

@[simp] theorem TaskPhase.unreported_unreported (p : TaskPhase) :
    p.unreported.unreported = p.unreported := by
  rcases p with _ | _ | _ | (_ | _) | (_ | _) <;> rfl

@[simp] theorem TakenMessage.unreported_unreported (m : TakenMessage) :
    m.unreported.unreported = m.unreported := by
  simp [unreported]

theorem TaskPhase.next?_unreported (p : TaskPhase) (e : ConsumerEvent) :
    p.unreported.next? e.unreported = (p.next? e).map unreported := by
  rcases p with _ | _ | _ | (_ | _) | (_ | _) <;> cases e <;> rfl

namespace Consumer

/-- The consumer without what came of its requests. -/
def unreported (c : Consumer) : Consumer :=
  { c with taken := c.taken.map (·.unreported), link := .up, sent := [] }

@[simp] theorem unreported_unreported (c : Consumer) : c.unreported.unreported = c.unreported := by
  simp [unreported]

@[simp] theorem unreported_send (c : Consumer) (r : BrokerRequest) :
    (c.send r).unreported = c.unreported := rfl

theorem find?_unreported (c : Consumer) (tag : Nat) :
    c.unreported.find? tag = (c.find? tag).map (·.unreported) :=
  List.find?_map ..

@[simp] theorem call_unreported (c : Consumer) (tag : Nat) :
    c.unreported.call tag = (c.call tag).unreported := by
  unfold call
  rw [find?_unreported]
  cases c.find? tag <;> rfl

theorem isIdle_unreported (c : Consumer) : c.unreported.isIdle = c.isIdle := by
  simp only [isIdle, unreported, List.all_map]
  congr 1
  funext m
  simp only [Function.comp, TakenMessage.unreported]
  rcases m.phase with _ | _ | _ | (_ | _) | (_ | _) <;> rfl

theorem advance?_unreported (c : Consumer) (tag : Nat) (e : ConsumerEvent) :
    c.unreported.advance? tag e.unreported = (c.advance? tag e).map unreported := by
  unfold advance?
  rw [find?_unreported]
  cases c.find? tag with
  | none => rfl
  | some m =>
    have hnext : m.unreported.phase.next? e.unreported = (m.phase.next? e).map (·.unreported) :=
      TaskPhase.next?_unreported m.phase e
    simp only [Option.map_some, Option.bind_eq_bind, Option.bind_some, hnext]
    cases m.phase.next? e with
    | none => rfl
    | some phase =>
      simp only [Option.map_some, Option.bind_some, Option.pure_def, unreported, List.map_map]
      congr 2
      refine List.map_congr_left fun x _ => ?_
      by_cases htag : x.tag = tag <;> simp [TakenMessage.unreported, htag]

/-- What an event does, success apart, is the same whether or not requests succeed. -/
theorem step?_unreported (c : Consumer) (e : ConsumerEvent) :
    (c.unreported.step? e.unreported).map unreported = (c.step? e).map unreported := by
  have hadvance := fun tag => advance?_unreported c tag e
  cases e with
  | delivered | left =>
    simp [step?, ConsumerEvent.unreported, Option.map_if, unreported, Function.comp_def]
  | handlerCalled | handlerReturned | handlerBroke | taskJoined =>
    simp only [ConsumerEvent.unreported] at hadvance
    simp [step?, ConsumerEvent.unreported, hadvance, Function.comp_def]
  | acknowledged =>
    simp only [ConsumerEvent.unreported] at hadvance
    simp [step?, ConsumerEvent.unreported, hadvance, Function.comp_def, apply_ite]
  | linkChanged => simp [step?, ConsumerEvent.unreported, unreported]
  | channelClosed | connectionClosed =>
    simp only [step?, ConsumerEvent.unreported, isIdle_unreported, Option.map_if, unreported_send]
    simp [unreported, Function.comp_def]

theorem map_step?_eq {c c' : Consumer} {e e' : ConsumerEvent} (hc : c'.unreported = c.unreported)
    (he : e'.unreported = e.unreported) :
    (c'.step? e').map unreported = (c.step? e).map unreported := by
  rw [← step?_unreported c', hc, he, step?_unreported c]

/-- Runs whose events differ in nothing but success lead to consumers that differ in
nothing else. -/
theorem run?_unreported {c c' d : Consumer} (hc : c'.unreported = c.unreported)
    {events others : List ConsumerEvent}
    (hevents : others.map (·.unreported) = events.map (·.unreported))
    (hrun : c.run? events = some d) :
    ∃ d', c'.run? others = some d' ∧ d'.unreported = d.unreported := by
  induction events generalizing c c' others with
  | nil =>
    cases List.map_eq_nil_iff.1 hevents
    cases hrun
    exact ⟨c', rfl, hc⟩
  | cons e events ih =>
    obtain ⟨e', others, rfl, he, hrest⟩ := List.map_eq_cons_iff.1 hevents
    obtain ⟨m, hm, hrun⟩ := Run.cons_eq_some_iff.1 hrun
    have hstep := map_step?_eq hc he
    rw [hm, Option.map_some, Option.map_eq_some_iff] at hstep
    obtain ⟨m', hm', hsame⟩ := hstep
    obtain ⟨d', hd', hd⟩ := ih hsame hrest hrun
    exact ⟨d', Run.cons_eq_some_iff.2 ⟨m', hm', hd'⟩, hd⟩

theorem result?_unreported (c : Consumer) : c.unreported.result? = c.result? := rfl

/-! ## Order of events -/

variable {events : List ConsumerEvent} {c : Consumer}

/-- What an account says of the events before one of a run. -/
theorem exists_step_of_run {before after : List ConsumerEvent} {e : ConsumerEvent}
    (hrun : start.run? (before ++ e :: after) = some c) :
    ∃ m n, Accounts before m ∧ m.Step e n := by
  obtain ⟨m, hm, hrest⟩ := Run.append_eq_some_iff.1 hrun
  obtain ⟨n, hn, -⟩ := Run.cons_eq_some_iff.1 hrest
  have haccounts := accounts_run hm
  exact ⟨m, n, haccounts, step_of_step? haccounts.numbered hn⟩

/-- No message is taken once the loop was left, and the loop is left once. -/
theorem not_taken_of_left {before after : List ConsumerEvent} {exit : ConsumerExit}
    (hrun : start.run? (before ++ .left exit :: after) = some c) {e : ConsumerEvent}
    (he : e ∈ after) : e.payload? = none ∧ e.exit? = none := by
  obtain ⟨front, back, rfl⟩ := List.append_of_mem he
  have hrun' : start.run? ((before ++ .left exit :: front) ++ e :: back) = some c := by
    simpa using hrun
  obtain ⟨m, n, haccounts, hstep⟩ := exists_step_of_run hrun'
  have hexit : m.exit ≠ none := by
    intro hnone
    have hexits := haccounts.exits
    simp [hnone, ConsumerEvent.exit?] at hexits
  cases hstep with
  | delivered _ hrunning => exact absurd hrunning hexit
  | left _ hrunning => exact absurd hrunning hexit
  | moved _ htask _ =>
    obtain ⟨hpayload, hexit, -⟩ := ConsumerEvent.eq_none_of_task? htask
    exact ⟨hpayload, hexit⟩
  | linkChanged => exact ⟨rfl, rfl⟩
  | channelClosed => exact ⟨rfl, rfl⟩
  | connectionClosed => exact ⟨rfl, rfl⟩

/-- Once something was closed, nothing happens but the next closing and changes of the link. -/
theorem eq_linkChanged_of_closing (front back : List ConsumerEvent) {e : ConsumerEvent}
    (hrun : start.run? (front ++ e :: back) = some c)
    (hclosing : front.filterMap (·.closing?) ≠ []) (he : e.closing? = none) :
    ∃ link, e = .linkChanged link := by
  obtain ⟨m, n, haccounts, hstep⟩ := exists_step_of_run hrun
  have hclosed : m.closing ≠ .none := by
    intro hnone
    rw [haccounts.closings, hnone] at hclosing
    exact hclosing rfl
  obtain ⟨hleft, hidle⟩ := haccounts.closed hclosed
  cases hstep with
  | linkChanged link => exact ⟨link, rfl⟩
  | delivered _ hrunning => simp [hrunning] at hleft
  | left _ hrunning => simp [hrunning] at hleft
  | moved htaken _ hnext => exact absurd hnext (not_next?_of_isIdle hidle (by simp [htaken]))
  | channelClosed => cases he
  | connectionClosed => cases he

/-- The events of a consumer that has closed up: those before the channel was closed,
then nothing but the closing of the connection and changes of the link. -/
theorem closing_order (hrun : start.run? events = some c) (hclosing : c.closing = .connection) :
    ∃ before channel between connection after,
      events = before ++ .channelClosed channel :: (between ++ .connectionClosed connection :: after) ∧
      (∀ e ∈ before, e.closing? = none) ∧
      ∀ e ∈ between ++ after, ∃ link, e = .linkChanged link := by
  have hclosings := (accounts_run hrun).closings
  rw [hclosing, Closing.history, List.filterMap_eq_cons_iff] at hclosings
  obtain ⟨before, e, rest, rfl, hbefore, he, hrest⟩ := hclosings
  obtain ⟨between, e', after, rfl, hbetween, he', hafter⟩ := List.filterMap_eq_cons_iff.1 hrest
  obtain ⟨channel, rfl⟩ := ConsumerEvent.eq_channelClosed he
  obtain ⟨connection, rfl⟩ := ConsumerEvent.eq_connectionClosed he'
  refine ⟨before, channel, between, connection, after, rfl, hbefore, ?_⟩
  intro x hx
  rcases List.mem_append.1 hx with hx | hx
  · obtain ⟨front, back, rfl⟩ := List.append_of_mem hx
    refine eq_linkChanged_of_closing (before ++ .channelClosed channel :: front)
      (back ++ .connectionClosed connection :: after) (by simpa using hrun) ?_ (hbetween x hx)
    simp [ConsumerEvent.closing?]
  · obtain ⟨front, back, rfl⟩ := List.append_of_mem hx
    refine eq_linkChanged_of_closing
      (before ++ .channelClosed channel :: (between ++ .connectionClosed connection :: front)) back
      (by simpa using hrun) ?_ (List.filterMap_eq_nil_iff.1 hafter x hx)
    simp [ConsumerEvent.closing?]

/-! ## Tasks -/

/-- A task whose handler returns goes through its events once and in order. -/
theorem tasks_in_order (hrun : start.run? events = some c)
    (hreturns : ∀ tag, .handlerBroke tag ∉ events) (tag : Nat) :
    ∃ succeeded, events.filter (·.task? = some tag) <+:
      [.handlerCalled tag, .handlerReturned tag, .acknowledged tag succeeded, .taskJoined tag] := by
  have haccounts := accounts_run hrun
  by_cases htag : tag ∈ c.taken.map (·.tag)
  · obtain ⟨m, hm, rfl⟩ := List.mem_map.1 htag
    have htasks := haccounts.tasks m hm
    have hnever : .handlerBroke m.tag ∉ m.phase.history m.tag := by
      rw [← htasks]
      exact fun hmem => hreturns m.tag (List.mem_of_mem_filter hmem)
    rw [htasks]
    cases hphase : m.phase with
    | waiting => exact ⟨true, List.nil_prefix⟩
    | handling => exact ⟨true, [_, _, _], rfl⟩
    | acknowledging => exact ⟨true, [_, _], rfl⟩
    | ended acknowledged =>
      cases acknowledged with
      | none => simp [hphase, TaskPhase.history, TaskPhase.ending] at hnever
      | some succeeded => exact ⟨succeeded, [_], rfl⟩
    | joined acknowledged =>
      cases acknowledged with
      | none => simp [hphase, TaskPhase.history, TaskPhase.ending] at hnever
      | some succeeded => exact ⟨succeeded, [], rfl⟩
  · rw [haccounts.others tag htag]
    exact ⟨true, List.nil_prefix⟩

/-- A joined task whose handler returned has gone through all of its events. -/
theorem task_of_isIdle (hrun : start.run? events = some c)
    (hreturns : ∀ tag, .handlerBroke tag ∉ events) (hidle : c.isIdle) {m : TakenMessage}
    (hm : m ∈ c.taken) :
    ∃ succeeded, events.filter (·.task? = some m.tag)
      = [.handlerCalled m.tag, .handlerReturned m.tag, .acknowledged m.tag succeeded,
        .taskJoined m.tag] := by
  obtain ⟨succeeded, hprefix⟩ := tasks_in_order hrun hreturns m.tag
  refine ⟨succeeded, hprefix.eq_of_length_le ?_⟩
  have hjoined := List.all_eq_true.1 hidle m hm
  rw [(accounts_run hrun).tasks m hm] at hprefix ⊢
  cases hphase : m.phase with
  | joined acknowledged =>
    cases acknowledged with
    | none => simp [hphase, TaskPhase.history, TaskPhase.ending] at hprefix
    | some succeeded => exact Nat.le_refl _
  | _ => simp [hphase] at hjoined

/-- When every task is joined, the handler was called once for every message. -/
theorem handled_of_isIdle (hrun : start.run? events = some c) (hidle : c.isIdle) :
    c.handled.Perm (events.filterMap (·.payload?)) := by
  have haccounts := accounts_run hrun
  have hall : c.taken.filter (·.phase ≠ .waiting) = c.taken := by
    refine List.filter_eq_self.2 ?_
    intro m hm
    have hjoined := List.all_eq_true.1 hidle m hm
    cases hphase : m.phase <;> simp_all
  rw [haccounts.payloads, ← hall]
  exact haccounts.handled

/-- As long as nothing happens to the link, the broker sees all that it is asked for. -/
theorem sent_of_link_up (hrun : start.run? events = some c)
    (hlink : ∀ link, .linkChanged link ∉ events) : c.sent = events.filterMap (·.request?) := by
  have hboth : c.link = .up ∧ c.sent = events.filterMap (·.request?) := by
    refine Run.induction_on
      (motive := fun events c => (∀ link, .linkChanged link ∉ events) →
        c.link = .up ∧ c.sent = events.filterMap (·.request?))
      (fun _ => ⟨rfl, rfl⟩) ?_ hrun hlink
    intro events m e n hm hsent hstep hlink
    obtain ⟨hup, hsent⟩ := hsent fun link hmem => hlink link (List.mem_append_left _ hmem)
    rw [filterMap_snoc, ← hsent]
    cases step_of_step? (accounts_run hm).numbered hstep with
    | moved _ htask hnext =>
      refine ⟨hup, ?_⟩
      simp only [moved, hup, and_true, TaskPhase.request?_of_next? hnext htask]
      split <;> rfl
    | linkChanged link => exact absurd (List.mem_append_right _ List.mem_cons_self) (hlink link)
    | channelClosed => exact ⟨hup, by simp [send, hup, BrokerLink.carries, ConsumerEvent.request?]⟩
    | connectionClosed =>
      exact ⟨hup, by simp [send, hup, BrokerLink.carries, ConsumerEvent.request?]⟩
    | delivered | left => exact ⟨hup, (List.append_nil _).symm⟩
  exact hboth.2

/-! ## The end -/

theorem closing_of_result? {result : Except InfraError Unit} (h : c.result? = some result) :
    c.closing = .connection ∧ ∃ exit, c.exit = some exit ∧
      ((∃ error, result = .error error) ↔ exit = .streamFailed) := by
  unfold result? at h
  split at h <;> cases h
  all_goals simp_all

/-- The consumer fails exactly when it left its loop because the stream failed. -/
theorem fails_iff (hrun : start.run? events = some c) {result : Except InfraError Unit}
    (hresult : c.result? = some result) :
    (∃ error, result = .error error) ↔ .left .streamFailed ∈ events := by
  obtain ⟨-, exit, hexit, hfails⟩ := closing_of_result? hresult
  have hexits := (accounts_run hrun).exits
  rw [hexit] at hexits
  have hmem : .left .streamFailed ∈ events
      ↔ ConsumerExit.streamFailed ∈ events.filterMap (·.exit?) := by
    rw [List.mem_filterMap]
    constructor
    · intro h
      exact ⟨_, h, rfl⟩
    · rintro ⟨e, he, hexit⟩
      cases e <;> cases hexit
      exact he
  rw [hfails, hmem, hexits]
  simp [eq_comm]

/-- A consumer has a result only when it has closed up, with no task left. -/
theorem isIdle_of_result? (hrun : start.run? events = some c) {result : Except InfraError Unit}
    (hresult : c.result? = some result) : c.isIdle := by
  have hclosing := (closing_of_result? hresult).1
  refine ((accounts_run hrun).closed ?_).2
  rw [hclosing]
  nofun

/-- Every message once, over whole runs of a consumer whose handler returns. The
messages of the stream are taken in order, until the loop is left. The handler is called
once for each, and each is acknowledged after its own call, once. After the loop was left
the consumer can always come to its end, and ends when all of this is done; it has then
closed the channel and the connection, in this order and once, and fails exactly if the
stream did. None of this depends on whether acknowledgements and closings succeed. -/
theorem messages_once (hrun : start.run? events = some c)
    (hreturns : ∀ tag, .handlerBroke tag ∉ events) :
    c.taken.map (·.payload) = events.filterMap (·.payload?) ∧
    c.taken.map (·.tag) = List.range' 1 c.taken.length ∧
    c.handled.Perm ((c.taken.filter (·.phase ≠ .waiting)).map (·.payload)) ∧
    (∀ tag, ∃ succeeded, events.filter (·.task? = some tag) <+:
      [.handlerCalled tag, .handlerReturned tag, .acknowledged tag succeeded, .taskJoined tag]) ∧
    (∀ before exit after, events = before ++ .left exit :: after →
      ∀ e ∈ after, e.payload? = none ∧ e.exit? = none) ∧
    c.sent.Sublist (events.filterMap (·.request?)) ∧
    ((∀ link, .linkChanged link ∉ events) → c.sent = events.filterMap (·.request?)) ∧
    (∀ others, others.map (·.unreported) = events.map (·.unreported) →
      ∃ c', start.run? others = some c' ∧ c'.unreported = c.unreported ∧
        c'.result? = c.result?) ∧
    (c.exit.isSome → ∃ rest d result, c.run? rest = some d ∧
      (∀ tag, .handlerBroke tag ∉ rest) ∧ d.result? = some result) ∧
    ∀ result, c.result? = some result →
      c.handled.Perm (events.filterMap (·.payload?)) ∧
      (∀ m ∈ c.taken, ∃ succeeded, events.filter (·.task? = some m.tag)
        = [.handlerCalled m.tag, .handlerReturned m.tag, .acknowledged m.tag succeeded,
          .taskJoined m.tag]) ∧
      (∃ before channel between connection after,
        events = before ++
          .channelClosed channel :: (between ++ .connectionClosed connection :: after) ∧
        (∀ e ∈ before, e.closing? = none) ∧
        ∀ e ∈ between ++ after, ∃ link, e = .linkChanged link) ∧
      ((∃ error, result = .error error) ↔ .left .streamFailed ∈ events) := by
  have haccounts := accounts_run hrun
  refine ⟨haccounts.payloads.symm, haccounts.numbered, haccounts.handled,
    tasks_in_order hrun hreturns, ?left, haccounts.sent, sent_of_link_up hrun, ?unreported,
    exists_result? hrun, ?ended⟩
  case left =>
    rintro before exit after rfl e he
    exact not_taken_of_left hrun he
  case unreported =>
    intro others hothers
    obtain ⟨c', hrun', hsame⟩ := run?_unreported rfl hothers hrun
    refine ⟨c', hrun', hsame, ?_⟩
    rw [← result?_unreported c', hsame, result?_unreported c]
  case ended =>
    intro result hresult
    have hidle := isIdle_of_result? hrun hresult
    refine ⟨handled_of_isIdle hrun hidle, ?_, closing_order hrun (closing_of_result? hresult).1,
      fails_iff hrun hresult⟩
    intro m hm
    exact task_of_isIdle hrun hreturns hidle hm

/-- Two messages are at work when the consumer is cancelled. The second is finished first,
its acknowledgement fails, and so does closing the connection. -/
theorem messages_once_of_cancelled :
    let first : ByteArray := ⟨#[1]⟩
    let second : ByteArray := ⟨#[2]⟩
    let events : List ConsumerEvent :=
      [.delivered first, .delivered second, .handlerCalled 2, .handlerCalled 1, .left .cancelled,
        .handlerReturned 2, .acknowledged 2 false, .taskJoined 2, .handlerReturned 1,
        .acknowledged 1 true, .taskJoined 1, .channelClosed true, .connectionClosed false]
    ∃ c, start.run? events = some c ∧ c.result? = some (.ok ()) ∧
      c.handled.Perm [first, second] ∧
      c.sent = [.acknowledge 1, Broker.closeChannel, Broker.closeConnection] ∧
      ¬ .left .streamFailed ∈ events := by
  intro first second events
  obtain ⟨c, hrun, hresult⟩ : ∃ c, start.run? events = some c ∧ c.result? = some (.ok ()) :=
    ⟨_, rfl, rfl⟩
  have hreturns : ∀ tag, .handlerBroke tag ∉ events := by simp [events]
  obtain ⟨-, -, -, -, -, -, hsent, -, -, hended⟩ := messages_once hrun hreturns
  obtain ⟨hhandled, -, -, hfails⟩ := hended _ hresult
  refine ⟨c, hrun, hresult, hhandled, ?sent, ?failed⟩
  case sent =>
    rw [hsent (by simp [events])]
    rfl
  case failed =>
    intro hfailed
    obtain ⟨error, h⟩ := hfails.2 hfailed
    cases h

end Consumer
end WebhookRelay

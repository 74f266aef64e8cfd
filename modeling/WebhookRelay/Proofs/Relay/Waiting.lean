-- SUMMARY: Evaluations that wait for the store while deliveries come to their end, and which deliveries they count.
import WebhookRelay.Proofs.Registry.Verdicts
import WebhookRelay.Proofs.Relay.Disabling

/-!
# Evaluations that wait for the store

To switch a webhook off an evaluation asks the store, and it takes the rate before it
asks and resets the record once it has the answer. What else is under way goes on
meanwhile. `Watch` is traffic in which an evaluation may be waiting; one that has its
answer at once is the evaluation in one go (`answer?_of_ask?`).

Every evaluation leaves a `Closing` of the window of a record. Between the closings the
deliveries to a record are told apart by when they come to their end: those before the
rate is taken are counted in it, those after the reset are counted in the record, and
those in between are in neither (`Accounted`).
-/

namespace WebhookRelay

namespace Checkup

/-- The end of an evaluation whose rate was taken. -/
def conclude (p : HealthPolicy) (now : Time) (c : Checkup) (e : Entry) (rate : Float) : Checkup :=
  let (action, repository, record) := act p c.repository e rate
  { repository
    ledger := c.ledger.modify e.stats (·.resetAt now)
    verdicts := c.verdicts ++ [⟨e.id, rate, action⟩]
    log := c.log ++ [record] }

theorem visit_of_judge? {p : HealthPolicy} {now : Time} {c : Checkup} {e : Entry} {rate : Float}
    (h : judge? p now c.ledger e = some rate) : visit p now c e = conclude p now c e rate := by
  rw [visit, h]
  rfl

theorem judge?_eq_some_iff {p : HealthPolicy} {now : Time} {l : Ledger} {e : Entry}
    {rate : Float} :
    judge? p now l e = some rate ↔ isDue p now l e = true ∧ (l.get e.stats).failureRate = rate := by
  simp [judge?, isDue]

end Checkup

/-- The failure rate of deliveries with some outcomes. -/
def Stats.rateOf (outcomes : List Outcome) : Float :=
  ((startingAt 0).tally outcomes).failureRate

theorem Stats.failureRate_tally (time : Time) (outcomes : List Outcome) :
    ((startingAt time).tally outcomes).failureRate = rateOf outcomes := by
  rw [rateOf, tally_startingAt, tally_startingAt]
  rfl

/-- Whether a step is one of a refresh. -/
def TrafficEvent.isOfRefresh : TrafficEvent → Bool
  | .refreshBegan _ | .evaluated _ | .storeRead | .swapped _ => true
  | _ => false

/-- The end of a window of a record. -/
structure Watch.Closing where
  key : StatsKey
  verdict : Verdict
  /-- The number of deliveries that had come to their end when the rate was taken. -/
  judged : Nat
  /-- The number of deliveries that had come to their end when the record was reset. -/
  reset : Nat
  deriving DecidableEq

/-- An evaluation that waits for the store. -/
structure Watch.Asking where
  entry : Entry
  rate : Float
  /-- The number of deliveries that had come to their end when the rate was taken. -/
  judged : Nat

/-- Traffic in which an evaluation may wait for the store. -/
structure Watch where
  traffic : Traffic
  asking : Option Watch.Asking
  /-- The windows that have been closed, in order. -/
  closings : List Watch.Closing

/-- A step of something under way, when evaluations may wait. -/
inductive WatchEvent where
  | traffic (e : TrafficEvent)
  /-- An evaluation takes the rate of an entry and asks the store to switch it off. -/
  | asked (e : Entry)
  /-- The store answers. -/
  | answered

namespace Watch

/-- A relay with nothing under way. -/
def start (r : Relay) : Watch :=
  ⟨.start r, none, []⟩

/-- The closing of an entry's window with a rate that was taken before. -/
def closing (t : Traffic) (e : Entry) (rate : Float) (judged : Nat) : Closing where
  key := e.stats
  verdict := ⟨e.id, rate, (Checkup.act t.relay.policy t.relay.repository e rate).1⟩
  judged
  reset := t.settled.length

/-- The windows that a step closes. -/
def closed (t : Traffic) : TrafficEvent → List Closing
  | .evaluated e =>
    let rate? := t.refreshing.bind fun f =>
      Checkup.judge? t.relay.policy f.checked t.relay.ledger e
    (rate?.map (closing t e · t.settled.length)).toList
  | _ => []

/-- A step of the traffic. A refresh that waits takes none. -/
def pass? (t : Watch) (e : TrafficEvent) : Option Watch :=
  if t.asking.isSome ∧ e.isOfRefresh then none
  else (t.traffic.step? e).map fun u =>
    { t with traffic := u, closings := t.closings ++ closed t.traffic e }

/-- Takes the rate of an entry that is to be switched off. -/
def ask? (t : Watch) (e : Entry) : Option Watch := do
  let f ← t.traffic.refreshing
  let rate ← Checkup.judge? t.traffic.relay.policy f.checked t.traffic.relay.ledger e
  if t.asking.isNone ∧ e ∈ f.pending ∧ t.traffic.relay.policy.isUnhealthy rate ∧
      t.traffic.relay.policy.autoDisable then
    some { t with asking := some ⟨e, rate, t.traffic.settled.length⟩ }
  else none

/-- Ends the evaluation that waits. -/
def answer? (t : Watch) : Option Watch := do
  let a ← t.asking
  let f ← t.traffic.refreshing
  let c := Checkup.conclude t.traffic.relay.policy f.checked (t.traffic.checkup f) a.entry a.rate
  some {
    traffic := t.traffic.withCheckup f c (f.pending.erase a.entry)
    asking := none
    closings := t.closings ++ [closing t.traffic a.entry a.rate a.judged] }

/-- Takes a step; `none` when it cannot be taken. -/
def step? (t : Watch) : WatchEvent → Option Watch
  | .traffic e => t.pass? e
  | .asked e => t.ask? e
  | .answered => t.answer?

/-- Takes steps, one after the other. -/
def run? (t : Watch) (events : List WatchEvent) : Option Watch :=
  events.foldlM step? t

/-! ## Steps -/

/-- What a step does when it is taken. -/
inductive Step (t : Watch) : WatchEvent → Watch → Prop where
  | passed (e : TrafficEvent) (u : Traffic) (step : t.traffic.step? e = some u)
      (idle : t.asking = none ∨ e.isOfRefresh = false) :
      Step t (.traffic e)
        { t with traffic := u, closings := t.closings ++ closed t.traffic e }
  | asked (e : Entry) (f : Refreshing) (rate : Float)
      (refreshing : t.traffic.refreshing = some f) (pending : e ∈ f.pending)
      (judged : Checkup.judge? t.traffic.relay.policy f.checked t.traffic.relay.ledger e
        = some rate)
      (unhealthy : t.traffic.relay.policy.isUnhealthy rate = true)
      (autoDisable : t.traffic.relay.policy.autoDisable = true) (idle : t.asking = none) :
      Step t (.asked e) { t with asking := some ⟨e, rate, t.traffic.settled.length⟩ }
  | answered (a : Asking) (f : Refreshing) (asking : t.asking = some a)
      (refreshing : t.traffic.refreshing = some f) :
      Step t .answered
        { traffic := t.traffic.withCheckup f
            (Checkup.conclude t.traffic.relay.policy f.checked (t.traffic.checkup f) a.entry a.rate)
            (f.pending.erase a.entry)
          asking := none
          closings := t.closings ++ [closing t.traffic a.entry a.rate a.judged] }

/-- Every step that is taken does what `Step` says. -/
theorem step_of_step? {t u : Watch} {e : WatchEvent} (h : t.step? e = some u) : t.Step e u := by
  cases e with
  | traffic e =>
    obtain ⟨hidle, h⟩ := Option.ite_none_left_eq_some.1 h
    obtain ⟨v, hv, rfl⟩ := Option.map_eq_some_iff.1 h
    refine .passed e v hv ?_
    cases hasking : t.asking with
    | none => exact .inl rfl
    | some a => exact .inr (by simpa [hasking] using hidle)
  | asked e =>
    obtain ⟨f, hf, h⟩ := Option.bind_eq_some_iff.1 h
    obtain ⟨rate, hrate, h⟩ := Option.bind_eq_some_iff.1 h
    obtain ⟨⟨hidle, hpending, hunhealthy, hauto⟩, h⟩ := Option.ite_none_right_eq_some.1 h
    cases h
    exact .asked e f rate hf hpending hrate hunhealthy hauto (Option.isNone_iff_eq_none.1 hidle)
  | answered =>
    obtain ⟨a, ha, h⟩ := Option.bind_eq_some_iff.1 h
    obtain ⟨f, hf, h⟩ := Option.bind_eq_some_iff.1 h
    cases h
    exact .answered a f ha hf

/-- An evaluation that has its answer at once is the evaluation in one go. -/
theorem answer?_of_ask? {t u : Watch} {e : Entry} (h : t.step? (.asked e) = some u) :
    u.step? .answered = t.step? (.traffic (.evaluated e)) := by
  cases step_of_step? h with
  | asked _ f rate hf hpending hrate _ _ hidle =>
    have hvisit := Checkup.visit_of_judge? (c := t.traffic.checkup f) hrate
    simp [step?, answer?, pass?, hf, hidle, hpending, hrate, hvisit, closed, Traffic.step?,
      Traffic.evaluate?]

theorem closed_cases (t : Traffic) (e : TrafficEvent) :
    (closed t e = [] ∧ ∀ key, ¬ Traffic.Resets key t e) ∨
    ∃ x f, e = .evaluated x ∧ t.refreshing = some f ∧
      Checkup.judge? t.relay.policy f.checked t.relay.ledger x
        = some (t.relay.ledger.get x.stats).failureRate ∧
      closed t e = [closing t x (t.relay.ledger.get x.stats).failureRate t.settled.length] := by
  by_cases h : ∃ key, Traffic.Resets key t e
  · obtain ⟨key, x, f, rfl, -, hf, hdue⟩ := h
    have hrate := Checkup.judge?_eq_some_iff.2 ⟨hdue, rfl⟩
    exact .inr ⟨x, f, rfl, hf, hrate, by simp [closed, hf, hrate]⟩
  · rw [not_exists] at h
    refine .inl ⟨?_, h⟩
    cases e with
    | evaluated x =>
      simp only [closed, Option.toList_eq_nil_iff, Option.map_eq_none_iff,
        Option.bind_eq_none_iff]
      intro f hf
      refine Option.eq_none_iff_forall_ne_some.2 fun rate hrate => ?_
      exact h x.stats ⟨x, f, rfl, rfl, hf, (Checkup.judge?_eq_some_iff.1 hrate).1⟩
    | _ => rfl

/-! ## What closings account for -/

/-- The number of deliveries that had come to their end when the last of some closings of a
record's windows reset it. -/
def opening (key : StatsKey) (closings : List Closing) : Nat :=
  closings.foldl (fun n c => if c.key = key then c.reset else n) 0

@[simp] theorem opening_snoc (key : StatsKey) (closings : List Closing) (c : Closing) :
    opening key (closings ++ [c]) = if c.key = key then c.reset else opening key closings := by
  simp [opening]

/-- The outcomes of the deliveries to a record that came to their end after some number of
deliveries had, and not after another. -/
def outcomesBetween (t : Traffic) (key : StatsKey) (low high : Nat) : List Outcome :=
  Traffic.outcomesOn key ((t.settled.take high).drop low)

theorem outcomesBetween_of_append {t u : Traffic} {new : List Settlement}
    (h : u.settled = t.settled ++ new) {high : Nat} (hhigh : high ≤ t.settled.length)
    (key : StatsKey) (low : Nat) :
    outcomesBetween u key low high = outcomesBetween t key low high := by
  rw [outcomesBetween, h, List.take_append_of_le_length hhigh, outcomesBetween]

/-- Whether a rate is that of the deliveries to a record since its last closing, up to a
number of deliveries that have come to their end. -/
structure Judges (t : Traffic) (old : List Closing) (key : StatsKey) (rate : Float)
    (judged : Nat) : Prop where
  opened : opening key old ≤ judged
  ended : judged ≤ t.settled.length
  rate_eq : rate = Stats.rateOf (outcomesBetween t key (opening key old) judged)

theorem Judges.of_append {t u : Traffic} {new : List Settlement}
    (hnew : u.settled = t.settled ++ new) {old : List Closing} {key : StatsKey} {rate : Float}
    {judged : Nat} (h : Judges t old key rate judged) : Judges u old key rate judged where
  opened := h.opened
  ended := by
    rw [hnew, List.length_append]
    exact Nat.le_add_right_of_le h.ended
  rate_eq := by
    rw [outcomesBetween_of_append hnew h.ended]
    exact h.rate_eq

/-- What a closing accounts for: the rate of its verdict is that of the window that it
closes, and only an evaluation that asked the store can have reset the record later than it
took the rate. -/
structure Accounts (t : Traffic) (old : List Closing) (c : Closing) : Prop where
  judges : Judges t old c.key c.verdict.failureRate c.judged
  le_reset : c.judged ≤ c.reset
  ended : c.reset ≤ t.settled.length
  at_once : c.verdict.action = .healthy ∨ c.verdict.action = .warned → c.judged = c.reset

theorem Accounts.of_append {t u : Traffic} {new : List Settlement}
    (hnew : u.settled = t.settled ++ new) {old : List Closing} {c : Closing}
    (h : Accounts t old c) : Accounts u old c where
  judges := h.judges.of_append hnew
  le_reset := h.le_reset
  ended := by
    rw [hnew, List.length_append]
    exact Nat.le_add_right_of_le h.ended
  at_once := h.at_once

/-- Whether a record tallies the deliveries since its last closing. -/
def Tallies (t : Traffic) (closings : List Closing) (key : StatsKey) : Prop :=
  ∃ time, t.relay.ledger.get key
    = (Stats.startingAt time).tally
        (Traffic.outcomesOn key (t.settled.drop (opening key closings)))

/-- What holds at any time of the closings, the records and the evaluation that waits. -/
structure Accounted (t : Watch) : Prop where
  sound : t.traffic.Sound
  waits : ∀ a, t.asking = some a → ∃ f, t.traffic.refreshing = some f ∧ a.entry ∈ f.pending ∧
    Judges t.traffic t.closings a.entry.stats a.rate a.judged ∧
    t.traffic.relay.policy.isUnhealthy a.rate = true ∧ t.traffic.relay.policy.autoDisable = true
  opened : ∀ key, opening key t.closings ≤ t.traffic.settled.length
  tallies : ∀ key < t.traffic.relay.ledger.records.length, Tallies t.traffic t.closings key
  accounts : ∀ old c new, t.closings = old ++ c :: new → Accounts t.traffic old c

theorem accounted_start {r : Relay} (hsep : r.Separated) (hempty : r.ledger.records = []) :
    (start r).Accounted where
  sound := Traffic.sound_start hsep
  waits := by simp [start]
  opened := by simp [start, opening]
  tallies := by simp [start, Traffic.start, hempty]
  accounts := by simp [start]

/-! ## Steps that close nothing -/

theorem exists_settled_step {t u : Traffic} {e : TrafficEvent} (hstep : t.Step e u) :
    ∃ new, u.settled = t.settled ++ new := by
  cases hstep with
  | settled number outlet d => exact ⟨_, rfl⟩
  | edited | dropped | begun | refreshBegan | evaluated | readFailed | storeRead | swapped =>
    exact ⟨[], (List.append_nil _).symm⟩

theorem refreshing_step {t u : Traffic} {e : TrafficEvent} (hstep : t.Step e u)
    (he : e.isOfRefresh = false) : u.refreshing = t.refreshing := by
  cases hstep with
  | edited | dropped | begun | settled => rfl
  | refreshBegan | evaluated | readFailed | storeRead | swapped => cases he

/-- No delivery is counted on a record before it is there. -/
theorem outcomesOn_eq_nil {t : Traffic} (h : t.Sound) {key : StatsKey}
    (hle : t.relay.ledger.records.length ≤ key) {settled : List Settlement}
    (hsub : settled ⊆ t.settled) : Traffic.outcomesOn key settled = [] := by
  rw [Traffic.outcomesOn, List.map_eq_nil_iff, List.filter_eq_nil_iff]
  intro s hs hkey
  have hlt := h.begun _ (List.mem_of_getElem? (h.settled s (hsub hs)))
  rw [of_decide_eq_true hkey] at hlt
  exact absurd hlt (Nat.not_lt.2 hle)

/-- A record that is new tallies nothing. -/
theorem tallies_of_new {t u : Traffic} {e : TrafficEvent} (h : t.Sound)
    (hstep : t.step? e = some u) {key : StatsKey} (hle : t.relay.ledger.records.length ≤ key)
    (hlt : key < u.relay.ledger.records.length) (closings : List Closing) :
    Tallies u closings key := by
  obtain ⟨-, time, htime⟩ := Traffic.get_of_opens h hstep (.inr ⟨hle, u, hstep, hlt⟩)
  refine ⟨time, htime.trans ?_⟩
  have hsettled : u.settled = t.settled := by
    cases Traffic.step_of_step? hstep with
    | settled => exact absurd hlt (by simp [Relay.settle, hle])
    | edited | dropped | begun | refreshBegan | evaluated | readFailed | storeRead | swapped =>
      rfl
  rw [hsettled, outcomesOn_eq_nil h hle (List.drop_subset _ _)]
  rfl

/-- A record that is not reset tallies on. -/
theorem Tallies.step {t u : Traffic} {e : TrafficEvent} (hsound : t.Sound) (hstep : t.Step e u)
    {key : StatsKey} (hkey : key < t.relay.ledger.records.length)
    (hresets : ¬ Traffic.Resets key t e) {closings : List Closing}
    (hopened : opening key closings ≤ t.settled.length) (h : Tallies t closings key) :
    Tallies u closings key := by
  obtain ⟨time, htime⟩ := h
  obtain ⟨new, hnew, hget⟩ := Traffic.get_step hsound hstep hkey hresets
  refine ⟨time, ?_⟩
  rw [hget, htime, hnew, List.drop_append_of_le_length hopened, ← Stats.tally_append]
  simp [Traffic.outcomesOn]

theorem Accounted.pass {t : Watch} (h : t.Accounted) {e : TrafficEvent} {u : Traffic}
    (hstep : t.traffic.step? e = some u) (hidle : t.asking = none ∨ e.isOfRefresh = false)
    (hresets : ∀ key, ¬ Traffic.Resets key t.traffic e) :
    Accounted { t with traffic := u } := by
  have hdone := Traffic.step_of_step? hstep
  obtain ⟨new, hnew⟩ := exists_settled_step hdone
  refine ⟨Traffic.sound_step h.sound hdone, ?waits, ?opened, ?tallies, ?accounts⟩
  case waits =>
    intro a ha
    obtain ⟨f, hf, hpending, hjudges, hunhealthy, hauto⟩ := h.waits a ha
    have hquiet : e.isOfRefresh = false := by
      rcases hidle with hidle | hquiet
      · rw [ha] at hidle
        cases hidle
      · exact hquiet
    refine ⟨f, (refreshing_step hdone hquiet).trans hf, hpending, hjudges.of_append hnew, ?_⟩
    rw [Traffic.policy_step hdone]
    exact ⟨hunhealthy, hauto⟩
  case opened =>
    intro key
    rw [hnew, List.length_append]
    exact Nat.le_add_right_of_le (h.opened key)
  case tallies =>
    intro key hkey
    by_cases hlt : key < t.traffic.relay.ledger.records.length
    · exact (h.tallies key hlt).step h.sound hdone hlt (hresets key) (h.opened key)
    · exact tallies_of_new h.sound hstep (Nat.not_lt.1 hlt) hkey t.closings
  case accounts =>
    intro old c new' heq
    exact (h.accounts old c new' heq).of_append hnew

/-! ## Steps that close a window -/

/-- What is done about a webhook when the store is asked to switch it off. -/
theorem action_of_asked {p : HealthPolicy} {repository : Repository} {e : Entry} {rate : Float}
    (hunhealthy : p.isUnhealthy rate = true) (hauto : p.autoDisable = true) :
    (Checkup.act p repository e rate).1 ≠ .healthy ∧
      (Checkup.act p repository e rate).1 ≠ .warned := by
  rw [Checkup.act_fst, Checkup.actionOf]
  simp only [hunhealthy, hauto, Bool.true_eq_false, if_false]
  split_ifs <;> decide

theorem Accounted.close {t : Watch} (h : t.Accounted) {e : Entry} {f : Refreshing}
    (hf : t.traffic.refreshing = some f) (hpending : e ∈ f.pending) {rate : Float} {judged : Nat}
    (hjudges : Judges t.traffic t.closings e.stats rate judged)
    (hat_once : (closing t.traffic e rate judged).verdict.action = .healthy ∨
      (closing t.traffic e rate judged).verdict.action = .warned →
        judged = t.traffic.settled.length) :
    Accounted {
      traffic := t.traffic.withCheckup f
        (Checkup.conclude t.traffic.relay.policy f.checked (t.traffic.checkup f) e rate)
        (f.pending.erase e)
      asking := none
      closings := t.closings ++ [closing t.traffic e rate judged] } := by
  obtain ⟨hcurrent, hentries⟩ := h.sound.refreshing f hf
  have hlt : e.stats < t.traffic.relay.ledger.records.length :=
    h.sound.separated.lt_length e (hentries e hpending)
  have hopened : ∀ key, opening key (t.closings ++ [closing t.traffic e rate judged])
      = if e.stats = key then t.traffic.settled.length else opening key t.closings := fun key =>
    opening_snoc ..
  refine ⟨?sound, ?waits, ?opened, ?tallies, ?accounts⟩
  case sound =>
    refine h.sound.of_eq rfl (Ledger.length_records_modify ..) rfl rfl ?_
    rintro g ⟨⟩
    exact ⟨hcurrent, fun x hx => hentries x (List.mem_of_mem_erase hx)⟩
  case waits =>
    intro a ha
    exact absurd ha.symm (Option.some_ne_none a)
  case opened =>
    intro key
    rw [hopened]
    split
    · exact Nat.le_refl _
    · exact h.opened key
  case tallies =>
    intro key hkey
    rw [Traffic.ledger_withCheckup] at hkey
    have hget : (Checkup.conclude t.traffic.relay.policy f.checked (t.traffic.checkup f) e
        rate).ledger.get key = if key = e.stats then .startingAt f.checked
          else t.traffic.relay.ledger.get key :=
      Ledger.get_modify _ _ hlt
    rw [Tallies, Traffic.ledger_withCheckup, hget, hopened]
    -- The record that is reset tallies what comes to its end from now on, which is nothing yet.
    by_cases hkey' : key = e.stats
    · refine ⟨f.checked, ?_⟩
      rw [if_pos hkey', if_pos hkey'.symm]
      simp [Traffic.withCheckup, Traffic.outcomesOn, Stats.tally]
    · rw [if_neg hkey', if_neg (Ne.symm hkey')]
      refine h.tallies key ?_
      exact (Ledger.length_records_modify ..).symm ▸ hkey
  case accounts =>
    intro old c new heq
    have hsettled : ∀ v : Checkup, (t.traffic.withCheckup f v (f.pending.erase e)).settled
        = t.traffic.settled ++ [] := fun _ => (List.append_nil _).symm
    -- Only the last closing is new; the others stand where they stood.
    rcases List.eq_nil_or_concat new with rfl | ⟨new, last, rfl⟩
    · obtain ⟨rfl, hc⟩ := List.append_inj' heq rfl
      cases hc
      exact ⟨hjudges.of_append (hsettled _), hjudges.ended, Nat.le_refl _, hat_once⟩
    · rw [List.concat_eq_append, ← List.cons_append, ← List.append_assoc] at heq
      exact (h.accounts old c new (List.append_inj' heq rfl).1).of_append (hsettled _)

/-- A record that is there gives the rate of its window. -/
theorem Accounted.judges {t : Watch} (h : t.Accounted) {key : StatsKey}
    (hkey : key < t.traffic.relay.ledger.records.length) :
    Judges t.traffic t.closings key (t.traffic.relay.ledger.get key).failureRate
      t.traffic.settled.length := by
  obtain ⟨time, htime⟩ := h.tallies key hkey
  refine ⟨h.opened key, Nat.le_refl _, ?_⟩
  rw [htime, Stats.failureRate_tally, outcomesBetween, List.take_length]

/-- An evaluation in one go closes the window with the rate of the record as it stands. -/
theorem Accounted.evaluate {t : Watch} (h : t.Accounted) {e : Entry} {f : Refreshing}
    (hf : t.traffic.refreshing = some f) (hpending : e ∈ f.pending)
    (hrate : Checkup.judge? t.traffic.relay.policy f.checked t.traffic.relay.ledger e
      = some (t.traffic.relay.ledger.get e.stats).failureRate) :
    Accounted {
      traffic := t.traffic.withCheckup f
        ((t.traffic.checkup f).visit t.traffic.relay.policy f.checked e) (f.pending.erase e)
      asking := none
      closings := t.closings ++ [closing t.traffic e
        (t.traffic.relay.ledger.get e.stats).failureRate t.traffic.settled.length] } := by
  have hlt := h.sound.separated.lt_length e ((h.sound.refreshing f hf).2 e hpending)
  have hclosed := h.close hf hpending (h.judges hlt) fun _ => rfl
  rw [← Checkup.visit_of_judge? (c := t.traffic.checkup f) hrate] at hclosed
  exact hclosed

theorem accounted_step {t u : Watch} {e : WatchEvent} (h : t.Accounted) (hstep : t.Step e u) :
    u.Accounted := by
  cases hstep with
  | passed e u hstep hidle =>
    -- Of the steps of the traffic only an evaluation closes a window, and none does so while
    -- another one waits.
    rcases closed_cases t.traffic e with ⟨hclosed, hresets⟩ | ⟨x, f, rfl, hf, hrate, hclosed⟩
    · rw [hclosed, List.append_nil]
      exact h.pass hstep hidle hresets
    · have hasking : t.asking = none := hidle.resolve_right (by simp [TrafficEvent.isOfRefresh])
      rw [hclosed, hasking]
      cases Traffic.step_of_step? hstep with
      | begun _ feed event hevent => cases hevent
      | evaluated _ g hg hpending =>
        obtain rfl := Option.some.inj (hf.symm.trans hg)
        exact h.evaluate hf hpending hrate
  | asked e f rate hf hpending hrate hunhealthy hauto _ =>
    refine ⟨h.sound, ?_, h.opened, h.tallies, h.accounts⟩
    rintro a ⟨⟩
    -- From here on the rate is kept while the record goes on counting.
    have hlt := h.sound.separated.lt_length e ((h.sound.refreshing f hf).2 e hpending)
    obtain ⟨-, rfl⟩ := Checkup.judge?_eq_some_iff.1 hrate
    exact ⟨f, hf, hpending, h.judges hlt, hunhealthy, hauto⟩
  | answered a f ha hf =>
    obtain ⟨g, hg, hpending, hjudges, hunhealthy, hauto⟩ := h.waits a ha
    obtain rfl := Option.some.inj (hf.symm.trans hg)
    obtain ⟨hhealthy, hwarned⟩ := action_of_asked hunhealthy hauto
    exact h.close hf hpending hjudges fun haction =>
      (haction.elim hhealthy hwarned).elim

theorem accounted_run {t u : Watch} (h : t.Accounted) {events : List WatchEvent}
    (hrun : t.run? events = some u) : u.Accounted :=
  Run.induction_on (motive := fun _ m => m.Accounted) h
    (fun _ _ _ _ _ hm hstep => accounted_step hm (step_of_step? hstep)) hrun

/-! ## While an evaluation waits -/

theorem closed_eq_nil {t : Traffic} {e : TrafficEvent} (he : e.isOfRefresh = false) :
    closed t e = [] := by
  cases e <;> first | rfl | cases he

/-- An evaluation that waits goes on waiting until the store answers, and no window is
closed meanwhile. -/
theorem waiting_step {t u : Watch} {e : WatchEvent} {a : Asking} (ha : t.asking = some a)
    (hstep : t.Step e u) (he : e ≠ .answered) : u.asking = some a ∧ u.closings = t.closings := by
  cases hstep with
  | passed e u _ hidle =>
    have hquiet : e.isOfRefresh = false := hidle.resolve_left (by simp [ha])
    rw [closed_eq_nil hquiet]
    exact ⟨ha, List.append_nil _⟩
  | asked _ _ _ _ _ _ _ _ hidle =>
    rw [ha] at hidle
    cases hidle
  | answered => exact absurd rfl he

theorem waiting_run {t u : Watch} {events : List WatchEvent} {a : Asking}
    (ha : t.asking = some a) (hrun : t.run? events = some u) (hevents : .answered ∉ events) :
    u.asking = some a ∧ u.closings = t.closings := by
  refine Run.induction_on
    (motive := fun events m => .answered ∉ events → m.asking = some a ∧ m.closings = t.closings)
    (fun _ => ⟨ha, rfl⟩) ?_ hrun hevents
  intro events m e n _ hm hstep hevents
  rw [List.mem_append, List.mem_singleton, not_or] at hevents
  obtain ⟨hasking, hclosings⟩ := hm hevents.1
  obtain ⟨hasking', hclosings'⟩ := waiting_step hasking (step_of_step? hstep) (Ne.symm hevents.2)
  exact ⟨hasking', hclosings'.trans hclosings⟩

/-- The outcomes of deliveries to a record that came to their end after the rate was taken
and before the record was reset. -/
def lost (t : Traffic) (c : Closing) : List Outcome :=
  outcomesBetween t c.key c.judged c.reset

theorem outcomesBetween_append (t : Traffic) (key : StatsKey) {low mid high : Nat}
    (hlow : low ≤ mid) (hmid : mid ≤ high) (hhigh : high ≤ t.settled.length) :
    outcomesBetween t key low high
      = outcomesBetween t key low mid ++ outcomesBetween t key mid high := by
  have hsplit : (t.settled.take high).drop low
      = (t.settled.take mid).drop low ++ (t.settled.take high).drop mid := by
    have htake : t.settled.take high = t.settled.take mid ++ (t.settled.take high).drop mid := by
      conv_lhs => rw [← List.take_append_drop mid (t.settled.take high)]
      rw [List.take_take, Nat.min_eq_left hmid]
    conv_lhs => rw [htake]
    refine List.drop_append_of_le_length ?_
    rw [List.length_take]
    exact Nat.le_min.2 ⟨hlow, Nat.le_trans hlow (Nat.le_trans hmid hhigh)⟩
  simp [outcomesBetween, Traffic.outcomesOn, hsplit]

/-- An evaluation that asks the store and has its answer later closes the window with the
rate that it took before it asked. -/
theorem exists_closing {t u : Watch} {e : Entry} {during : List WatchEvent}
    (hrun : t.run? (.asked e :: during ++ [.answered]) = some u) (hduring : .answered ∉ during) :
    ∃ c, u.closings = t.closings ++ [c] ∧ c.key = e.stats ∧ c.verdict.webhookId = e.id ∧
      c.judged = t.traffic.settled.length ∧ c.reset = u.traffic.settled.length := by
  obtain ⟨k, hk, hanswer⟩ := Run.append_eq_some_iff.1 hrun
  obtain ⟨n, hask, hn⟩ := Run.cons_eq_some_iff.1 hk
  rw [Run.singleton_eq] at hanswer
  cases step_of_step? hask with
  | asked _ f rate =>
    obtain ⟨hasking, hclosings⟩ := waiting_run rfl hn hduring
    cases step_of_step? hanswer with
    | answered a g ha hg =>
      obtain rfl := Option.some.inj (hasking.symm.trans ha)
      exact ⟨_, by rw [hclosings], rfl, rfl, rfl, rfl⟩

/-- Which deliveries evaluations count, in every run. The rate of a verdict is that of the
deliveries since the last reset that had come to their end when the rate was taken; the
record counts those that came to their end after it was reset. Those in between are lost:
the deliveries that come to their end while the store is asked to switch the webhook off,
whatever it answers, and none when the store is not asked. -/
theorem lost_while_waiting {policy : HealthPolicy} {streamCapacity : Nat}
    {repository : Repository} {events : List WatchEvent} {t : Watch}
    (hrun : (start (.ofRepository policy streamCapacity repository)).run? events = some t) :
    (∀ key < t.traffic.relay.ledger.records.length, ∃ time, t.traffic.relay.ledger.get key
      = (Stats.startingAt time).tally
          (Traffic.outcomesOn key (t.traffic.settled.drop (opening key t.closings)))) ∧
    (∀ old c new, t.closings = old ++ c :: new →
      opening c.key old ≤ c.judged ∧ c.judged ≤ c.reset ∧ c.reset ≤ t.traffic.settled.length ∧
      c.verdict.failureRate
        = Stats.rateOf (outcomesBetween t.traffic c.key (opening c.key old) c.judged) ∧
      outcomesBetween t.traffic c.key (opening c.key old) c.reset
        = outcomesBetween t.traffic c.key (opening c.key old) c.judged ++ lost t.traffic c ∧
      (c.verdict.action = .healthy ∨ c.verdict.action = .warned → lost t.traffic c = [])) ∧
    ∀ before e during after, events = before ++ (.asked e :: during ++ [.answered]) ++ after →
      .answered ∉ during → ∃ m u c,
        (start (.ofRepository policy streamCapacity repository)).run? before = some m ∧
        m.run? (.asked e :: during ++ [.answered]) = some u ∧ u.run? after = some t ∧
        u.closings = m.closings ++ [c] ∧ c.key = e.stats ∧ c.verdict.webhookId = e.id ∧
        lost u.traffic c
          = Traffic.outcomesOn e.stats (u.traffic.settled.drop m.traffic.settled.length) := by
  have haccounted : t.Accounted :=
    accounted_run (accounted_start (Relay.separated_ofRepository ..) rfl) hrun
  refine ⟨haccounted.tallies, ?closings, ?waiting⟩
  case closings =>
    intro old c new heq
    obtain ⟨⟨hopened, _, hrate⟩, hreset, hended, hat_once⟩ := haccounted.accounts old c new heq
    refine ⟨hopened, hreset, hended, hrate, outcomesBetween_append _ _ hopened hreset hended, ?_⟩
    intro haction
    rw [lost, hat_once haction, outcomesBetween, List.drop_eq_nil_of_le (List.length_take_le ..)]
    rfl
  case waiting =>
    rintro before e during after rfl hduring
    obtain ⟨u, hu, hafter⟩ := Run.append_eq_some_iff.1 hrun
    obtain ⟨m, hm, hwait⟩ := Run.append_eq_some_iff.1 hu
    obtain ⟨c, hclosings, hkey, hid, hjudged, hreset⟩ := exists_closing hwait hduring
    refine ⟨m, u, c, hm, hwait, hafter, hclosings, hkey, hid, ?_⟩
    rw [lost, outcomesBetween, hkey, hjudged, hreset, List.take_length]

/-- Three deliveries fail. The first one is counted in the rate for which the webhook is to
be switched off; the other two come to their end while the store is asked. -/
def threeFailing (edits : List StoreEdit) : Option Watch :=
  let hook := Subscription.new ⟨1⟩ "http://[::1]/"
  let event := Event.new "1" "SAFE_CREATED" ""
  let outlet : Outlet := ⟨Http.unreachable, 10⟩
  let first := start (.ofRepository ⟨60000, 50.0, true⟩ 16 (.ofStore (.ofList [hook])))
  let before : List TrafficEvent := [.refreshBegan 0, .storeRead, .swapped 0, .posted event,
    .posted event, .posted event, .settled 0 outlet, .refreshBegan 60000]
  let during : List TrafficEvent := [.settled 1 outlet, .settled 2 outlet] ++ edits.map .edited
  first.run? (before.map .traffic ++ (.asked ⟨hook, 0⟩ :: during.map .traffic ++ [.answered]))

/-- The rate is that of the first delivery, and the record counts none of the three. -/
theorem lost_while_waiting_of_three :
    ∃ t, threeFailing [] = some t ∧
      t.closings = [⟨0, ⟨⟨1⟩, 100.0, .disabled⟩, 1, 3⟩] ∧
      100.0 = Stats.rateOf (outcomesBetween t.traffic 0 0 1) ∧
      ∃ time, t.traffic.relay.ledger.get 0
        = (Stats.startingAt time).tally
            (Traffic.outcomesOn 0 (t.traffic.settled.drop 3)) := by
  have hseen : (threeFailing []).map (fun t => (t.closings, t.traffic.relay.ledger.records.length))
      = some ([⟨0, ⟨⟨1⟩, 100.0, .disabled⟩, 1, 3⟩], 1) := by decide +kernel
  obtain ⟨t, hrun, hvalues⟩ := Option.map_eq_some_iff.1 hseen
  obtain ⟨hclosings, hlength⟩ := Prod.mk.inj hvalues
  obtain ⟨hrecords, hrates, -⟩ := lost_while_waiting hrun
  obtain ⟨-, -, -, hrate, -⟩ := hrates [] _ [] hclosings
  obtain ⟨time, hrecord⟩ := hrecords 0 (hlength ▸ Nat.one_pos)
  rw [hclosings] at hrecord
  exact ⟨t, hrun, hclosings, hrate, time, hrecord⟩

/-- Any number of deliveries can be lost, whatever the store answers: of these three two are
counted neither in the rate nor in the record after its reset. -/
theorem two_lost_while_waiting :
    let observed := fun edits => (threeFailing edits).map fun t =>
      (t.closings.map (·.verdict), t.closings.map fun c => (lost t.traffic c).length,
        t.traffic.settled.length, t.traffic.relay.ledger.get 0)
    observed [] = some ([⟨⟨1⟩, 100.0, .disabled⟩], [2], 3, .startingAt 60000) ∧
    observed [.remove ⟨1⟩]
      = some ([⟨⟨1⟩, 100.0, .alreadyInactive⟩], [2], 3, .startingAt 60000) ∧
    observed [.connect none (some "connection reset")]
      = some ([⟨⟨1⟩, 100.0, .disableFailed⟩], [2], 3, .startingAt 60000) := by
  decide +kernel

end Watch
end WebhookRelay

-- SUMMARY: The task that refreshes the registry: each refresh serves a tick of the grid, and ticks that are missed are not made up for.
import Mathlib.Data.List.Pairwise
import WebhookRelay.Proofs.Relay.Traffic
import WebhookRelay.Schedule

/-!
# Refreshing on a schedule

The task that refreshes the registry waits for two things at once: for the next tick of its
schedule, and for being told to stop. `Refresher.step?` has it work among all else that happens.
Time passes, smoothly or with a leap; registrations edit the store; deliveries and the steps of a
refresh come and go. Only when it is run does the task look for what it waits for (`looked`). If
both have come it takes either, so that event says which of them the task looks at first.

However this goes, every refresh serves a tick of its own, and of the ticks that pass before the
next refresh starts only the first one is ever served (`Serves`).
-/

namespace WebhookRelay

/-! ## The grid -/

/-- Whether a time is on the grid of a schedule: the start plus one period or more. -/
def IsTick (start period time : Nat) : Prop :=
  ∃ k, 1 ≤ k ∧ time = start + k * period

/-- Whether a time is the first tick behind another time. -/
structure IsNextTick (start period time tick : Nat) : Prop where
  isTick : IsTick start period tick
  lt : time < tick
  le : tick ≤ time + period

theorem isTick_first (start period : Nat) : IsTick start period (start + period) :=
  ⟨1, Nat.le_refl 1, by rw [Nat.one_mul]⟩

theorem IsTick.start_add_period_le {start period time : Nat} (h : IsTick start period time) :
    start + period ≤ time := by
  obtain ⟨k, hk, rfl⟩ := h
  exact Nat.add_le_add_left (Nat.le_mul_of_pos_left period hk) start

theorem IsTick.add_mul {start period time : Nat} (h : IsTick start period time) (n : Nat) :
    IsTick start period (time + n * period) := by
  obtain ⟨k, hk, rfl⟩ := h
  exact ⟨k + n, Nat.le_add_right_of_le hk, by rw [Nat.add_mul, Nat.add_assoc]⟩

namespace Schedule

variable {s next : Schedule} {now tick : Nat}

theorem poll?_eq_none_of_lt (h : now < s.due) : s.poll? now = none :=
  if_pos (.inr h)

theorem poll?_of_le (hrunning : s.cancelled = false) (hdue : s.due ≤ now) :
    s.poll? now
      = some (s.due, { s with due := s.due + ((now - s.due) / s.period + 1) * s.period }) :=
  if_neg (by simp [hrunning, Nat.not_lt.2 hdue])

/-- A tick that is served is followed by the first one behind the time it is served at. -/
theorem isNextTick_of_le {start : Nat} (hperiod : 0 < s.period)
    (htick : IsTick start s.period s.due) (hdue : s.due ≤ now) :
    IsNextTick start s.period now (s.due + ((now - s.due) / s.period + 1) * s.period) := by
  refine ⟨htick.add_mul _, ?lt, ?le⟩
  case lt =>
    have hlt := Nat.lt_div_mul_add (a := now - s.due) hperiod
    rw [Nat.add_mul, Nat.one_mul]
    omega
  case le =>
    have hle := Nat.div_mul_le_self (now - s.due) s.period
    rw [Nat.add_mul, Nat.one_mul]
    omega

end Schedule

/-- The ticks that were served, each with the time at which it was, and the tick that is due
next: the first one behind the time of the last. -/
inductive Serves (start period : Nat) : List (Nat × Nat) → Nat → Prop where
  | nil : Serves start period [] (start + period)
  | snoc {served : List (Nat × Nat)} {tick began next : Nat} (before : Serves start period served tick)
      (late : tick ≤ began) (following : IsNextTick start period began next) :
      Serves start period (served ++ [(tick, began)]) next

namespace Serves

variable {start period due : Nat} {served : List (Nat × Nat)}

theorem isTick_due (h : Serves start period served due) : IsTick start period due := by
  cases h with
  | nil => exact isTick_first start period
  | snoc _ _ following => exact following.isTick

theorem of_mem (h : Serves start period served due) {x : Nat × Nat} (hx : x ∈ served) :
    IsTick start period x.1 ∧ x.1 ≤ x.2 ∧ x.2 < due := by
  induction h with
  | nil => cases hx
  | snoc before late following ih =>
    rcases List.mem_append.1 hx with hx | hx
    · obtain ⟨htick, hle, hlt⟩ := ih hx
      exact ⟨htick, hle, Nat.lt_trans hlt (Nat.lt_of_le_of_lt late following.lt)⟩
    · cases List.mem_singleton.1 hx
      exact ⟨before.isTick_due, late, following.lt⟩

/-- A tick that is served lies behind the start of every refresh before. -/
theorem pairwise (h : Serves start period served due) :
    served.Pairwise fun x y => x.2 < y.1 := by
  induction h with
  | nil => exact .nil
  | snoc before _ _ ih =>
    refine List.pairwise_append.2 ⟨ih, List.pairwise_singleton _ _, ?_⟩
    intro x hx y hy
    cases List.mem_singleton.1 hy
    exact (before.of_mem hx).2.2

end Serves

/-! ## The task -/

/-- A refresh of the task. -/
structure Round where
  /-- The tick that the refresh serves. -/
  tick : Nat
  began : Nat
  ended : Option Nat
  deriving DecidableEq, Repr

/-- A round that is over at a time, if it was not before. -/
def Round.endAt (x : Round) (time : Nat) : Round :=
  { x with ended := some (x.ended.getD time) }

/-- The task that refreshes the registry, and the relay that it works for. -/
structure Refresher where
  traffic : Traffic
  /-- The schedule; it is cancelled when the task has stopped. -/
  schedule : Schedule
  now : Nat
  /-- Whether the task was told to stop. -/
  told : Bool
  /-- The refreshes so far, in order. -/
  rounds : List Round

/-- What can happen to the task and around it. -/
inductive RefresherEvent where
  | passed (span : Nat)
  /-- The task is told to stop. -/
  | told
  /-- The task looks for the next tick and for being told to stop, in this order or the other.
  If it starts a refresh, that checks the health of the webhooks at the time `checked`. -/
  | looked (tickFirst : Bool) (checked : Time)
  /-- Any step of the relay but the beginning of a refresh. -/
  | traffic (e : TrafficEvent)

/-- Whether the task looks at what it waits for. -/
def RefresherEvent.isLook : RefresherEvent → Bool
  | .looked _ _ => true
  | _ => false

namespace Refresher

/-- The task of a relay, started at a time with the period that is asked for. -/
def start (relay : Relay) (time requested : Nat) : Refresher :=
  ⟨.start relay, .startingAt time requested, time, false, []⟩

/-- Whether the task has stopped. -/
def isOver (r : Refresher) : Bool :=
  r.schedule.cancelled

/-- Looks at what the task waits for; not while it is at work on a refresh. -/
def look? (r : Refresher) (tickFirst : Bool) (checked : Time) : Option Refresher :=
  if r.isOver ∨ r.traffic.refreshing.isSome then none
  else if r.told ∧ ¬(tickFirst ∧ r.schedule.due ≤ r.now) then
    some { r with schedule := r.schedule.cancel }
  else
    match r.schedule.poll? r.now with
    | none => some r
    | some (tick, schedule) =>
      (r.traffic.step? (.refreshBegan checked)).map fun traffic =>
        { r with traffic, schedule, rounds := r.rounds ++ [⟨tick, r.now, none⟩] }

/-- Takes a step of the relay. A refresh that ends with it is over now. -/
def move? (r : Refresher) (e : TrafficEvent) : Option Refresher :=
  (r.traffic.step? e).map fun traffic =>
    { r with
      traffic
      rounds := if traffic.refreshing.isNone then r.rounds.map (·.endAt r.now) else r.rounds }

/-- Carries an event out; `none` when it cannot happen. -/
def step? (r : Refresher) : RefresherEvent → Option Refresher
  | .passed span => some { r with now := r.now + span }
  | .told => some { r with told := true }
  | .looked tickFirst checked => r.look? tickFirst checked
  | .traffic (.refreshBegan _) => none
  | .traffic e => r.move? e

/-- Carries events out, one after the other. -/
def run? (r : Refresher) (events : List RefresherEvent) : Option Refresher :=
  events.foldlM step? r

/-! ## Steps -/

/-- What an event does when it happens. -/
inductive Step (r : Refresher) : RefresherEvent → Refresher → Prop where
  | passed (span : Nat) : Step r (.passed span) { r with now := r.now + span }
  | told : Step r .told { r with told := true }
  | waited (tickFirst : Bool) (checked : Time) (untold : r.told = false)
      (early : r.now < r.schedule.due) : Step r (.looked tickFirst checked) r
  | stopped (tickFirst : Bool) (checked : Time) (told : r.told = true) :
      Step r (.looked tickFirst checked) { r with schedule := r.schedule.cancel }
  | began (tickFirst : Bool) (checked : Time) (due : r.schedule.due ≤ r.now)
      (idle : r.traffic.refreshing = none) (f : Refreshing) :
      Step r (.looked tickFirst checked)
        { r with
          traffic := { r.traffic with refreshing := some f }
          schedule := { r.schedule with
            due := r.schedule.due
              + ((r.now - r.schedule.due) / r.schedule.period + 1) * r.schedule.period }
          rounds := r.rounds ++ [⟨r.schedule.due, r.now, none⟩] }
  | moved (e : TrafficEvent) (traffic : Traffic) (step : r.traffic.Step e traffic)
      (kept : r.traffic.refreshing = none → traffic.refreshing = none) :
      Step r (.traffic e)
        { r with
          traffic
          rounds := if traffic.refreshing.isNone then r.rounds.map (·.endAt r.now) else r.rounds }

variable {r t : Refresher} {e : RefresherEvent}

/-- Without a refresh under way there is none after any step but the beginning of one. -/
theorem refreshing_eq_none {a b : Traffic} {e : TrafficEvent} (h : a.Step e b)
    (he : ∀ checked, e ≠ .refreshBegan checked) (hidle : a.refreshing = none) :
    b.refreshing = none := by
  cases h with
  | edited | dropped | begun | settled => exact hidle
  | refreshBegan checked => exact absurd rfl (he checked)
  | evaluated _ f hf | storeRead f hf => simp [hidle] at hf
  | readFailed | swapped => rfl

theorem step_of_move? {e : TrafficEvent} (he : ∀ checked, e ≠ .refreshBegan checked)
    (h : r.move? e = some t) : r.Step (.traffic e) t := by
  obtain ⟨traffic, htraffic, rfl⟩ := Option.map_eq_some_iff.1 h
  have hstep := Traffic.step_of_step? htraffic
  exact .moved e traffic hstep (refreshing_eq_none hstep he)

theorem step_of_look? {tickFirst : Bool} {checked : Time} (h : r.look? tickFirst checked = some t) :
    r.Step (.looked tickFirst checked) t := by
  obtain ⟨hwaiting, h⟩ := Option.ite_none_left_eq_some.1 h
  rw [not_or, Bool.not_eq_true, Option.not_isSome_iff_eq_none] at hwaiting
  obtain ⟨hrunning, hidle⟩ := hwaiting
  by_cases hstop : r.told ∧ ¬(tickFirst ∧ r.schedule.due ≤ r.now)
  · rw [if_pos hstop] at h
    cases h
    exact .stopped tickFirst checked hstop.1
  rw [if_neg hstop] at h
  by_cases hdue : r.schedule.due ≤ r.now
  · rw [Schedule.poll?_of_le hrunning hdue] at h
    obtain ⟨traffic, htraffic, rfl⟩ := Option.map_eq_some_iff.1 h
    cases Traffic.step_of_step? htraffic with
    | refreshBegan => exact .began tickFirst checked hdue hidle _
    | begun _ _ _ event? => cases event?
  · have hearly := Nat.not_le.1 hdue
    rw [Schedule.poll?_eq_none_of_lt hearly] at h
    cases h
    refine .waited tickFirst checked (Bool.eq_false_iff.2 fun htold => ?_) hearly
    exact hstop ⟨htold, fun hfirst => hdue hfirst.2⟩

/-- Every event that happens does what `Step` says. -/
theorem step_of_step? (h : r.step? e = some t) : r.Step e t := by
  cases e with
  | passed span =>
    cases h
    exact .passed span
  | told =>
    cases h
    exact .told
  | looked tickFirst checked => exact step_of_look? h
  | traffic e =>
    cases e with
    | refreshBegan checked => cases h
    | edited | received | posted | settled | evaluated | storeRead | swapped =>
      exact step_of_move? nofun h

/-! ## Rounds in order -/

/-- The ticks that were served, each with the time at which it was. -/
def served (r : Refresher) : List (Nat × Nat) :=
  r.rounds.map fun x => (x.tick, x.began)

/-- Whether the rounds serve the grid, each being over before the next one begins. -/
structure Orderly (first period : Nat) (r : Refresher) : Prop where
  period_eq : r.schedule.period = period
  serves : Serves first period r.served r.schedule.due
  /-- No round lies in the future, and none ends before it begins. -/
  past : ∀ x ∈ r.rounds, x.began ≤ r.now ∧ ∀ time ∈ x.ended, x.began ≤ time ∧ time ≤ r.now
  apart : r.rounds.Pairwise fun x y => ∃ time ∈ x.ended, time ≤ y.began
  /-- Without a refresh under way every round is over. -/
  idle : r.traffic.refreshing = none → ∀ x ∈ r.rounds, x.ended.isSome

theorem orderly_start (relay : Relay) (time requested : Nat) :
    (start relay time requested).Orderly time (max requested minRefreshPeriod) where
  period_eq := rfl
  serves := .nil
  past := nofun
  apart := .nil
  idle := nofun

theorem endAt_of_ended {x : Round} (h : x.ended.isSome) (time : Nat) : x.endAt time = x := by
  obtain ⟨tick, began, ended⟩ := x
  obtain ⟨ended, rfl⟩ := Option.isSome_iff_exists.1 h
  rfl

theorem mem_ended_endAt {x : Round} {time ended : Nat} (h : ended ∈ x.ended) :
    ended ∈ (x.endAt time).ended := by
  rwa [endAt_of_ended (Option.isSome_of_mem h)]

variable {first period : Nat}

theorem Orderly.map_endAt (h : r.Orderly first period) (hidle : r.traffic.refreshing = none)
    (time : Nat) : r.rounds.map (·.endAt time) = r.rounds :=
  (List.map_congr_left fun x hx => endAt_of_ended (h.idle hidle x hx) time).trans (List.map_id' _)

/-- A step of the relay leaves the rounds in order, whether it ends a refresh or not. -/
theorem Orderly.moved (h : r.Orderly first period) (traffic : Traffic) :
    Orderly first period
      { r with
        traffic
        rounds := if traffic.refreshing.isNone then r.rounds.map (·.endAt r.now) else r.rounds } := by
  obtain ⟨hperiod, hserves, hpast, hapart, hidle⟩ := h
  cases hbusy : traffic.refreshing with
  | some f =>
    simp only [Option.isNone_some, Bool.false_eq_true, if_false]
    refine ⟨hperiod, hserves, hpast, hapart, fun hnone => ?_⟩
    simp [hbusy] at hnone
  | none =>
    simp only [Option.isNone_none, if_true]
    refine ⟨hperiod, ?serves, ?past, ?apart, ?idle⟩
    case serves =>
      rw [served, List.map_map]
      exact hserves
    case past =>
      intro x hx
      obtain ⟨y, hy, rfl⟩ := List.mem_map.1 hx
      obtain ⟨hbegan, hended⟩ := hpast y hy
      refine ⟨hbegan, fun time htime => ?_⟩
      cases Option.some.inj htime
      cases hover : y.ended with
      | none => exact ⟨hbegan, Nat.le_refl _⟩
      | some time => exact hended time hover
    case apart =>
      refine List.pairwise_map.2 (hapart.imp ?_)
      rintro x y ⟨time, htime, hle⟩
      exact ⟨time, mem_ended_endAt htime, hle⟩
    case idle =>
      intro _ x hx
      obtain ⟨x, -, rfl⟩ := List.mem_map.1 hx
      rfl

theorem Orderly.step (h : r.Orderly first period) (hpositive : 0 < period) (hstep : r.Step e t) :
    t.Orderly first period := by
  cases hstep with
  | moved _ traffic => exact h.moved traffic
  | told | stopped | waited => exact ⟨h.period_eq, h.serves, h.past, h.apart, h.idle⟩
  | passed span =>
    refine ⟨h.period_eq, h.serves, fun x hx => ?_, h.apart, h.idle⟩
    obtain ⟨hbegan, hended⟩ := h.past x hx
    refine ⟨Nat.le_add_right_of_le hbegan, fun time htime => ?_⟩
    exact (hended time htime).imp_right Nat.le_add_right_of_le
  | began _ _ hdue hidle f =>
    refine ⟨h.period_eq, ?serves, ?past, ?apart, nofun⟩
    case serves =>
      have hserves := h.serves
      rw [← h.period_eq] at hserves hpositive ⊢
      rw [served, List.map_append]
      exact hserves.snoc hdue (Schedule.isNextTick_of_le hpositive hserves.isTick_due hdue)
    case past =>
      intro x hx
      rcases List.mem_append.1 hx with hx | hx
      · exact h.past x hx
      · cases List.mem_singleton.1 hx
        exact ⟨Nat.le_refl _, nofun⟩
    case apart =>
      refine List.pairwise_append.2 ⟨h.apart, List.pairwise_singleton _ _, fun x hx y hy => ?_⟩
      cases List.mem_singleton.1 hy
      obtain ⟨time, htime⟩ := Option.isSome_iff_exists.1 (h.idle hidle x hx)
      exact ⟨time, htime, ((h.past x hx).2 time htime).2⟩

theorem Orderly.run (h : r.Orderly first period) (hpositive : 0 < period)
    {events : List RefresherEvent} (hrun : r.run? events = some t) : t.Orderly first period :=
  Run.induction_on (motive := fun _ t => t.Orderly first period) h
    (fun _ _ _ _ _ hm hstep => hm.step hpositive (step_of_step? hstep)) hrun

theorem period_pos (requested : Nat) : 0 < max requested minRefreshPeriod :=
  Nat.lt_of_lt_of_le (by decide) (Nat.le_max_right ..)

theorem orderly_run {relay : Relay} {time requested : Nat} {events : List RefresherEvent}
    (hrun : (start relay time requested).run? events = some r) :
    r.Orderly time (max requested minRefreshPeriod) :=
  (orderly_start ..).run (period_pos requested) hrun

/-! ## Ticks that are missed -/

/-- Whether at most one of the ticks behind a time and up to another is ever served. -/
def ServesOneOf (rounds : List Round) (low high : Nat) : Prop :=
  ∀ x ∈ rounds, ∀ y ∈ rounds, low < x.tick → x.tick ≤ high → low < y.tick → y.tick ≤ high → x = y

namespace Orderly

theorem of_mem (h : r.Orderly first period) {x : Round} (hx : x ∈ r.rounds) :
    IsTick first period x.tick ∧ x.tick ≤ x.began ∧ x.began < r.schedule.due :=
  h.serves.of_mem (List.mem_map_of_mem (f := fun x : Round => (x.tick, x.began)) hx)

/-- A round begins when the one before is over, and serves a tick behind its start. -/
theorem pairwise (h : r.Orderly first period) :
    r.rounds.Pairwise fun x y => x.began < y.tick ∧ ∃ time ∈ x.ended, time ≤ y.began :=
  (List.pairwise_map.1 h.serves.pairwise).and h.apart

/-- Of two rounds one comes before the other. -/
theorem before_or (h : r.Orderly first period) {x y : Round} (hx : x ∈ r.rounds)
    (hy : y ∈ r.rounds) (hne : x ≠ y) :
    (x.began < y.tick ∧ ∃ time ∈ x.ended, time ≤ y.began) ∨
      (y.began < x.tick ∧ ∃ time ∈ y.ended, time ≤ x.began) := by
  let before (x y : Round) : Prop := x.began < y.tick ∧ ∃ time ∈ x.ended, time ≤ y.began
  have : Std.Symm fun x y => before x y ∨ before y x := ⟨fun _ _ => Or.symm⟩
  have hpairwise : r.rounds.Pairwise fun x y => before x y ∨ before y x := h.pairwise.imp .inl
  exact hpairwise.forall hx hy hne

/-- Of the ticks that pass while no round begins at most one is served. -/
theorem servesOneOf (h : r.Orderly first period) {low high : Nat}
    (hquiet : ∀ x ∈ r.rounds, x.began ≤ low ∨ high ≤ x.began) : ServesOneOf r.rounds low high := by
  -- The first of two ticks is served only behind the second one, if no round begins between.
  have happart : ∀ x ∈ r.rounds, low < x.tick → ∀ y : Round, x.began < y.tick → ¬ y.tick ≤ high := by
    intro x hx hlow y hlt
    have hlate := (h.of_mem hx).2.1
    have hbegan := hquiet x hx
    omega
  intro x hx y hy hxlow hxhigh hylow hyhigh
  by_contra hne
  rcases h.before_or hx hy hne with ⟨hlt, -⟩ | ⟨hlt, -⟩
  · exact happart x hx hxlow y hlt hyhigh
  · exact happart y hy hylow x hlt hxhigh

/-- No round begins while another is under way. -/
theorem quiet_during (h : r.Orderly first period) {x : Round} (hx : x ∈ r.rounds) :
    ∀ y ∈ r.rounds, y.began ≤ x.began ∨ x.ended.getD r.now ≤ y.began := by
  intro y hy
  by_cases heq : x = y
  · exact .inl (Nat.le_of_eq (congrArg Round.began heq.symm))
  rcases h.before_or hx hy heq with ⟨-, time, htime, hle⟩ | ⟨hlt, -⟩
  · right
    rwa [Option.mem_def.1 htime, Option.getD_some]
  · left
    have hlate := (h.of_mem hx).2.1
    omega

end Orderly

/-- A step takes no time but when time passes, and only a round that begins with it is new. -/
theorem began_step (h : r.Step e t) :
    r.now ≤ t.now ∧ ∀ x ∈ t.rounds, x.began ∈ r.rounds.map (·.began) ∨ r.now ≤ x.began := by
  have hkept : ∀ x ∈ r.rounds, x.began ∈ r.rounds.map (·.began) ∨ r.now ≤ x.began := fun x hx =>
    .inl (List.mem_map_of_mem hx)
  cases h with
  | passed span => exact ⟨Nat.le_add_right .., hkept⟩
  | told | waited | stopped => exact ⟨Nat.le_refl _, hkept⟩
  | began =>
    refine ⟨Nat.le_refl _, fun x hx => ?_⟩
    rcases List.mem_append.1 hx with hx | hx
    · exact hkept x hx
    · cases List.mem_singleton.1 hx
      exact .inr (Nat.le_refl _)
  | moved _ traffic =>
    refine ⟨Nat.le_refl _, fun x hx => ?_⟩
    split at hx
    · obtain ⟨y, hy, rfl⟩ := List.mem_map.1 hx
      exact hkept y hy
    · exact hkept x hx

/-- The rounds of a run that are not those of its beginning begin later. -/
theorem began_run {events : List RefresherEvent} (hrun : r.run? events = some t) :
    r.now ≤ t.now ∧ ∀ x ∈ t.rounds, x.began ∈ r.rounds.map (·.began) ∨ r.now ≤ x.began := by
  refine Run.induction_on (motive := fun _ t =>
    r.now ≤ t.now ∧ ∀ x ∈ t.rounds, x.began ∈ r.rounds.map (·.began) ∨ r.now ≤ x.began)
    ⟨Nat.le_refl _, fun x hx => .inl (List.mem_map_of_mem hx)⟩ ?_ hrun
  intro _ m e t _ ⟨hnow, hm⟩ hstep
  obtain ⟨hlater, hbegan⟩ := began_step (step_of_step? hstep)
  refine ⟨Nat.le_trans hnow hlater, fun x hx => ?_⟩
  rcases hbegan x hx with hx | hx
  · obtain ⟨y, hy, heq⟩ := List.mem_map.1 hx
    exact heq ▸ hm y hy
  · exact .inr (Nat.le_trans hnow hx)

/-- No round begins while time passes. -/
theorem quiet_while_passing {relay : Relay} {time requested span : Nat}
    {before after : List RefresherEvent} {m : Refresher}
    (hbefore : (start relay time requested).run? before = some m)
    (hafter : m.run? (.passed span :: after) = some r) :
    ∀ x ∈ r.rounds, x.began ≤ m.now ∨ m.now + span ≤ x.began := by
  obtain ⟨n, hn, hrest⟩ := Run.cons_eq_some_iff.1 hafter
  cases hn
  intro x hx
  rcases (began_run hrest).2 x hx with hx | hx
  · obtain ⟨y, hy, heq⟩ := List.mem_map.1 hx
    exact .inl (heq ▸ ((orderly_run hbefore).past y hy).1)
  · exact .inr hx

/-! ## Being told to stop -/

/-- Whether nothing happened to the task between two states, but that it was told to stop. -/
structure Still (r t : Refresher) : Prop where
  rounds : t.rounds = r.rounds
  schedule : t.schedule = r.schedule
  idle : t.traffic.refreshing = none
  told : r.told = true → t.told = true

/-- A task without a refresh under way rests while it does not look, or when it has stopped. -/
theorem Orderly.still_step (h : r.Orderly first period) (hidle : r.traffic.refreshing = none)
    (hrest : r.isOver = true ∨ e.isLook = false) (hstep : r.step? e = some t) : r.Still t := by
  have hlook : ∀ tickFirst checked, e ≠ .looked tickFirst checked := by
    rintro tickFirst checked rfl
    have hover := hrest.resolve_right (by simp [RefresherEvent.isLook])
    simp [step?, look?, hover] at hstep
  cases step_of_step? hstep with
  | passed => exact ⟨rfl, rfl, hidle, id⟩
  | told => exact ⟨rfl, rfl, hidle, fun _ => rfl⟩
  | waited tickFirst checked | stopped tickFirst checked | began tickFirst checked =>
    exact absurd rfl (hlook tickFirst checked)
  | moved _ traffic _ hkept =>
    refine ⟨?_, rfl, hkept hidle, id⟩
    rw [h.map_endAt hidle, ite_self]

theorem Orderly.still_run (h : r.Orderly first period) (hpositive : 0 < period)
    (hidle : r.traffic.refreshing = none) {events : List RefresherEvent}
    (hrest : r.isOver = true ∨ ∀ e ∈ events, e.isLook = false)
    (hrun : r.run? events = some t) : r.Still t := by
  refine (Run.induction_on (motive := fun events t =>
    (r.isOver = true ∨ ∀ e ∈ events, e.isLook = false) → t.Orderly first period ∧ r.Still t)
    (fun _ => ⟨h, rfl, rfl, hidle, id⟩) ?_ hrun hrest).2
  intro events m e t _ ih hstep hrest
  obtain ⟨hm, hstill⟩ := ih (hrest.imp_right fun hlooks x hx => hlooks x (List.mem_append_left _ hx))
  have hrest' : m.isOver = true ∨ e.isLook = false := by
    rw [isOver, hstill.schedule]
    exact hrest.imp_right fun hlooks => hlooks e (by simp)
  have hnext := hm.still_step hstill.idle hrest' hstep
  exact ⟨hm.step hpositive (step_of_step? hstep), hnext.rounds.trans hstill.rounds,
    hnext.schedule.trans hstill.schedule, hnext.idle, fun htold => hnext.told (hstill.told htold)⟩

/-- Nothing ends the task but being told to. -/
theorem told_mem_of_isOver {relay : Relay} {time requested : Nat} {events : List RefresherEvent}
    (hrun : (start relay time requested).run? events = some r) (hover : r.isOver = true) :
    .told ∈ events := by
  refine Run.induction_on (motive := fun events r => (r.isOver ∨ r.told) → .told ∈ events)
    (by simp [start, isOver, Schedule.startingAt]) ?_ hrun (.inl hover)
  intro events m e t _ ih hstep ht
  cases step_of_step? hstep with
  | told => exact List.mem_append_right _ (List.mem_singleton_self _)
  | stopped _ _ htold => exact List.mem_append_left _ (ih (.inr htold))
  | passed | waited | began | moved => exact List.mem_append_left _ (ih ht)

/-- A task that is told to stop and has no refresh under way does so when it looks before the
next tick is due. -/
theorem look?_of_lt (hrunning : r.isOver = false) (hidle : r.traffic.refreshing = none)
    (htold : r.told = true) (hearly : r.now < r.schedule.due) (tickFirst : Bool) (checked : Time) :
    r.look? tickFirst checked = some { r with schedule := r.schedule.cancel } := by
  simp [look?, hrunning, hidle, htold, Nat.not_le.2 hearly]

/-- A task that was not told to stop serves the tick that is due when it looks. -/
theorem exists_look?_of_le (hrunning : r.isOver = false) (hidle : r.traffic.refreshing = none)
    (htold : r.told = false) (hdue : r.schedule.due ≤ r.now) (tickFirst : Bool) (checked : Time) :
    ∃ t, r.look? tickFirst checked = some t ∧
      t.rounds = r.rounds ++ [⟨r.schedule.due, r.now, none⟩] := by
  simp [look?, hrunning, hidle, htold, Schedule.poll?_of_le hrunning hdue, Traffic.step?,
    Traffic.beginRefresh?]

/-- A task that is told to stop while no refresh is under way, and that looks before the next
tick is due, stops without another refresh. -/
theorem Orderly.stops (h : r.Orderly first period) (hpositive : 0 < period)
    (hidle : r.traffic.refreshing = none) {quiet after : List RefresherEvent} {tickFirst : Bool}
    {checked : Time} {n : Refresher} (hquiet : ∀ e ∈ quiet, e.isLook = false)
    (hn : r.run? (.told :: quiet) = some n) (hearly : n.now < n.schedule.due)
    (hafter : n.run? (.looked tickFirst checked :: after) = some t) :
    t.isOver = true ∧ t.rounds = r.rounds := by
  obtain ⟨m, hm, hwait⟩ := Run.cons_eq_some_iff.1 hn
  cases hm
  have hm : Orderly first period { r with told := true } := h.step hpositive .told
  have hstill := hm.still_run hpositive hidle (.inr hquiet) hwait
  have hn := hm.run hpositive hwait
  obtain ⟨k, hk, hrest⟩ := Run.cons_eq_some_iff.1 hafter
  have hk' := step_of_step? hk
  have hrunning : n.isOver = false := by
    by_contra hover
    simp [step?, look?, Bool.not_eq_false _ ▸ hover] at hk
  rw [step?, look?_of_lt hrunning hstill.idle (hstill.told rfl) hearly] at hk
  cases hk
  have hrest := (hn.step hpositive hk').still_run hpositive hstill.idle (.inl rfl) hrest
  refine ⟨?_, hrest.rounds.trans hstill.rounds⟩
  rw [isOver, hrest.schedule]
  rfl

/-- The refreshes of the task, in every run. None begins earlier than one period after the start.
Each serves a tick of its own that is not later than its beginning, in the order of the ticks, and
begins when the one before is over. Of the ticks that pass during a refresh, or while time leaps,
at most one is served.

A task that is told to stop while no refresh is under way stops without another one if it looks
before the next tick is due. Nothing else stops it, a refresh that fails included: it goes on to
serve the next tick. -/
theorem keeps_to_grid {relay : Relay} {time requested : Nat} {events : List RefresherEvent}
    {r : Refresher} (hrun : (start relay time requested).run? events = some r) :
    let period := max requested minRefreshPeriod
    Serves time period r.served r.schedule.due ∧
    (∀ x ∈ r.rounds, IsTick time period x.tick ∧ x.tick ≤ x.began ∧ time + period ≤ x.began ∧
      (∀ ended ∈ x.ended, x.began ≤ ended) ∧
      ServesOneOf r.rounds x.began (x.ended.getD r.now)) ∧
    (r.rounds.Pairwise fun x y => x.began < y.tick ∧ ∃ ended ∈ x.ended, ended ≤ y.began) ∧
    (∀ before span after m, events = before ++ .passed span :: after →
      (start relay time requested).run? before = some m →
      ServesOneOf r.rounds m.now (m.now + span)) ∧
    (∀ before quiet tickFirst checked after m n,
      events = before ++ (.told :: quiet ++ .looked tickFirst checked :: after) →
      (start relay time requested).run? before = some m → m.traffic.refreshing = none →
      m.run? (.told :: quiet) = some n → (∀ e ∈ quiet, e.isLook = false) →
      n.now < n.schedule.due → r.isOver = true ∧ r.rounds = m.rounds) ∧
    (.told ∉ events → r.isOver = false) ∧
    (r.isOver = false → r.traffic.refreshing = none → ∀ tickFirst checked,
      (r.told = true → r.now < r.schedule.due →
        r.step? (.looked tickFirst checked) = some { r with schedule := r.schedule.cancel }) ∧
      (r.told = false → r.schedule.due ≤ r.now → ∃ t, r.step? (.looked tickFirst checked) = some t ∧
        t.rounds = r.rounds ++ [⟨r.schedule.due, r.now, none⟩])) ∧
    ∀ fault t, r.traffic.relay.repository.findActive = .error fault →
      r.step? (.traffic .storeRead) = some t →
      t.traffic.refreshing = none ∧ t.schedule = r.schedule ∧ t.told = r.told := by
  intro period
  have horderly := orderly_run hrun
  refine ⟨horderly.serves, ?rounds, horderly.pairwise, ?leaps, ?stops, ?untold, ?looks, ?fails⟩
  case rounds =>
    intro x hx
    obtain ⟨htick, hlate, -⟩ := horderly.of_mem hx
    refine ⟨htick, hlate, Nat.le_trans htick.start_add_period_le hlate, ?_,
      horderly.servesOneOf (horderly.quiet_during hx)⟩
    exact fun ended hended => ((horderly.past x hx).2 ended hended).1
  case leaps =>
    rintro before span after m rfl hm
    obtain ⟨k, hk, hafter⟩ := Run.append_eq_some_iff.1 hrun
    obtain rfl := Option.some.inj (hm.symm.trans hk)
    exact horderly.servesOneOf (quiet_while_passing hm hafter)
  case stops =>
    rintro before quiet tickFirst checked after m n rfl hm hidle hn hquiet hearly
    obtain ⟨k, hk, hrest⟩ := Run.append_eq_some_iff.1 hrun
    obtain rfl := Option.some.inj (hm.symm.trans hk)
    obtain ⟨k, hk, hafter⟩ := Run.append_eq_some_iff.1 hrest
    obtain rfl := Option.some.inj (hn.symm.trans hk)
    exact (orderly_run hm).stops (period_pos requested) hidle hquiet hn hearly hafter
  case untold =>
    exact fun huntold => Bool.eq_false_iff.2 fun hover => huntold (told_mem_of_isOver hrun hover)
  case looks =>
    intro hrunning hidle tickFirst checked
    exact ⟨fun htold hearly => look?_of_lt hrunning hidle htold hearly tickFirst checked,
      fun huntold hdue => exists_look?_of_le hrunning hidle huntold hdue tickFirst checked⟩
  case fails =>
    intro fault t hfault ht
    obtain ⟨traffic, htraffic, rfl⟩ := Option.map_eq_some_iff.1 ht
    refine ⟨?_, rfl, rfl⟩
    obtain ⟨f, -, hread⟩ := Option.bind_eq_some_iff.1 htraffic
    obtain ⟨-, hread⟩ := Option.ite_none_right_eq_some.1 hread
    rw [hfault] at hread
    cases hread
    rfl

/-- Three ticks pass before the task looks for the first time, and two more during the refresh
that it begins. The next refresh fails, and then the task is told to stop. -/
def lateRun : List RefresherEvent :=
  [.passed 3500, .looked true 0, .traffic .storeRead, .passed 2700, .traffic (.swapped 0),
    .traffic (.edited (.connect (some "connection reset") none)), .looked false 0,
    .traffic .storeRead, .told, .passed 500, .looked true 0, .passed 1000]

/-- Of the first three ticks the first one is served, and of the next two too. The task stops
at 6700, before the tick at 7000. -/
theorem keeps_to_grid_of_late :
    let first := start (.ofRepository ⟨60000, 50.0, true⟩ 16 (.ofStore (.ofList []))) 0 0
    ∃ r, first.run? lateRun = some r ∧
      r.rounds = [⟨1000, 3500, some 6200⟩, ⟨4000, 6200, some 6200⟩] ∧
      Serves 0 1000 [(1000, 3500), (4000, 6200)] r.schedule.due ∧
      ServesOneOf r.rounds 0 3500 ∧ ServesOneOf r.rounds 3500 6200 ∧ r.isOver = true := by
  intro first
  have hseen : (first.run? lateRun).map (·.rounds)
      = some [⟨1000, 3500, some 6200⟩, ⟨4000, 6200, some 6200⟩] := by decide +kernel
  obtain ⟨r, hrun, hrounds⟩ := Option.map_eq_some_iff.1 hseen
  have hfirst : (first.run? (lateRun.take 8)).map
      (fun m => (m.traffic.refreshing.isNone, m.now, m.schedule.due))
      = some (true, 6200, 7000) := by decide +kernel
  obtain ⟨m, hm, hvalues⟩ := Option.map_eq_some_iff.1 hfirst
  obtain ⟨hidle, hnow, hdue⟩ := by simpa using hvalues
  obtain ⟨hserves, hall, -, hleaps, hstops, -⟩ := keeps_to_grid hrun
  have hserved : r.served = [(1000, 3500), (4000, 6200)] := by rw [served, hrounds]; rfl
  refine ⟨r, hrun, hrounds, hserved ▸ hserves, hleaps [] 3500 _ first rfl rfl, ?_, ?_⟩
  · exact (hall ⟨1000, 3500, some 6200⟩ (by simp [hrounds])).2.2.2.2
  · refine (hstops (lateRun.take 8) [.passed 500] true 0 [.passed 1000] m _ rfl hm hidle rfl
      (by simp [RefresherEvent.isLook]) ?_).1
    simp [hnow, hdue]

end Refresher
end WebhookRelay

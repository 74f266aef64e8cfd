-- SUMMARY: With a threshold of one hundred percent or more every webhook is healthy, and the store is left alone.
import WebhookRelay.Proofs.Registry.Threshold
import WebhookRelay.Proofs.Relay.Waiting

/-!
# Thresholds that are never exceeded

The failure rate is rounded three times on its way, and might be rounded up. It is a percentage
all the same: the counters are rounded in their order, so that their quotient is at most one,
and neither one nor one hundred is rounded at all (`failureRate_le_hundred`). A threshold of one
hundred percent or more is therefore never exceeded, as long as the deliveries of a window can
be counted.
-/

namespace WebhookRelay

open Double

/-! ## The failure rate is a percentage -/

theorem denotes_zero_literal : Denotes 0.0 0 := by
  have hconvert : (0.0 : Float) = (0 : ℕ).toUInt64.toFloat := by decide +kernel
  have hrounded : rounded (0 : ℕ) = 0 := rounded_natCast (by decide)
  rw [hconvert, ← hrounded]
  exact denotes_toFloat (by decide)

theorem rounded_le_one {f n : ℕ} (hle : f ≤ n) (hn : n < 2 ^ 64) :
    rounded (rounded f / rounded n) ≤ 1 := by
  rcases Nat.eq_zero_or_pos f with rfl | hf
  · simp
  · obtain ⟨hlow, hhigh⟩ := rounded_div_rounded_bounds hf hle hn
    exact rounded_le_zpow ((zpow_two_pos _).trans_le hlow) (e := 0) hhigh

/-- The product with one hundred is not rounded above it. -/
theorem rounded_mul_hundred_le {y : ℚ} (hnonneg : 0 ≤ y) (hle : y ≤ 1) :
    rounded (y * 100) ≤ 100 := by
  rcases hnonneg.eq_or_lt with rfl | hpos
  · simp
  · have hmono : rounded (y * 100) ≤ rounded (100 : ℕ) :=
      rounded_mono (mul_pos hpos (by norm_num)) (by push_cast; linarith)
    rwa [rounded_natCast (by decide), Nat.cast_ofNat] at hmono

theorem rounded_nonneg {y : ℚ} (h : 0 ≤ y) : 0 ≤ rounded y := by
  rcases h.eq_or_lt with rfl | hpos
  · rw [rounded_zero]
  · exact (rounded_pos hpos).le

/-- The failure rate of deliveries that can be counted. -/
theorem exists_denotes_failureRate {s : Stats} (h : s.successes + s.failures < 2 ^ 64) :
    ∃ rate, Denotes s.failureRate rate ∧ 0 ≤ rate ∧ rate ≤ 100 := by
  rcases Nat.eq_zero_or_pos (s.successes + s.failures) with hzero | hpos
  · have hrate : s.failureRate = 0.0 := if_pos hzero
    exact ⟨0, hrate ▸ denotes_zero_literal, le_rfl, by norm_num⟩
  · have hnonneg : (0 : ℚ) ≤ rounded s.failures / rounded (s.successes + s.failures : ℕ) :=
      div_nonneg (rounded_nonneg (Nat.cast_nonneg _)) (rounded_nonneg (Nat.cast_nonneg _))
    have hquotient := rounded_nonneg hnonneg
    exact ⟨_, denotes_failureRate hpos h,
      rounded_nonneg (mul_nonneg hquotient (by norm_num)),
      rounded_mul_hundred_le hquotient (rounded_le_one (Nat.le_add_left ..) h)⟩

theorem failureRate_nonneg {s : Stats} (h : s.successes + s.failures < 2 ^ 64) :
    0.0 ≤ s.failureRate := by
  obtain ⟨rate, hrate, hnonneg, -⟩ := exists_denotes_failureRate h
  exact (denotes_zero_literal.le_iff hrate).2 hnonneg

theorem failureRate_le_hundred {s : Stats} (h : s.successes + s.failures < 2 ^ 64) :
    s.failureRate ≤ 100.0 := by
  obtain ⟨rate, hrate, -, hle⟩ := exists_denotes_failureRate h
  exact (hrate.le_iff denotes_hundred).2 hle

/-- No failure rate exceeds a threshold of one hundred percent or more. -/
theorem isUnhealthy_eq_false {p : HealthPolicy} (hp : 100.0 ≤ p.threshold) {s : Stats}
    (h : s.successes + s.failures < 2 ^ 64) : p.isUnhealthy s.failureRate = false := by
  obtain ⟨rate, hrate, -, hle⟩ := exists_denotes_failureRate h
  exact decide_eq_false (denotes_hundred.not_lt_of_le (by norm_num) hrate hle hp)

/-! ## Verdicts -/

/-- Whether a verdict finds a webhook healthy, at a rate that is a percentage. -/
structure Verdict.Unflagged (v : Verdict) : Prop where
  healthy : v.action = .healthy
  nonneg : 0.0 ≤ v.failureRate
  le_hundred : v.failureRate ≤ 100.0

/-- The edit of the store that a step is. -/
def WatchEvent.edit? : WatchEvent → Option StoreEdit
  | .traffic e => e.edit?
  | .asked _ | .answered => none

namespace Watch

variable {t u : Watch} {e : WatchEvent} {events : List WatchEvent}

/-- Whether the deliveries of every window can be counted. -/
def Countable (t : Watch) : Prop :=
  ∀ key < t.traffic.relay.ledger.records.length,
    (Traffic.outcomesOn key (t.traffic.settled.drop (opening key t.closings))).length < 2 ^ 64

theorem Accounted.countable (h : t.Accounted) (hcountable : t.Countable) {key : StatsKey}
    (hkey : key < t.traffic.relay.ledger.records.length) :
    (t.traffic.relay.ledger.get key).successes + (t.traffic.relay.ledger.get key).failures
      < 2 ^ 64 := by
  obtain ⟨time, htime⟩ := h.tallies key hkey
  have hcount := hcountable key hkey
  rw [List.length_eq_countP_add_countP Outcome.isSuccess] at hcount
  simpa [htime, Stats.tally_startingAt] using hcount

theorem length_settled_run {r : Relay} (hrun : (start r).run? events = some t) :
    t.traffic.settled.length ≤ events.length := by
  refine Run.induction_on (motive := fun events m => m.traffic.settled.length ≤ events.length)
    (Nat.le_refl 0) ?_ hrun
  intro events m e n _ hm hstep
  have hone : n.traffic.settled.length ≤ m.traffic.settled.length + 1 := by
    cases step_of_step? hstep with
    | passed e u hpassed =>
      cases Traffic.step_of_step? hpassed with
      | settled => exact Nat.le_of_eq List.length_append
      | edited | dropped | begun | refreshBegan | evaluated | readFailed | storeRead | swapped =>
        exact Nat.le_succ _
    | asked | answered => exact Nat.le_succ _
  rw [List.length_append]
  exact Nat.le_trans hone (Nat.succ_le_succ hm)

/-- In a run that is not too long the deliveries of every window can be counted. -/
theorem always_countable {r : Relay} (h : events.length < 2 ^ 64) :
    Run.Always step? Countable (start r) events := by
  rintro front back m rfl hm key -
  have hcounted : (Traffic.outcomesOn key (m.traffic.settled.drop (opening key m.closings))).length
      ≤ m.traffic.settled.length := by
    rw [Traffic.outcomesOn, List.length_map]
    exact Nat.le_trans (List.length_filter_le ..) (List.drop_sublist ..).length_le
  have hfront : front.length ≤ (front ++ back).length := by
    rw [List.length_append]
    exact Nat.le_add_right ..
  exact Nat.lt_of_le_of_lt (hcounted.trans ((length_settled_run hm).trans hfront)) h

/-- What holds while no webhook is flagged: nothing waits for the store, and edits are all that
changed it. -/
structure Calm (policy : HealthPolicy) (repository : Repository) (t : Watch) : Prop where
  policy_eq : t.traffic.relay.policy = policy
  idle : t.asking = none
  unflagged : ∀ c ∈ t.closings, c.verdict.Unflagged
  repository_eq : t.traffic.relay.repository = repository

theorem calm_start {policy : HealthPolicy} {streamCapacity : Nat} {repository : Repository} :
    Calm policy repository (start (.ofRepository policy streamCapacity repository)) where
  policy_eq := rfl
  idle := rfl
  unflagged := by simp [start]
  repository_eq := rfl

/-- The window of a webhook that is not flagged. -/
theorem unflagged_closing {t : Traffic} (hpolicy : 100.0 ≤ t.relay.policy.threshold) {e : Entry}
    (hcount : (t.relay.ledger.get e.stats).successes + (t.relay.ledger.get e.stats).failures
      < 2 ^ 64) (judged : Nat) :
    (closing t e (t.relay.ledger.get e.stats).failureRate judged).verdict.Unflagged where
  healthy := by
    simp [closing, Checkup.act, isUnhealthy_eq_false hpolicy hcount]
  nonneg := failureRate_nonneg hcount
  le_hundred := failureRate_le_hundred hcount

theorem calm_step {policy : HealthPolicy} (hpolicy : 100.0 ≤ policy.threshold)
    {repository : Repository} (haccounted : t.Accounted) (hcountable : t.Countable)
    (h : Calm policy repository t) (hstep : t.Step e u) :
    Calm policy (e.edit?.toList.foldl Repository.edit repository) u := by
  obtain ⟨rfl, hidle, hunflagged, rfl⟩ := h
  -- The record of an entry that is still to be evaluated can be counted.
  have hcount : ∀ f x, t.traffic.refreshing = some f → x ∈ f.pending →
      (t.traffic.relay.ledger.get x.stats).successes
        + (t.traffic.relay.ledger.get x.stats).failures < 2 ^ 64 := fun f x hf hx =>
    haccounted.countable hcountable
      (haccounted.sound.separated.lt_length x ((haccounted.sound.refreshing f hf).2 x hx))
  cases hstep with
  | passed e v hpassed =>
    have hv := Traffic.step_of_step? hpassed
    refine ⟨Traffic.policy_step hv, hidle, ?unflagged, ?repository⟩
    case unflagged =>
      intro c hc
      rcases List.mem_append.1 hc with hc | hc
      · exact hunflagged c hc
      · rcases closed_cases t.traffic e with ⟨hclosed, -⟩ | ⟨x, f, rfl, hf, -, hclosed⟩
        · rw [hclosed] at hc
          cases hc
        · rw [hclosed, List.mem_singleton] at hc
          subst hc
          cases hv with
          | begun _ feed event hevent => cases hevent
          | evaluated _ g hg hpending =>
            exact unflagged_closing hpolicy (hcount g x hg hpending) _
    case repository =>
      rcases Traffic.repository_step hv with
        ⟨edit, hedit, hsame⟩ | ⟨hedit, hsame⟩ | ⟨x, f, s, -, hf, hpending, hdisables, -⟩
      · simp [WatchEvent.edit?, hedit, hsame]
      · simp [WatchEvent.edit?, hedit, hsame]
      · have hunhealthy := hdisables.unhealthy
        rw [Traffic.ledger_checkup, isUnhealthy_eq_false hpolicy (hcount f x hf hpending)]
          at hunhealthy
        cases hunhealthy
  | asked x f rate hf hpending hjudged hunhealthy =>
    obtain ⟨-, rfl⟩ := Checkup.judge?_eq_some_iff.1 hjudged
    rw [isUnhealthy_eq_false hpolicy (hcount f x hf hpending)] at hunhealthy
    cases hunhealthy
  | answered a f hasking =>
    rw [hidle] at hasking
    cases hasking

/-- A threshold of one hundred percent or more switches flagging off. The failure rate of
deliveries that can be counted is at least zero and at most one hundred. In every run in which
the deliveries of each window can be counted every verdict is then that the webhook is healthy,
no evaluation ever asks the store, and registrations are all that changes the store, whether or
not webhooks are to be switched off. -/
theorem never_flagged {policy : HealthPolicy} (hpolicy : 100.0 ≤ policy.threshold)
    {streamCapacity : Nat} {repository : Repository} {events : List WatchEvent} {t : Watch}
    (hrun : (start (.ofRepository policy streamCapacity repository)).run? events = some t)
    (hcountable : Run.Always step? Countable
      (start (.ofRepository policy streamCapacity repository)) events) :
    (∀ s : Stats, s.successes + s.failures < 2 ^ 64 →
      0.0 ≤ s.failureRate ∧ s.failureRate ≤ 100.0 ∧ policy.isUnhealthy s.failureRate = false) ∧
    (∀ c ∈ t.closings, c.verdict.action = .healthy ∧
      0.0 ≤ c.verdict.failureRate ∧ c.verdict.failureRate ≤ 100.0) ∧
    t.asking = none ∧
    t.traffic.relay.repository = (events.filterMap (·.edit?)).foldl Repository.edit repository := by
  have hcalm : Calm policy ((events.filterMap (·.edit?)).foldl Repository.edit repository) t := by
    refine Run.induction_on
      (motive := fun events m => Run.Always step? Countable
          (start (.ofRepository policy streamCapacity repository)) events →
        Calm policy ((events.filterMap (·.edit?)).foldl Repository.edit repository) m)
      (fun _ => calm_start) ?_ hrun hcountable
    intro events m e n hm hcalm hstep halways
    have haccounted : m.Accounted :=
      accounted_run (accounted_start (Relay.separated_ofRepository ..) rfl) hm
    have hbefore := halways.of_append
    have hnext := calm_step hpolicy haccounted (hbefore.last hm) (hcalm hbefore)
      (step_of_step? hstep)
    have hone : [e].filterMap (·.edit?) = e.edit?.toList := by
      cases hedit : e.edit? <;> simp [hedit]
    rw [List.filterMap_append, List.foldl_append, hone]
    exact hnext
  exact ⟨fun s hs => ⟨failureRate_nonneg hs, failureRate_le_hundred hs,
      isUnhealthy_eq_false hpolicy hs⟩,
    fun c hc => ⟨(hcalm.unflagged c hc).healthy, (hcalm.unflagged c hc).nonneg,
      (hcalm.unflagged c hc).le_hundred⟩, hcalm.idle, hcalm.repository_eq⟩

/-- The only delivery of a window fails, and the webhook is healthy at one hundred percent. -/
theorem never_flagged_at_hundred :
    let hook := Subscription.new ⟨1⟩ "http://[::1]/"
    let policy := { HealthPolicy.default with autoDisable := true }
    let first := start (.ofRepository policy 16 (.ofStore (.ofList [hook])))
    let events : List TrafficEvent := [.refreshBegan 0, .storeRead, .swapped 0,
      .posted (.new "1" "SAFE_CREATED" ""), .settled 0 ⟨Http.unreachable, 10⟩,
      .refreshBegan 60000, .evaluated ⟨hook, 0⟩]
    ∃ t, first.run? (events.map .traffic) = some t ∧
      t.closings.map (·.verdict.failureRate) = [100.0] ∧
      (∀ c ∈ t.closings, c.verdict.action = .healthy) ∧
      t.traffic.relay.repository = .ofStore (.ofList [hook]) := by
  intro hook policy first events
  have hseen : (first.run? (events.map .traffic)).map
      (fun t => t.closings.map (·.verdict.failureRate)) = some [100.0] := by decide +kernel
  obtain ⟨t, hrun, hrates⟩ := Option.map_eq_some_iff.1 hseen
  obtain ⟨-, hverdicts, -, hrepository⟩ := never_flagged (by decide +kernel) hrun
    (always_countable (by decide))
  exact ⟨t, hrun, hrates, fun c hc => (hverdicts c hc).1, hrepository⟩

end Watch
end WebhookRelay

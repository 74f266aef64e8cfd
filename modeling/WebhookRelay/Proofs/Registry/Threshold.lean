-- SUMMARY: For which shares of failures a webhook is unhealthy when the threshold is a whole percentage.
import WebhookRelay.Proofs.Double.Arithmetic
import WebhookRelay.Proofs.Registry.Verdicts

/-!
# The threshold

The failure rate is computed in double precision, with two roundings, and compared with the
threshold. For a threshold of `t` percent the outcome is that of comparing the exact share
of failures with `tippingPoint t`, which differs from `t / 100` by less than one part in
`2 ^ 46`: the comparison is exact for windows of up to `2 ^ 46` deliveries, unless the share
of failures is exactly `t` percent. Then it is right for all but five of the thresholds.
-/

namespace WebhookRelay

open Double

/-! ## The failure rate -/

theorem denotes_hundred : Denotes 100.0 100 := by
  have hconvert : (100.0 : Float) = (100 : ℕ).toUInt64.toFloat := by decide +kernel
  have hrounded : rounded (100 : ℕ) = 100 := rounded_natCast (by decide)
  rw [hconvert, ← hrounded]
  exact denotes_toFloat (by decide)

/-- Converted to doubles, a part is at least a minute share of the whole, and at most all of
it. -/
theorem rounded_div_rounded_bounds {f n : ℕ} (hf : 0 < f) (hle : f ≤ n) (hn : n < 2 ^ 64) :
    2 ^ (-64 : ℤ) ≤ rounded f / rounded n ∧ rounded f / rounded n ≤ 1 := by
  have hf' : (1 : ℚ) ≤ f := by exact_mod_cast hf
  have hle' : (f : ℚ) ≤ n := by exact_mod_cast hle
  have hlow : 1 ≤ rounded f := zpow_le_rounded (e := 0) hf'
  have hmono : rounded f ≤ rounded n := rounded_mono (by linarith) hle'
  have hhigh : rounded n ≤ 2 ^ (64 : ℤ) :=
    rounded_le_zpow (by linarith) (by exact_mod_cast hn.le)
  have hpos : 0 < rounded n := by linarith
  constructor
  · rw [le_div_iff₀ hpos, zpow_neg, inv_mul_le_iff₀ (zpow_two_pos _)]
    nlinarith [zpow_two_pos 64]
  · rwa [div_le_one hpos]

theorem moderate_of_bounds {y : ℚ} (hlow : 2 ^ (-1020 : ℤ) ≤ y) (hhigh : y ≤ 100) :
    Moderate y where
  low := hlow
  high := by
    have hpower : (2 : ℚ) ^ (7 : ℤ) ≤ 2 ^ (1020 : ℤ) := zpow_le_zpow_right₀ one_le_two (by decide)
    exact (hhigh.trans (by norm_num)).trans hpower

/-- The failure rate of a window of fewer than `2 ^ 64` deliveries. -/
theorem denotes_failureRate {s : Stats} (hpos : 0 < s.successes + s.failures)
    (hlt : s.successes + s.failures < 2 ^ 64) :
    Denotes s.failureRate
      (rounded (rounded (rounded s.failures / rounded (s.successes + s.failures : ℕ)) * 100)) := by
  have hn : (0 : ℚ) < (s.successes + s.failures : ℕ) := by exact_mod_cast hpos
  have hf := denotes_toFloat (Nat.lt_of_le_of_lt (Nat.le_add_left s.failures _) hlt)
  set q := rounded s.failures / rounded (s.successes + s.failures : ℕ) with hq
  have hbounds : q ≠ 0 → 2 ^ (-64 : ℤ) ≤ q ∧ q ≤ 1 := by
    intro hne
    refine rounded_div_rounded_bounds (Nat.pos_of_ne_zero ?_) (Nat.le_add_left ..) hlt
    intro hzero
    simp [hq, hzero] at hne
  have hmoderate : q ≠ 0 → Moderate q := by
    intro hne
    obtain ⟨hlow, hhigh⟩ := hbounds hne
    have hpower : (2 : ℚ) ^ (-1020 : ℤ) ≤ 2 ^ (-64 : ℤ) :=
      zpow_le_zpow_right₀ one_le_two (by decide)
    exact moderate_of_bounds (hpower.trans hlow) (by linarith)
  have hquotient := hf.div (denotes_toFloat hlt) (rounded_pos hn).ne' hmoderate
  rw [Stats.failureRate, if_neg hpos.ne']
  refine hquotient.mul denotes_hundred fun hne => ?_
  have hq0 : q ≠ 0 := by
    intro hzero
    rw [← hq, hzero, rounded_zero, zero_mul] at hne
    exact hne rfl
  have hone : rounded q ≤ 1 := rounded_le_zpow (hmoderate hq0).pos (e := 0) (hbounds hq0).2
  have hlow := (hmoderate hq0).rounded.low
  have hpos' := (hmoderate hq0).rounded.pos
  exact moderate_of_bounds (hlow.trans (by linarith)) (by linarith)

/-- Counters below `2 ^ 53` are converted exactly. -/
theorem denotes_failureRate_of_lt {s : Stats} (hpos : 0 < s.successes + s.failures)
    (hlt : s.successes + s.failures < 2 ^ 53) :
    Denotes s.failureRate
      (rounded (rounded (s.failures / (s.successes + s.failures : ℕ)) * 100)) := by
  have hrate := denotes_failureRate hpos (hlt.trans (by decide))
  rwa [rounded_natCast (Nat.lt_of_le_of_lt (Nat.le_add_left s.failures _) hlt),
    rounded_natCast hlt] at hrate

/-! ## Tipping points -/

/-- By how many binary places a percentage is shifted to have its first digit before the
point. -/
def places (t : ℕ) : ℕ :=
  if 100 ≤ t * 2 ^ (6 - t.log2) then 6 - t.log2 else 7 - t.log2

/-- The mantissa of the greatest double that gives at most `t` when it is multiplied by one
hundred. -/
def lastMantissa (t : ℕ) : ℕ :=
  (t * 2 ^ 53 + 2 ^ t.log2) * 2 ^ places t / 200

/-- The share of failures that must be exceeded for a threshold of `t` percent. -/
def tippingPoint (t : ℕ) : ℚ :=
  if t = 0 then 0 else (lastMantissa t + 1 / 2) / 2 ^ (52 + places t)

theorem lastMantissa_bounds : ∀ t ≤ 100, 0 < t →
    2 ^ 52 ≤ lastMantissa t ∧ lastMantissa t < 2 ^ 53 := by
  decide +kernel

theorem isMantissa_lastMantissa {t : ℕ} (ht : t ≤ 100) (hpos : 0 < t) :
    IsMantissa (lastMantissa t) where
  low := by exact_mod_cast (lastMantissa_bounds t ht hpos).1
  high := by exact_mod_cast (lastMantissa_bounds t ht hpos).2

/-- The last double that gives at most `t` is the last one below this bound. -/
theorem lastMantissa_le (t : ℕ) :
    (lastMantissa t : ℚ) / 2 ^ (52 + places t) ≤ (t + 2 ^ t.log2 / 2 ^ 53) / 100 ∧
      ((t : ℚ) + 2 ^ t.log2 / 2 ^ 53) / 100 < (lastMantissa t + 1) / 2 ^ (52 + places t) := by
  have hdiv := Nat.div_add_mod ((t * 2 ^ 53 + 2 ^ t.log2) * 2 ^ places t) 200
  have hmod := Nat.mod_lt ((t * 2 ^ 53 + 2 ^ t.log2) * 2 ^ places t) (by decide : 200 > 0)
  have hle : 200 * lastMantissa t ≤ (t * 2 ^ 53 + 2 ^ t.log2) * 2 ^ places t := by
    unfold lastMantissa
    omega
  have hlt : (t * 2 ^ 53 + 2 ^ t.log2) * 2 ^ places t < 200 * (lastMantissa t + 1) := by
    unfold lastMantissa
    omega
  have hle' : (200 : ℚ) * lastMantissa t ≤ (t * 2 ^ 53 + 2 ^ t.log2) * 2 ^ places t := by
    exact_mod_cast hle
  have hlt' : ((t : ℚ) * 2 ^ 53 + 2 ^ t.log2) * 2 ^ places t < 200 * (lastMantissa t + 1) := by
    exact_mod_cast hlt
  have hpos : (0 : ℚ) < 2 ^ places t := by positivity
  constructor
  · rw [div_le_div_iff₀ (by positivity) (by norm_num), pow_add]
    linarith
  · rw [div_lt_div_iff₀ (by norm_num) (by positivity), pow_add]
    linarith

/-- The mantissa of a whole percentage is even, so nothing is rounded up from halfway to the
next double. -/
theorem lt_rounded_iff_of_percentage {t : ℕ} (ht : t ≤ 100) (hpos : 0 < t) {y : ℚ}
    (hy : 0 < y) : (t : ℚ) < rounded y ↔ (t : ℚ) + 2 ^ t.log2 / 2 ^ 53 < y := by
  have hlog : t.log2 < 7 := (Nat.log2_lt hpos.ne').2 (by omega)
  have hm := isMantissa_mul_two_pow hpos (by omega : t < 2 ^ 53)
  have heven : (t * 2 ^ (52 - t.log2) : ℕ) % (2 : ℤ) ≠ 1 := by
    have hdvd : 2 ∣ t * 2 ^ (52 - t.log2) :=
      (dvd_pow_self 2 (by omega : 52 - t.log2 ≠ 0)).mul_left t
    omega
  have hunit : (2 : ℚ) ^ (-(52 - t.log2 : ℕ) : ℤ) / 2 = 2 ^ t.log2 / 2 ^ 53 := by
    rw [Nat.cast_sub (by omega), neg_sub, zpow_sub₀ two_ne_zero, zpow_natCast]
    norm_num
    ring
  have hvalue := (natCast_eq_mul_zpow t (52 - t.log2)).symm
  have hnext := lt_rounded_iff hm (-(52 - t.log2 : ℕ) : ℤ) hy
  rw [Int.cast_natCast, add_mul, hvalue, one_div_mul_eq_div, hunit] at hnext
  rw [hnext]
  exact ⟨fun h => h.resolve_right fun h => heven h.2, .inl⟩

theorem div_two_pow_eq (z : ℚ) (k : ℕ) : z / 2 ^ k = z * 2 ^ (-k : ℤ) := by
  rw [zpow_neg, zpow_natCast, div_eq_mul_inv]

/-- Above which quotient of doubles the product with one hundred exceeds the threshold. -/
theorem lt_rounded_mul_hundred_iff {t : ℕ} (ht : t ≤ 100) (hpos : 0 < t) {y : ℚ} (hy : 0 < y) :
    (t : ℚ) < rounded (rounded y * 100) ↔
      (lastMantissa t : ℚ) / 2 ^ (52 + places t) < rounded y := by
  have hy' : 0 < rounded y * 100 := mul_pos (rounded_pos hy) (by norm_num)
  obtain ⟨hle, hlt⟩ := lastMantissa_le t
  rw [lt_rounded_iff_of_percentage ht hpos hy', ← div_lt_iff₀ (by norm_num)]
  constructor
  · exact fun h => hle.trans_lt h
  · intro h
    obtain ⟨m, e, hm, heq⟩ := exists_rounded_eq hy
    have hlast := isMantissa_lastMantissa ht hpos
    rw [heq, div_two_pow_eq] at h
    rw [div_two_pow_eq _ (52 + places t)] at hlt
    rw [heq]
    exact hlt.trans_le (by exact_mod_cast add_one_mul_zpow_le hlast hm (by exact_mod_cast h))

/-- The comparison of the doubles is one of the exact share of failures. -/
theorem lt_rounded_share_iff {t : ℕ} (ht : t ≤ 100) {f n : ℕ} (hn : 0 < n) (hf : f < 2 ^ 53) :
    (t : ℚ) < rounded (rounded (f / n) * 100) ↔ tippingPoint t < f / n := by
  have hn' : (0 : ℚ) < n := by exact_mod_cast hn
  have hnonneg : 0 ≤ tippingPoint t := by
    unfold tippingPoint
    split_ifs <;> positivity
  rcases Nat.eq_zero_or_pos f with rfl | hf'
  · have hneg : ¬ (t : ℚ) < 0 := not_lt.2 (Nat.cast_nonneg t)
    simp [hneg, not_lt.2 hnonneg]
  have hshare : (0 : ℚ) < f / n := div_pos (by exact_mod_cast hf') hn'
  rcases Nat.eq_zero_or_pos t with rfl | hpos
  · have hrate : 0 < rounded (rounded (f / n : ℚ) * 100) :=
      rounded_pos (mul_pos (rounded_pos hshare) (by norm_num))
    simp [tippingPoint, hshare, hrate]
  · have hlast := isMantissa_lastMantissa ht hpos
    rw [lt_rounded_mul_hundred_iff ht hpos hshare, tippingPoint, if_neg hpos.ne']
    have hnext := lt_rounded_iff hlast (-(52 + places t : ℕ) : ℤ) hshare
    rw [← div_two_pow_eq, ← div_two_pow_eq, Int.cast_natCast] at hnext
    rw [hnext]
    exact ⟨fun h => h.resolve_right fun h =>
      div_ne_midpoint hf' hf hn hlast (52 + places t) h.1, .inl⟩

/-! ## How near tipping points are -/

/-- The percentages whose tipping point is below the percentage itself. -/
def early : List ℕ :=
  [7, 14, 28, 55, 56]

/-- Where the tipping points are, over their common denominators. -/
theorem lastMantissa_near : ∀ t ≤ 100, 0 < t →
    let point := 100 * (2 * lastMantissa t + 1)
    let percentage := t * 2 ^ (53 + places t)
    point * 2 ^ 46 < percentage * 2 ^ 46 + 2 ^ (53 + places t) ∧
      percentage * 2 ^ 46 < point * 2 ^ 46 + 2 ^ (53 + places t) ∧
      (point < percentage ↔ t ∈ early) := by
  decide +kernel

theorem tippingPoint_eq {t : ℕ} (hpos : 0 < t) :
    tippingPoint t = (100 * (2 * lastMantissa t + 1) : ℕ) / (100 * 2 ^ (53 + places t)) := by
  have hpower : (2 : ℚ) ^ (53 + places t) = 2 * 2 ^ (52 + places t) := by
    rw [← pow_succ', show 52 + places t + 1 = 53 + places t by omega]
  rw [tippingPoint, if_neg hpos.ne', hpower]
  push_cast
  field_simp

theorem tippingPoint_near {t : ℕ} (ht : t ≤ 100) :
    |tippingPoint t - t / 100| < 1 / (100 * 2 ^ 46) := by
  rcases Nat.eq_zero_or_pos t with rfl | hpos
  · simp [tippingPoint]
  · obtain ⟨hhigh, hlow, -⟩ := lastMantissa_near t ht hpos
    rw [tippingPoint_eq hpos]
    generalize 100 * (2 * lastMantissa t + 1) = point at hhigh hlow
    have hhigh' : (point : ℚ) * 2 ^ 46
        < t * 2 ^ (53 + places t) * 2 ^ 46 + 2 ^ (53 + places t) := by exact_mod_cast hhigh
    have hlow' : (t : ℚ) * 2 ^ (53 + places t) * 2 ^ 46
        < point * 2 ^ 46 + 2 ^ (53 + places t) := by exact_mod_cast hlow
    have hpower : (0 : ℚ) < 2 ^ (53 + places t) := by positivity
    have hdiff : (point : ℚ) / (100 * 2 ^ (53 + places t)) - t / 100
        = (point - t * 2 ^ (53 + places t)) / (100 * 2 ^ (53 + places t)) := by
      field_simp
    rw [hdiff, abs_div, abs_of_pos (by positivity : (0 : ℚ) < 100 * 2 ^ (53 + places t)),
      div_lt_div_iff₀ (by positivity) (by norm_num), one_mul]
    have habs : |(point : ℚ) - t * 2 ^ (53 + places t)| * 2 ^ 46 < 2 ^ (53 + places t) := by
      rw [← abs_of_pos (by norm_num : (0 : ℚ) < 2 ^ 46), ← abs_mul, abs_lt]
      constructor <;> linarith
    linarith

theorem tippingPoint_lt_iff {t : ℕ} (ht : t ≤ 100) : tippingPoint t < t / 100 ↔ t ∈ early := by
  rcases Nat.eq_zero_or_pos t with rfl | hpos
  · simp [tippingPoint, early]
  · obtain ⟨-, -, hearly⟩ := lastMantissa_near t ht hpos
    rw [tippingPoint_eq hpos, ← hearly, div_lt_div_iff₀ (by positivity) (by norm_num),
      mul_comm ((_ : ℕ) : ℚ), ← mul_assoc, mul_comm (t : ℚ), mul_assoc,
      mul_lt_mul_iff_right₀ (by norm_num)]
    exact_mod_cast Iff.rfl

/-- For windows that are not too long the comparison is exact, up to ties. -/
theorem tippingPoint_lt_share_iff {t : ℕ} (ht : t ≤ 100) {f n : ℕ} (hn : 0 < n)
    (hn' : n ≤ 2 ^ 46) :
    tippingPoint t < f / n ↔ t * n < 100 * f ∨ t * n = 100 * f ∧ t ∈ early := by
  have hpos : (0 : ℚ) < n := by exact_mod_cast hn
  have hlen : (n : ℚ) ≤ 2 ^ 46 := by exact_mod_cast hn'
  obtain ⟨hlow, hhigh⟩ := abs_lt.1 (tippingPoint_near ht)
  -- Shares that differ from the percentage differ by more than its tipping point does.
  have hunit : (1 : ℚ) / (100 * 2 ^ 46) ≤ 1 / (100 * n) := by
    apply one_div_le_one_div_of_le (by positivity)
    linarith
  have hdiff : (f : ℚ) / n - t / 100 = (100 * f - t * n) * (1 / (100 * n)) := by
    field_simp
  have hstep : (0 : ℚ) < 1 / (100 * n) := by positivity
  rcases lt_trichotomy (t * n) (100 * f) with hlt | heq | hgt
  · have hle : (t : ℚ) * n + 1 ≤ 100 * f := by exact_mod_cast hlt
    refine iff_of_true ?_ (.inl hlt)
    nlinarith
  · have heq' : (t : ℚ) * n = 100 * f := by exact_mod_cast heq
    have hshare : (f : ℚ) / n = t / 100 := by
      rw [div_eq_div_iff hpos.ne' (by norm_num)]
      linarith
    rw [hshare, tippingPoint_lt_iff ht]
    simp [heq]
  · have hle : 100 * (f : ℚ) + 1 ≤ t * n := by exact_mod_cast hgt
    refine iff_of_false (not_lt.2 ?_) (by omega)
    nlinarith

/-! ## The verdict -/

theorem denotes_ofNat {t : ℕ} (ht : t ≤ 100) : Denotes (Float.ofNat t) t := by
  have hconvert : ∀ t ≤ 100, Float.ofNat t = t.toUInt64.toFloat := by decide +kernel
  have hrounded : rounded t = t := rounded_natCast (by omega)
  rw [hconvert t ht, ← hrounded]
  exact denotes_toFloat (by omega)

theorem isUnhealthy_iff {p : HealthPolicy} {t : ℕ} (ht : t ≤ 100)
    (hp : p.threshold = Float.ofNat t) {s : Stats} (hpos : 0 < s.successes + s.failures)
    (hlt : s.successes + s.failures < 2 ^ 53) :
    p.isUnhealthy s.failureRate = true ↔
      tippingPoint t < s.failures / (s.successes + s.failures : ℕ) := by
  rw [HealthPolicy.isUnhealthy, decide_eq_true_iff, hp,
    (denotes_ofNat ht).lt_iff (denotes_failureRate_of_lt hpos hlt)]
  exact lt_rounded_share_iff ht hpos (Nat.lt_of_le_of_lt (Nat.le_add_left ..) hlt)

/-- For a threshold of a whole percentage a webhook that is due has one verdict, which is
that it is unhealthy exactly when the share of failures exceeds the tipping point of the
percentage. The two are so near to each other that for windows of up to `2 ^ 46` deliveries
this is to exceed the percentage itself, except that five percentages are exceeded already
when they are met. -/
theorem unhealthy_iff_share {p : HealthPolicy} {t : ℕ} (ht : t ≤ 100)
    (hp : p.threshold = Float.ofNat t) (now : Time) (repository : Repository) {l : Ledger}
    {entries : List Entry} (hids : (entries.map (·.id)).Nodup)
    (hstats : (entries.map (·.stats)).Nodup) (hkeys : ∀ e ∈ entries, e.stats < l.records.length)
    {e : Entry} (he : e ∈ entries) (hdue : Checkup.isDue p now l e = true)
    (hpos : 0 < (l.get e.stats).successes + (l.get e.stats).failures)
    (hlt : (l.get e.stats).successes + (l.get e.stats).failures < 2 ^ 53) :
    let verdicts := (checkHealth p now repository l entries).verdicts
    let f := (l.get e.stats).failures
    let n := (l.get e.stats).successes + (l.get e.stats).failures
    |tippingPoint t - t / 100| < 1 / (100 * 2 ^ 46) ∧
    (∃ v ∈ verdicts, v.webhookId = e.id) ∧
    ∀ v ∈ verdicts, v.webhookId = e.id →
      (v.action ≠ .healthy ↔ tippingPoint t < f / n) ∧
      (n ≤ 2 ^ 46 → (v.action ≠ .healthy ↔
        t * n < 100 * f ∨ t * n = 100 * f ∧ t ∈ [7, 14, 28, 55, 56])) := by
  intro verdicts f n
  have hverdicts : verdicts = _ := verdicts_checkHealth p now repository hkeys hids hstats
  rw [hverdicts]
  refine ⟨tippingPoint_near ht, ?_, ?_⟩
  · exact ⟨_, List.mem_map_of_mem (List.mem_filter.2 ⟨he, hdue⟩), rfl⟩
  · intro v hv hid
    obtain ⟨x, hx, rfl⟩ := List.mem_map.1 hv
    obtain rfl : x = e := List.inj_on_of_nodup_map hids (List.mem_filter.1 hx).1 he hid
    have haction := (Checkup.actionOf_ne_healthy_iff p repository.deactivateFault
      (repository.store.find? x.id) _).trans (isUnhealthy_iff ht hp hpos hlt)
    exact ⟨haction, fun hn => haction.trans (tippingPoint_lt_share_iff ht hpos hn)⟩

/-- A webhook fails once in one hundred deliveries more than a threshold of seven percent. -/
theorem unhealthy_iff_share_of_eight :
    let hook := Subscription.new ⟨1⟩ "http://[::1]/"
    let c := checkHealth ⟨60000, Float.ofNat 7, true⟩ 60000 (.ofStore (.ofList [hook]))
      ⟨[⟨92, 8, 0⟩]⟩ [⟨hook, 0⟩]
    ∃ v ∈ c.verdicts, v.webhookId = ⟨1⟩ ∧ v.action ≠ .healthy := by
  intro hook c
  obtain ⟨-, ⟨v, hv, hid⟩, hiff⟩ := unhealthy_iff_share (p := ⟨60000, Float.ofNat 7, true⟩)
    (t := 7) (by decide) rfl 60000 (.ofStore (.ofList [hook])) (l := ⟨[⟨92, 8, 0⟩]⟩)
    (by decide : (([⟨hook, 0⟩] : List Entry).map (·.id)).Nodup) (by decide) (by decide)
    (List.mem_singleton.2 rfl) (by decide) (by decide) (by decide)
  exact ⟨v, hv, hid, ((hiff v hv hid).2 (by decide)).2 (.inl (by decide))⟩

/-- Exactly seven failures in one hundred deliveries are more than a threshold of seven
percent: the quotient is rounded up, and its product with one hundred is rounded up again. -/
theorem unhealthy_at_threshold :
    let hook := Subscription.new ⟨1⟩ "http://[::1]/"
    let c := checkHealth ⟨60000, Float.ofNat 7, true⟩ 60000 (.ofStore (.ofList [hook]))
      ⟨[⟨93, 7, 0⟩]⟩ [⟨hook, 0⟩]
    100 * 7 = 7 * (93 + 7) ∧ c.verdicts.map (·.action) = [.disabled] := by
  decide +kernel

end WebhookRelay

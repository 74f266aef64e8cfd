-- SUMMARY: Rounding rational numbers to 53 significant bits, to nearest with ties to even.
import Mathlib.Data.Int.Log
import Mathlib.Data.Nat.Prime.Basic
import Mathlib.Data.Rat.Floor
import Mathlib.Tactic.Linarith
import Mathlib.Tactic.Positivity
import Mathlib.Tactic.Ring

/-!
# Rounding to double precision

`Double.rounded` rounds a positive rational number to 53 significant bits. What is rounded to
is a *normal* number, an integer of 53 bits times a power of two. All that is needed of
rounding is told by when its result exceeds a normal number (`lt_rounded_iff`): when the
number that is rounded is nearer to the next one.

The exponent is not bounded here, so nothing overflows and nothing is subnormal.
-/

namespace WebhookRelay
namespace Double

/-! ## To integers -/

/-- The nearest integer; of two that are equally near, the even one. -/
def nearestEven (z : ℚ) : ℤ :=
  if 1 / 2 < Int.fract z ∨ Int.fract z = 1 / 2 ∧ ⌊z⌋ % 2 = 1 then ⌊z⌋ + 1 else ⌊z⌋

theorem lt_nearestEven_iff (n : ℤ) (z : ℚ) :
    n < nearestEven z ↔ (n : ℚ) + 1 / 2 < z ∨ z = n + 1 / 2 ∧ n % 2 = 1 := by
  have hsplit : (⌊z⌋ : ℚ) + Int.fract z = z := Int.floor_add_fract z
  have hnonneg := Int.fract_nonneg z
  have hlt := Int.fract_lt_one z
  rcases lt_trichotomy n ⌊z⌋ with hn | rfl | hn
  · have hle : (n : ℚ) + 1 ≤ ⌊z⌋ := by exact_mod_cast hn
    have hfloor : ⌊z⌋ ≤ nearestEven z := by
      unfold nearestEven
      split_ifs <;> omega
    exact ⟨fun _ => .inl (by linarith), fun _ => lt_of_lt_of_le hn hfloor⟩
  · have hhalf : (⌊z⌋ : ℚ) + 1 / 2 < z ↔ 1 / 2 < Int.fract z := by
      constructor <;> intro h <;> linarith
    have htie : z = (⌊z⌋ : ℚ) + 1 / 2 ↔ Int.fract z = 1 / 2 := by
      constructor <;> intro h <;> linarith
    rw [hhalf, htie, nearestEven]
    split_ifs with h
    · exact ⟨fun _ => h, fun _ => Int.lt_succ _⟩
    · exact ⟨fun hlt => absurd hlt (lt_irrefl _), fun htrue => absurd htrue h⟩
  · have hle : (⌊z⌋ : ℚ) + 1 ≤ n := by exact_mod_cast hn
    have hceil : nearestEven z ≤ ⌊z⌋ + 1 := by
      unfold nearestEven
      split_ifs <;> omega
    constructor
    · intro h
      omega
    · rintro (h | ⟨h, -⟩) <;> linarith

theorem nearestEven_intCast (n : ℤ) : nearestEven n = n := by
  simp [nearestEven]

theorem le_nearestEven {n : ℤ} {z : ℚ} (h : (n : ℚ) ≤ z) : n ≤ nearestEven z := by
  refine Int.le_of_sub_one_lt ((lt_nearestEven_iff (n - 1) z).2 (.inl ?_))
  push_cast
  linarith

theorem nearestEven_le {n : ℤ} {z : ℚ} (h : z ≤ n) : nearestEven z ≤ n := by
  rw [← not_lt, lt_nearestEven_iff]
  rintro (hlt | ⟨heq, -⟩) <;> linarith

/-! ## Normal numbers -/

/-- Whether an integer has as many bits as a normal number. -/
structure IsMantissa (m : ℤ) : Prop where
  low : 2 ^ 52 ≤ m
  high : m < 2 ^ 53

theorem zpow_two_pos (e : ℤ) : (0 : ℚ) < 2 ^ e :=
  zpow_pos two_pos e

theorem zpow_two_mul (a b : ℤ) : (2 : ℚ) ^ a * 2 ^ b = 2 ^ (a + b) :=
  (zpow_add₀ two_ne_zero a b).symm

theorem zpow_two_succ_le {d e : ℤ} (h : d < e) : (2 : ℚ) ^ d * 2 ≤ 2 ^ e := by
  rw [← zpow_add_one₀ two_ne_zero]
  exact zpow_le_zpow_right₀ one_le_two h

theorem isMantissa_two_pow : IsMantissa (2 ^ 52) :=
  ⟨le_rfl, by norm_num⟩

/-- An integer of fewer bits is filled up to 53 bits. -/
theorem isMantissa_mul_two_pow {n : ℕ} (hn : 0 < n) (h : n < 2 ^ 53) :
    IsMantissa (n * 2 ^ (52 - n.log2) : ℕ) := by
  have hlog : n.log2 ≤ 52 := Nat.lt_succ_iff.1 ((Nat.log2_lt hn.ne').2 h)
  have hlow := Nat.mul_le_mul_right (2 ^ (52 - n.log2)) (Nat.log2_self_le hn.ne')
  have hhigh := Nat.mul_lt_mul_of_pos_right (Nat.lt_log2_self (n := n))
    (Nat.two_pow_pos (52 - n.log2))
  rw [← pow_add, Nat.add_sub_cancel' hlog] at hlow
  rw [← pow_add, show n.log2 + 1 + (52 - n.log2) = 53 by omega] at hhigh
  exact ⟨by exact_mod_cast hlow, by exact_mod_cast hhigh⟩

theorem natCast_eq_mul_zpow (n k : ℕ) : (n : ℚ) = (n * 2 ^ k : ℕ) * 2 ^ (-k : ℤ) := by
  push_cast
  rw [mul_assoc, ← zpow_natCast, zpow_two_mul, add_neg_cancel, zpow_zero, mul_one]

/-- Normal numbers compare by their exponents first. -/
theorem mul_zpow_lt_iff {m n : ℤ} (hm : IsMantissa m) (hn : IsMantissa n) (e f : ℤ) :
    (m : ℚ) * 2 ^ e < n * 2 ^ f ↔ e < f ∨ e = f ∧ m < n := by
  have hmlow : (2 : ℚ) ^ 52 ≤ m := by exact_mod_cast hm.low
  have hmhigh : (m : ℚ) < 2 ^ 53 := by exact_mod_cast hm.high
  have hnlow : (2 : ℚ) ^ 52 ≤ n := by exact_mod_cast hn.low
  have hnhigh : (n : ℚ) < 2 ^ 53 := by exact_mod_cast hn.high
  have hpos := zpow_two_pos e
  have hpos' := zpow_two_pos f
  rcases lt_trichotomy e f with hlt | rfl | hgt
  · have hstep := zpow_two_succ_le hlt
    exact iff_of_true (by nlinarith) (.inl hlt)
  · simp [mul_lt_mul_iff_left₀ hpos]
  · have hstep := zpow_two_succ_le hgt
    refine iff_of_false (by nlinarith) ?_
    rintro (hlt | ⟨rfl, -⟩)
    · exact absurd hlt hgt.asymm
    · exact absurd hgt (lt_irrefl _)

/-- Nothing normal lies between a normal number and the next one. -/
theorem add_one_mul_zpow_le {m n : ℤ} (hm : IsMantissa m) (hn : IsMantissa n) {e f : ℤ}
    (h : (m : ℚ) * 2 ^ e < n * 2 ^ f) : (m + 1) * 2 ^ e ≤ (n : ℚ) * 2 ^ f := by
  have hmhigh : (m : ℚ) + 1 ≤ 2 ^ 53 := by exact_mod_cast hm.high
  have hnlow : (2 : ℚ) ^ 52 ≤ n := by exact_mod_cast hn.low
  have hpos := zpow_two_pos e
  rcases (mul_zpow_lt_iff hm hn e f).1 h with hlt | ⟨rfl, hlt⟩
  · have hstep := zpow_two_succ_le hlt
    nlinarith
  · exact mul_le_mul_of_nonneg_right (by exact_mod_cast hlt) hpos.le

/-- A quotient of integers of at most 53 bits does not lie halfway between normal numbers. -/
theorem div_ne_midpoint {f n : ℕ} (hf : 0 < f) (hf' : f < 2 ^ 53) (hn : 0 < n) {m : ℕ}
    (hm : IsMantissa m) (k : ℕ) : (f : ℚ) / n ≠ (m + 1 / 2) / 2 ^ k := by
  intro h
  have hn' : (n : ℚ) ≠ 0 := by exact_mod_cast hn.ne'
  rw [div_eq_div_iff hn' (by positivity)] at h
  have hnat : f * 2 ^ (k + 1) = (2 * m + 1) * n := by
    have hdouble : (f : ℚ) * 2 ^ (k + 1) = (2 * m + 1) * n := by
      rw [pow_succ]
      linarith
    exact_mod_cast hdouble
  have hcoprime : (2 * m + 1).Coprime (2 ^ (k + 1)) := by
    refine Nat.Coprime.pow_right _ (Nat.coprime_two_right.2 ?_)
    exact odd_two_mul_add_one m
  have hdvd : 2 * m + 1 ∣ f := hcoprime.dvd_of_dvd_mul_right ⟨n, hnat⟩
  have hle := Nat.le_of_dvd hf hdvd
  have hlow : 2 ^ 52 ≤ m := by exact_mod_cast hm.low
  omega

/-- The exponent of a number written with an integral part of 53 bits. -/
def exponent (y : ℚ) : ℤ :=
  Int.log 2 y - 52

/-- A number written with an integral part of 53 bits. -/
def scaled (y : ℚ) : ℚ :=
  y / 2 ^ exponent y

theorem scaled_mul (y : ℚ) : scaled y * 2 ^ exponent y = y :=
  div_mul_cancel₀ _ (zpow_two_pos _).ne'

theorem scaled_bounds {y : ℚ} (hy : 0 < y) : 2 ^ 52 ≤ scaled y ∧ scaled y < 2 ^ 53 := by
  have hlow : (2 : ℚ) ^ Int.log 2 y ≤ y := by exact_mod_cast Int.zpow_log_le_self one_lt_two hy
  have hhigh : y < (2 : ℚ) ^ (Int.log 2 y + 1) := by
    exact_mod_cast Int.lt_zpow_succ_log_self one_lt_two y
  have hpow : (2 : ℚ) ^ Int.log 2 y = 2 ^ 52 * 2 ^ exponent y := by
    rw [exponent, ← zpow_natCast, ← zpow_add₀ two_ne_zero]
    congr 1
    omega
  rw [zpow_add_one₀ two_ne_zero, hpow] at hhigh
  rw [hpow] at hlow
  constructor
  · rwa [scaled, le_div_iff₀ (zpow_two_pos _)]
  · rw [scaled, div_lt_iff₀ (zpow_two_pos _)]
    linarith

theorem exponent_mul_zpow {z : ℚ} (hlow : 2 ^ 52 ≤ z) (hhigh : z < 2 ^ 53) (e : ℤ) :
    exponent (z * 2 ^ e) = e := by
  have hz : (0 : ℚ) < z * 2 ^ e := mul_pos (by linarith) (zpow_two_pos e)
  obtain ⟨hlow', hhigh'⟩ := scaled_bounds hz
  have heq := scaled_mul (z * 2 ^ e)
  rcases lt_trichotomy (exponent (z * 2 ^ e)) e with hlt | heq | hgt
  · have hstep := zpow_two_succ_le hlt
    have hpos := zpow_two_pos (exponent (z * 2 ^ e))
    nlinarith
  · exact heq
  · have hstep := zpow_two_succ_le hgt
    have hpos := zpow_two_pos e
    nlinarith

/-! ## Rounding -/

/-- A number rounded to 53 significant bits. -/
def rounded (y : ℚ) : ℚ :=
  nearestEven (scaled y) * 2 ^ exponent y

@[simp] theorem rounded_zero : rounded 0 = 0 := by
  simp [rounded, scaled, nearestEven]

theorem rounded_mul_zpow {z : ℚ} (hlow : 2 ^ 52 ≤ z) (hhigh : z < 2 ^ 53) (e : ℤ) :
    rounded (z * 2 ^ e) = nearestEven z * 2 ^ e := by
  rw [rounded, scaled, exponent_mul_zpow hlow hhigh, mul_div_cancel_right₀ _ (zpow_two_pos e).ne']

theorem nearestEven_scaled_bounds {y : ℚ} (hy : 0 < y) :
    2 ^ 52 ≤ nearestEven (scaled y) ∧ nearestEven (scaled y) ≤ 2 ^ 53 := by
  obtain ⟨hlow, hhigh⟩ := scaled_bounds hy
  refine ⟨le_nearestEven ?_, nearestEven_le ?_⟩
  · exact_mod_cast hlow
  · exact_mod_cast hhigh.le

/-- A normal number is rounded to itself. -/
theorem rounded_of_isMantissa {m : ℤ} (hm : IsMantissa m) (e : ℤ) :
    rounded (m * 2 ^ e) = m * 2 ^ e := by
  have hlow : (2 : ℚ) ^ 52 ≤ m := by exact_mod_cast hm.low
  have hhigh : (m : ℚ) < 2 ^ 53 := by exact_mod_cast hm.high
  rw [rounded_mul_zpow hlow hhigh, nearestEven_intCast]

/-- An integer of at most 53 bits is rounded to itself. -/
theorem rounded_natCast {n : ℕ} (h : n < 2 ^ 53) : rounded n = n := by
  rcases Nat.eq_zero_or_pos n with rfl | hn
  · simp
  · rw [natCast_eq_mul_zpow n (52 - n.log2)]
    exact_mod_cast rounded_of_isMantissa (isMantissa_mul_two_pow hn h) _

theorem rounded_zpow (e : ℤ) : rounded (2 ^ e) = 2 ^ e := by
  have hscale : (2 : ℚ) ^ e = (2 ^ 52 : ℤ) * 2 ^ (e - 52) := by
    rw [Int.cast_pow, Int.cast_two, ← zpow_natCast, zpow_two_mul]
    congr 1
    omega
  rw [hscale]
  exact rounded_of_isMantissa isMantissa_two_pow _

/-- What a number is rounded to is normal. -/
theorem exists_rounded_eq {y : ℚ} (hy : 0 < y) :
    ∃ m e : ℤ, IsMantissa m ∧ rounded y = m * 2 ^ e := by
  obtain ⟨hlow, hhigh⟩ := nearestEven_scaled_bounds hy
  rcases hhigh.lt_or_eq with hlt | heq
  · exact ⟨_, _, ⟨hlow, hlt⟩, rfl⟩
  · refine ⟨2 ^ 52, exponent y + 1, isMantissa_two_pow, ?_⟩
    rw [rounded, heq, zpow_add_one₀ two_ne_zero]
    push_cast
    ring

/-- The result of rounding exceeds a normal number when the number that is rounded is nearer
to the next one, or as near and the next one is even. -/
theorem lt_rounded_iff {m : ℤ} (hm : IsMantissa m) (e : ℤ) {y : ℚ} (hy : 0 < y) :
    (m : ℚ) * 2 ^ e < rounded y ↔
      (m + 1 / 2) * 2 ^ e < y ∨ y = (m + 1 / 2) * 2 ^ e ∧ m % 2 = 1 := by
  obtain ⟨hlow, hhigh⟩ := scaled_bounds hy
  have hlow' : (2 : ℚ) ^ 52 ≤ nearestEven (scaled y) := by
    exact_mod_cast (nearestEven_scaled_bounds hy).1
  have hhigh' : (nearestEven (scaled y) : ℚ) ≤ 2 ^ 53 := by
    exact_mod_cast (nearestEven_scaled_bounds hy).2
  have hmlow : (2 : ℚ) ^ 52 ≤ m := by exact_mod_cast hm.low
  have hmhigh : (m : ℚ) + 1 ≤ 2 ^ 53 := by exact_mod_cast hm.high
  have heq := scaled_mul y
  have hpos := zpow_two_pos (exponent y)
  have hpos' := zpow_two_pos e
  rcases lt_trichotomy (exponent y) e with hlt | rfl | hgt
  · -- All normal numbers with the lower exponent are below.
    have hstep := zpow_two_succ_le hlt
    have hround : rounded y ≤ m * 2 ^ e := by
      rw [rounded]
      nlinarith
    have hy' : y < (m + 1 / 2) * 2 ^ e := by nlinarith
    exact ⟨fun h => absurd h (not_lt.2 hround), fun h => h.elim
      (fun h => absurd h hy'.le.not_gt) fun h => absurd h.1 hy'.ne⟩
  · have hhalf : (m + 1 / 2) * 2 ^ exponent y < y ↔ (m : ℚ) + 1 / 2 < scaled y := by
      rw [scaled, lt_div_iff₀ hpos]
    have htie : y = (m + 1 / 2) * 2 ^ exponent y ↔ scaled y = m + 1 / 2 := by
      rw [scaled, div_eq_iff hpos.ne']
    rw [hhalf, htie, ← lt_nearestEven_iff, rounded, mul_lt_mul_iff_left₀ hpos, Int.cast_lt]
  · have hstep := zpow_two_succ_le hgt
    have hround : m * 2 ^ e < rounded y := by
      rw [rounded]
      nlinarith
    have hy' : (m + 1 / 2) * 2 ^ e < y := by nlinarith
    exact ⟨fun _ => .inl hy', fun _ => hround⟩

theorem rounded_pos {y : ℚ} (hy : 0 < y) : 0 < rounded y := by
  obtain ⟨m, e, hm, heq⟩ := exists_rounded_eq hy
  have hlow : (2 : ℚ) ^ 52 ≤ m := by exact_mod_cast hm.low
  rw [heq]
  exact mul_pos (by linarith) (zpow_two_pos e)

theorem rounded_mono {x y : ℚ} (hx : 0 < x) (h : x ≤ y) : rounded x ≤ rounded y := by
  obtain ⟨m, e, hm, heq⟩ := exists_rounded_eq (hx.trans_le h)
  -- The result for `y` is normal: would the one for `x` exceed it, so would its own.
  by_contra hlt
  rw [not_le, heq, lt_rounded_iff hm e hx] at hlt
  refine lt_irrefl (rounded y) ?_
  conv_lhs => rw [heq]
  rw [lt_rounded_iff hm e (hx.trans_le h)]
  rcases hlt with hlt | ⟨htie, hodd⟩
  · exact .inl (hlt.trans_le h)
  · rw [htie] at h
    exact h.lt_or_eq.imp_right fun h => ⟨h.symm, hodd⟩

/-- Nothing is rounded past a power of two. -/
theorem rounded_le_zpow {y : ℚ} (hy : 0 < y) {e : ℤ} (h : y ≤ 2 ^ e) : rounded y ≤ 2 ^ e :=
  (rounded_mono hy h).trans_eq (rounded_zpow e)

theorem zpow_le_rounded {y : ℚ} {e : ℤ} (h : 2 ^ e ≤ y) : 2 ^ e ≤ rounded y :=
  (rounded_zpow e).symm.trans_le (rounded_mono (zpow_two_pos e) h)

end Double
end WebhookRelay

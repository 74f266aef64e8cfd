-- SUMMARY: Arithmetic in double precision is the exact one, rounded.
import Mathlib
import WebhookRelay.Proofs.Double.Rounding

/-!
# Arithmetic in double precision

A double that is neither negative nor subnormal `Denotes` a rational number. Conversion of
an integer, division and multiplication round the exact result (`denotes_toFloat`,
`Denotes.div`, `Denotes.mul`), and doubles compare as what they denote (`Denotes.lt_iff`).

The arithmetic shifts a mantissa to the right and keeps of the bits that it drops only
whether the last one was set and whether any other was. `Tells` says what these two bits
tell of the number that is shifted, which is just enough to round it.
-/

namespace WebhookRelay
namespace Double

open Float.Model (Format UnpackedFloat)
open Float.Model.UnpackedFloat (Accuracy ExtendedMantissa)

/-! ## Dropped bits -/

/-- What an extended mantissa tells of a number: its integral part, whether the fraction is
at least one half, and whether it is anything else than zero or one half. -/
structure Tells (em : ExtendedMantissa) (z : ℚ) : Prop where
  le : (em.mantissa : ℚ) ≤ z
  lt : z < em.mantissa + 1
  round_iff : em.roundBit = true ↔ (em.mantissa : ℚ) + 1 / 2 ≤ z
  sticky_iff : em.stickyBit = true ↔ z ≠ em.mantissa ∧ z ≠ em.mantissa + 1 / 2

theorem tells_exact (m : ℕ) : Tells (.ofMantissaAndAccuracy m .exact) m where
  le := le_rfl
  lt := lt_add_one _
  round_iff := by
    simp [ExtendedMantissa.ofMantissaAndAccuracy]
  sticky_iff := by
    simp [ExtendedMantissa.ofMantissaAndAccuracy]

theorem tells_fraction (m : ℕ) {num den : ℕ} (h : num < den) :
    Tells (.ofMantissaAndAccuracy m (UnpackedFloat.accuracyOfFraction num den))
      (m + num / den) := by
  have hden : (0 : ℚ) < den := by exact_mod_cast Nat.zero_lt_of_lt h
  have hle : (0 : ℚ) ≤ num / den := by positivity
  have hlt : (num : ℚ) / den < 1 := by
    rw [div_lt_one hden]
    exact_mod_cast h
  by_cases hzero : num = 0
  · subst hzero
    simpa [UnpackedFloat.accuracyOfFraction] using tells_exact m
  have hpos : (0 : ℚ) < num / den := by
    have : (0 : ℚ) < num := by exact_mod_cast Nat.pos_of_ne_zero hzero
    positivity
  have hhalf : (1 : ℚ) / 2 ≤ num / den ↔ den ≤ 2 * num := by
    rw [div_le_div_iff₀ two_pos hden]
    exact_mod_cast by rw [one_mul, mul_comm]
  have htie : (num : ℚ) / den = 1 / 2 ↔ 2 * num = den := by
    rw [div_eq_div_iff hden.ne' two_ne_zero]
    exact_mod_cast by rw [one_mul, mul_comm]
  have hbits : ∀ roundBit stickyBit : Bool, (roundBit = true ↔ den ≤ 2 * num) →
      (stickyBit = true ↔ 2 * num ≠ den) → Tells ⟨m, roundBit, stickyBit⟩ (m + num / den) := by
    intro roundBit stickyBit hround hsticky
    refine ⟨le_add_of_nonneg_right hle, add_lt_add_right hlt _, ?_, ?_⟩
    · rw [hround, add_le_add_iff_left, hhalf]
    · rw [hsticky, ne_eq, ne_eq, ne_eq, add_eq_left, add_right_inj, htie]
      simp [hpos.ne']
  rw [UnpackedFloat.accuracyOfFraction, if_neg hzero]
  cases hcompare : compare (2 * num) den with
  | lt =>
    rw [Nat.compare_eq_lt] at hcompare
    exact hbits false true (by simp; omega) (by simp; omega)
  | eq =>
    rw [Nat.compare_eq_eq] at hcompare
    exact hbits true false (by simp; omega) (by simp; omega)
  | gt =>
    rw [Nat.compare_eq_gt] at hcompare
    exact hbits true true (by simp; omega) (by simp; omega)

/-- The bits that are kept are enough to round. -/
theorem Tells.roundedMantissa {em : ExtendedMantissa} {z : ℚ} (h : Tells em z) :
    (em.roundedMantissa : ℤ) = nearestEven z := by
  obtain ⟨m, roundBit, stickyBit⟩ := em
  obtain ⟨hle, hlt, hround, hsticky⟩ := h
  have hfloor : ⌊z⌋ = (m : ℤ) := by
    rw [Int.floor_eq_iff]
    exact ⟨by exact_mod_cast hle, by exact_mod_cast hlt⟩
  have hfract : Int.fract z = z - m := by
    rw [Int.fract, hfloor]
    norm_cast
  rw [nearestEven, hfract, hfloor]
  cases roundBit with
  | false =>
    have hlow : z < m + 1 / 2 := by simpa using hround
    have hdown : ¬ (1 / 2 < z - m ∨ z - m = 1 / 2 ∧ (m : ℤ) % 2 = 1) := by
      rintro (h | ⟨h, -⟩) <;> linarith
    rw [if_neg hdown]
    cases stickyBit <;> rfl
  | true =>
    have hhigh : (m : ℚ) + 1 / 2 ≤ z := hround.1 rfl
    cases stickyBit with
    | false =>
      have htie : z = m + 1 / 2 := by
        by_contra hne
        have hz : z ≠ m := by
          intro heq
          linarith
        exact absurd (hsticky.2 ⟨hz, hne⟩) Bool.false_ne_true
      have hup : (1 / 2 < z - m ∨ z - m = 1 / 2 ∧ (m : ℤ) % 2 = 1) ↔ (m : ℤ) % 2 = 1 := by
        rw [htie]
        constructor
        · rintro (h | ⟨-, h⟩)
          · linarith
          · exact h
        · exact fun h => .inr ⟨by ring, h⟩
      simp only [hup, ExtendedMantissa.roundedMantissa, ExtendedMantissa.accuracy,
        Accuracy.roundToNearestEven]
      split_ifs <;> omega
    | true =>
      have hne : z ≠ m + 1 / 2 := (hsticky.1 rfl).2
      have hup : 1 / 2 < z - m := by
        have hlt := lt_of_le_of_ne hhigh hne.symm
        linarith
      rw [if_pos (.inl hup)]
      rfl

theorem Tells.shiftRightOne {em : ExtendedMantissa} {z : ℚ} (h : Tells em z) :
    Tells em.shiftRightOne (z / 2) := by
  obtain ⟨m, roundBit, stickyBit⟩ := em
  obtain ⟨hle, hlt, hround, hsticky⟩ := h
  have hdropped : (roundBit || stickyBit) = true ↔ z ≠ m := by
    rw [Bool.or_eq_true, hround, hsticky]
    constructor
    · rintro (h | h)
      · intro heq
        linarith
      · exact h.1
    · intro hne
      by_cases htie : z = m + 1 / 2
      · exact .inl htie.ge
      · exact .inr ⟨hne, htie⟩
  obtain ⟨n, hn | hn⟩ : ∃ n, m = 2 * n ∨ m = 2 * n + 1 := ⟨m / 2, by omega⟩
  · have hmod : m % 2 = 0 := by omega
    have hdiv : m / 2 = n := by omega
    have hm : (m : ℚ) = 2 * n := by exact_mod_cast hn
    rw [hm] at hle hlt hdropped
    refine ⟨?_, ?_, ?_, ?_⟩ <;> simp only [ExtendedMantissa.shiftRightOne, hdiv, hmod]
    · linarith
    · linarith
    · simp only [bne_self_eq_false, Bool.false_eq_true, false_iff]
      linarith
    · rw [hdropped]
      constructor
      · exact fun hne => ⟨fun heq => hne (by linarith), fun heq => by linarith⟩
      · exact fun hne heq => hne.1 (by linarith)
  · have hmod : m % 2 = 1 := by omega
    have hdiv : m / 2 = n := by omega
    have hm : (m : ℚ) = 2 * n + 1 := by exact_mod_cast hn
    rw [hm] at hle hlt hdropped
    refine ⟨?_, ?_, ?_, ?_⟩ <;> simp only [ExtendedMantissa.shiftRightOne, hdiv, hmod]
    · linarith
    · linarith
    · simp only [bne_iff_ne, ne_eq, one_ne_zero, not_false_eq_true, true_iff]
      linarith
    · rw [hdropped]
      constructor
      · exact fun hne => ⟨fun heq => by linarith, fun heq => hne (by linarith)⟩
      · exact fun hne heq => hne.2 (by linarith)

theorem Tells.shiftRight {em : ExtendedMantissa} {z : ℚ} (h : Tells em z) (k : ℕ) :
    Tells (em >>> k) (z / 2 ^ k) := by
  induction k with
  | zero =>
    rw [pow_zero, div_one]
    exact h
  | succ k ih =>
    have hstep : em >>> (k + 1) = (em >>> k).shiftRightOne := rfl
    rw [hstep, pow_succ, ← div_div]
    exact ih.shiftRightOne

/-! ## Rounding a mantissa -/

theorem log2_bounds {m : ℕ} (hm : 0 < m) :
    (2 : ℚ) ^ m.log2 ≤ m ∧ (m : ℚ) + 1 ≤ 2 ^ (m.log2 + 1) := by
  constructor
  · exact_mod_cast Nat.log2_self_le hm.ne'
  · exact_mod_cast Nat.lt_log2_self

/-- A mantissa of at least 53 bits is cut to 53 bits. -/
theorem shiftToTargetExponent_eq {m : ℕ} (hm : 52 ≤ m.log2) {e : ℤ} (he : -1022 ≤ m.log2 + e)
    (accuracy : Accuracy) :
    UnpackedFloat.shiftToTargetExponent .binary64 m e accuracy
      = (ExtendedMantissa.ofMantissaAndAccuracy m accuracy >>> (m.log2 - 52),
          e + (m.log2 - 52 : ℕ)) := by
  have htarget : (Format.targetExponent .binary64 (Float.Model.totalExponent m e) - e).toNat
      = m.log2 - 52 := by
    simp only [Format.targetExponent, Float.Model.totalExponent, Format.mantissaBits,
      Format.minExponent]
    omega
  unfold UnpackedFloat.shiftToTargetExponent UnpackedFloat.shiftToExponent
  simp only [htarget]

/-- Rounding cuts twice: rounding up may have made a mantissa too long. -/
theorem roundWithAccuracy_of_shifts (sign : UnpackedFloat.Sign) {m : ℕ} {e : ℤ}
    {accuracy : Accuracy} {first final : ExtendedMantissa × ℤ}
    {n : ℕ} (hfirst : UnpackedFloat.shiftToTargetExponent .binary64 m e accuracy = first)
    (hn : first.1.roundedMantissa = n)
    (hfinal : UnpackedFloat.shiftToTargetExponent .binary64 n first.2 .exact = final)
    (hpos : 0 < final.1.mantissa) :
    UnpackedFloat.roundWithAccuracy .binary64 sign m e accuracy
      = .finite sign final.1.mantissa final.2 hpos := by
  subst hfirst hn hfinal
  exact dif_neg hpos.ne'

theorem mantissa_ofMantissaAndAccuracy (m : ℕ) (accuracy : Accuracy) :
    (ExtendedMantissa.ofMantissaAndAccuracy m accuracy).mantissa = m := by
  rcases accuracy with _ | (_ | _ | _) <;> rfl

/-- What a mantissa is rounded to has 53 bits, or it is the least number with more. -/
theorem roundWithAccuracy_of_rounded (sign : UnpackedFloat.Sign) {m : ℕ} (hm : 52 ≤ m.log2)
    {e : ℤ} (he : -1022 ≤ m.log2 + e) {accuracy : Accuracy} {n : ℕ}
    (hn : (ExtendedMantissa.ofMantissaAndAccuracy m accuracy >>> (m.log2 - 52)).roundedMantissa = n)
    (hlow : 2 ^ 52 ≤ n) (hhigh : n ≤ 2 ^ 53) :
    ∃ (r : ℕ) (d : ℤ) (pos : 0 < r), IsMantissa r ∧
      (r : ℚ) * 2 ^ d = n * 2 ^ (e + (m.log2 - 52 : ℕ)) ∧
      UnpackedFloat.roundWithAccuracy .binary64 sign m e accuracy = .finite sign r d pos := by
  have hexponent : -1022 ≤ (n.log2 : ℤ) + (e + (m.log2 - 52 : ℕ)) := by
    have hlog : 52 ≤ n.log2 := (Nat.le_log2 (by omega)).2 hlow
    omega
  have hfirst := shiftToTargetExponent_eq hm he accuracy
  rcases hhigh.lt_or_eq with hlt | rfl
  · have hlog : n.log2 = 52 := (Nat.log2_eq_iff (by omega)).2 ⟨hlow, hlt⟩
    have hfinal := shiftToTargetExponent_eq hlog.ge hexponent .exact
    rw [hlog] at hfinal
    have hpos : 0 < n := by omega
    rw [Nat.sub_self, Nat.cast_zero, add_zero] at hfinal
    exact ⟨n, _, hpos, ⟨by exact_mod_cast hlow, by exact_mod_cast hlt⟩, rfl,
      roundWithAccuracy_of_shifts sign hfirst hn hfinal hpos⟩
  · have hlog : (2 ^ 53).log2 = 53 := Nat.log2_two_pow
    have hfinal := shiftToTargetExponent_eq (by omega) hexponent .exact
    rw [hlog] at hfinal
    have hpos : 0 < 2 ^ 52 := by decide
    refine ⟨2 ^ 52, e + (m.log2 - 52 : ℕ) + 1, hpos, isMantissa_two_pow, ?_, ?_⟩
    · rw [zpow_add_one₀ two_ne_zero]
      push_cast
      ring
    · exact roundWithAccuracy_of_shifts sign hfirst hn hfinal hpos

theorem roundWithAccuracy_eq (sign : UnpackedFloat.Sign) {m : ℕ} (hm : 52 ≤ m.log2) {e : ℤ}
    (he : -1022 ≤ m.log2 + e) {accuracy : Accuracy} {z : ℚ}
    (hz : Tells (.ofMantissaAndAccuracy m accuracy) z) :
    ∃ (r : ℕ) (d : ℤ) (pos : 0 < r), IsMantissa r ∧ (r : ℚ) * 2 ^ d = rounded (z * 2 ^ e) ∧
      UnpackedFloat.roundWithAccuracy .binary64 sign m e accuracy = .finite sign r d pos := by
  have hle := hz.le
  have hlt := hz.lt
  rw [mantissa_ofMantissaAndAccuracy] at hle hlt
  obtain ⟨hmlow, hmhigh⟩ := log2_bounds (m := m) (Nat.pos_of_ne_zero (by rintro rfl; simp at hm))
  have hpow : (0 : ℚ) < 2 ^ (m.log2 - 52) := by positivity
  have hlow : 2 ^ 52 ≤ z / 2 ^ (m.log2 - 52) := by
    rw [le_div_iff₀ hpow, ← pow_add, Nat.add_sub_cancel' hm]
    linarith
  have hhigh : z / 2 ^ (m.log2 - 52) < 2 ^ 53 := by
    rw [div_lt_iff₀ hpow, ← pow_add, show 53 + (m.log2 - 52) = m.log2 + 1 by omega]
    linarith
  have hsplit : z * 2 ^ e = z / 2 ^ (m.log2 - 52) * 2 ^ (e + (m.log2 - 52 : ℕ)) := by
    rw [add_comm, zpow_add₀ two_ne_zero, zpow_natCast, ← mul_assoc, div_mul_cancel₀ _ hpow.ne']
  have hn := (hz.shiftRight (m.log2 - 52)).roundedMantissa
  have hnlow : (2 : ℤ) ^ 52 ≤ _ := (le_nearestEven (by exact_mod_cast hlow)).trans_eq hn.symm
  have hnhigh : _ ≤ (2 : ℤ) ^ 53 := hn.trans_le (nearestEven_le (by exact_mod_cast hhigh.le))
  obtain ⟨r, d, hpos, hr, heq, hrounded⟩ := roundWithAccuracy_of_rounded sign hm he rfl
    (by exact_mod_cast hnlow) (by exact_mod_cast hnhigh)
  refine ⟨r, d, hpos, hr, ?_, hrounded⟩
  rw [heq, hsplit, rounded_mul_zpow hlow hhigh, ← hn]
  norm_cast

/-! ## Packing -/

theorem toNat_one_append (mantissa : BitVec 52) :
    (1#1 ++ mantissa).toNat = 2 ^ 52 + mantissa.toNat := by
  rw [BitVec.toNat_append, ← Nat.shiftLeft_add_eq_or_of_lt mantissa.isLt]
  simp

/-- A normal number within the range of the exponent survives packing. -/
theorem unpack_pack {m : ℕ} (hm : IsMantissa m) {e : ℤ} (hlow : -1074 ≤ e) (hhigh : e ≤ 971)
    (pos : 0 < m) :
    (Float.Model.pack (.finite .positive m e pos)).unpack = .finite .positive m e pos := by
  have hmlow : 2 ^ 52 ≤ m := by exact_mod_cast hm.low
  have hmhigh : m < 2 ^ 53 := by exact_mod_cast hm.high
  obtain ⟨b, hb⟩ : ∃ b : ℕ, e = b - 1075 := ⟨(e + 1075).toNat, by omega⟩
  have hblow : 1 ≤ b := by omega
  have hbhigh : b ≤ 2046 := by omega
  have hlog : m.log2 = 52 := (Nat.log2_eq_iff (by omega)).2 ⟨hmlow, hmhigh⟩
  have hpack : UnpackedFloat.pack .binary64 (.finite .positive m e pos)
      = UnpackedFloat.packComponents .binary64 .positive (.ofNat 11 b) (.ofNat 52 m) := by
    have hbiased : (e + 1023 + 52).toNat = b := by omega
    simp only [UnpackedFloat.pack, Format.exponentBias, Format.mantissaBits, hlog]
    norm_num
    rw [hbiased, if_neg (by omega)]
  have hexponent : (BitVec.ofNat 11 b).toNat = b := by
    rw [BitVec.toNat_ofNat, Nat.mod_eq_of_lt (by omega)]
  have hones : BitVec.ofNat 11 b ≠ -1#11 := by bv_omega
  have hzero : BitVec.ofNat 11 b ≠ 0#11 := by bv_omega
  have hmantissa : (1#1 ++ BitVec.ofNat 52 m).toNat = m := by
    rw [toNat_one_append, BitVec.toNat_ofNat]
    omega
  rw [Float.Model.unpack, Float.Model.pack]
  simp only [hpack, UnpackedFloat.unpack, UnpackedFloat.unpackExponent_packComponents,
    UnpackedFloat.unpackMantissa_packComponents, UnpackedFloat.unpackSign_packComponents,
    UnpackedFloat.Sign.ofBitVec_toBitVec]
  rw [if_neg hones, if_neg hzero]
  simp only [hmantissa, hexponent, hb, Format.exponentBias]
  norm_num

/-! ## Doubles -/

/-- Whether a double is a number that is neither negative nor subnormal. -/
inductive Denotes (x : Float) : ℚ → Prop where
  | zero (unpack_eq : x.toModel.unpack = .zero .positive) : Denotes x 0
  | normal (m : ℕ) (e : ℤ) (pos : 0 < m) (isMantissa : IsMantissa m)
      (unpack_eq : x.toModel.unpack = .finite .positive m e pos) : Denotes x (m * 2 ^ e)

/-- Numbers that are far from the ends of the range. -/
structure Moderate (y : ℚ) : Prop where
  low : 2 ^ (-1020 : ℤ) ≤ y
  high : y ≤ 2 ^ (1020 : ℤ)

theorem Moderate.pos {y : ℚ} (h : Moderate y) : 0 < y :=
  (zpow_two_pos _).trans_le h.low

theorem lt_of_zpow_two_lt {a b : ℤ} (h : (2 : ℚ) ^ a < 2 ^ b) : a < b :=
  (zpow_lt_zpow_iff_right₀ one_lt_two).1 h

theorem Moderate.rounded {y : ℚ} (h : Moderate y) : Moderate (rounded y) where
  low := zpow_le_rounded h.low
  high := rounded_le_zpow h.pos h.high

theorem denotes_zero : Denotes (.ofModel (.pack (.zero .positive))) 0 :=
  .zero rfl

theorem denotes_pack {m : ℕ} (hm : IsMantissa m) {e : ℤ} (pos : 0 < m)
    (h : Moderate (m * 2 ^ e)) :
    Denotes (.ofModel (.pack (.finite .positive m e pos))) (m * 2 ^ e) := by
  have hmlow : (2 : ℚ) ^ (52 : ℤ) ≤ m := by exact_mod_cast hm.low
  have hmhigh : (m : ℚ) < 2 ^ (53 : ℤ) := by exact_mod_cast hm.high
  have hpos := zpow_two_pos e
  have hlow : -1020 < 53 + e := by
    refine lt_of_zpow_two_lt (h.low.trans_lt ?_)
    rw [← zpow_two_mul]
    exact mul_lt_mul_of_pos_right hmhigh hpos
  have hhigh : 52 + e ≤ 1020 := by
    refine (zpow_le_zpow_iff_right₀ (one_lt_two : (1 : ℚ) < 2)).1 (le_trans ?_ h.high)
    rw [← zpow_two_mul]
    exact mul_le_mul_of_nonneg_right hmlow hpos.le
  exact .normal m e pos hm (unpack_pack hm (by omega) (by omega) pos)

/-- What the bits of a mantissa tell is rounded. -/
theorem denotes_roundWithAccuracy {m : ℕ} (hm : 52 ≤ m.log2) {e : ℤ} {accuracy : Accuracy}
    {z : ℚ} (hz : Tells (.ofMantissaAndAccuracy m accuracy) z) (h : Moderate (z * 2 ^ e)) :
    Denotes (.ofModel (.pack (UnpackedFloat.roundWithAccuracy .binary64 .positive m e accuracy)))
      (rounded (z * 2 ^ e)) := by
  have hexponent : -1020 < (m.log2 + 1 : ℕ) + e := by
    have hz' := hz.lt
    rw [mantissa_ofMantissaAndAccuracy] at hz'
    have hlog := (log2_bounds (m := m) (Nat.pos_of_ne_zero (by rintro rfl; simp at hm))).2
    refine lt_of_zpow_two_lt (h.low.trans_lt ?_)
    rw [← zpow_two_mul, zpow_natCast]
    exact mul_lt_mul_of_pos_right (hz'.trans_le hlog) (zpow_two_pos e)
  obtain ⟨r, d, hpos, hr, heq, hrounded⟩ :=
    roundWithAccuracy_eq .positive hm (e := e) (by omega) hz
  rw [hrounded, ← heq]
  refine denotes_pack hr hpos ?_
  rw [heq]
  exact h.rounded

/-! ## Operations -/

theorem add_log2_le_log2_mul {m n : ℕ} (hm : 0 < m) (hn : 0 < n) :
    m.log2 + n.log2 ≤ (m * n).log2 := by
  rw [Nat.le_log2 (Nat.mul_pos hm hn).ne', pow_add]
  exact Nat.mul_le_mul (Nat.log2_self_le hm.ne') (Nat.log2_self_le hn.ne')

theorem log2_of_isMantissa {m : ℕ} (hm : IsMantissa m) : m.log2 = 52 := by
  have hlow : 2 ^ 52 ≤ m := by exact_mod_cast hm.low
  have hhigh : m < 2 ^ 53 := by exact_mod_cast hm.high
  exact (Nat.log2_eq_iff (by omega)).2 ⟨hlow, hhigh⟩

variable {x y : Float} {a b : ℚ}

/-- A product is the exact one, rounded. -/
theorem Denotes.mul (hx : Denotes x a) (hy : Denotes y b) (h : a * b ≠ 0 → Moderate (a * b)) :
    Denotes (x * y) (rounded (a * b)) := by
  have hmul : x * y
      = .ofModel (.pack (.mul .binary64 x.toModel.unpack y.toModel.unpack)) := rfl
  cases hx with
  | zero hunpack =>
    rw [hmul, hunpack, zero_mul, rounded_zero]
    cases hy with
    | zero hunpack' =>
      rw [hunpack']
      exact denotes_zero
    | normal n f pos hn hunpack' =>
      rw [hunpack']
      exact denotes_zero
  | normal m e pos hm hunpack =>
    cases hy with
    | zero hunpack' =>
      rw [hmul, hunpack, hunpack', mul_zero, rounded_zero]
      exact denotes_zero
    | normal n f pos' hn hunpack' =>
      have hexact : (m : ℚ) * 2 ^ e * (n * 2 ^ f) = (m * n : ℕ) * 2 ^ (e + f) := by
        rw [← zpow_two_mul]
        push_cast
        ring
      have hlog := add_log2_le_log2_mul pos pos'
      rw [log2_of_isMantissa hm] at hlog
      rw [hexact] at h ⊢
      rw [hmul, hunpack, hunpack']
      have hne : ((m * n : ℕ) : ℚ) * 2 ^ (e + f) ≠ 0 :=
        mul_ne_zero (by exact_mod_cast (Nat.mul_pos pos pos').ne') (zpow_two_pos _).ne'
      exact denotes_roundWithAccuracy (by omega) (tells_exact _) (h hne)

/-- The quotient of mantissas is computed to 53 bits or more. -/
theorem divCore_eq {m n : ℕ} (hm : m.log2 = 52) (hn : n.log2 = 52) {e f : ℤ}
    (h : -1021 ≤ e - f) :
    UnpackedFloat.divCore .binary64 m e n f
      = (m * 2 ^ 53 / n, e - f - 53, UnpackedFloat.accuracyOfFraction (m * 2 ^ 53 % n) n) := by
  have htarget : min (e - f) (Format.targetExponent .binary64
      (Float.Model.totalExponent m e - Float.Model.totalExponent n f)) = e - f - 53 := by
    simp only [Format.targetExponent, Float.Model.totalExponent, Format.mantissaBits,
      Format.minExponent, hm, hn]
    omega
  have hshift : (e - f - (e - f - 53)).toNat = 53 := by omega
  unfold UnpackedFloat.divCore
  simp only [htarget, hshift, Nat.shiftLeft_eq]

theorem quotient_eq (m : ℕ) {n : ℕ} (hn : 0 < n) (e f : ℤ) :
    (((m * 2 ^ 53 / n : ℕ) : ℚ) + (m * 2 ^ 53 % n : ℕ) / n) * 2 ^ (e - f - 53)
      = m * 2 ^ e / (n * 2 ^ f) := by
  have hn' : (n : ℚ) ≠ 0 := by exact_mod_cast hn.ne'
  have hquotient : ((m * 2 ^ 53 / n : ℕ) : ℚ) + (m * 2 ^ 53 % n : ℕ) / n = m * 2 ^ 53 / n := by
    rw [eq_div_iff hn', add_mul, div_mul_cancel₀ _ hn']
    exact_mod_cast by rw [mul_comm, Nat.div_add_mod]
  have hpos := zpow_two_pos f
  rw [hquotient, zpow_sub₀ two_ne_zero, zpow_sub₀ two_ne_zero]
  field_simp

theorem le_log2_quotient {m n : ℕ} (hm : IsMantissa m) (hn : IsMantissa n) :
    52 ≤ (m * 2 ^ 53 / n).log2 := by
  have hmlow : 2 ^ 52 ≤ m := by exact_mod_cast hm.low
  have hnlow : 2 ^ 52 ≤ n := by exact_mod_cast hn.low
  have hnhigh : n < 2 ^ 53 := by exact_mod_cast hn.high
  have hle : 2 ^ 52 ≤ m * 2 ^ 53 / n := (Nat.le_div_iff_mul_le (by omega)).2 (by omega)
  exact (Nat.le_log2 (by omega)).2 hle

/-- The quotient of mantissas is less than two. -/
theorem Moderate.le_sub_exponent {m n : ℕ} (hm : IsMantissa m) (hn : IsMantissa n) {e f : ℤ}
    (h : Moderate (m * 2 ^ e / (n * 2 ^ f))) : -1021 ≤ e - f := by
  have hmhigh : (m : ℚ) < 2 ^ 53 := by exact_mod_cast hm.high
  have hnlow : (2 : ℚ) ^ 52 ≤ n := by exact_mod_cast hn.low
  have hpos := zpow_two_pos e
  have hpos' := zpow_two_pos f
  have hden : (0 : ℚ) < n * 2 ^ f := mul_pos (by linarith) hpos'
  have hlt : (m : ℚ) * 2 ^ e / (n * 2 ^ f) < 2 ^ (1 + (e - f)) := by
    rw [div_lt_iff₀ hden, ← zpow_two_mul, zpow_sub₀ two_ne_zero, zpow_one]
    field_simp
    nlinarith
  have := lt_of_zpow_two_lt (h.low.trans_lt hlt)
  omega

/-- A quotient is the exact one, rounded. -/
theorem Denotes.div (hx : Denotes x a) (hy : Denotes y b) (hb : b ≠ 0)
    (h : a / b ≠ 0 → Moderate (a / b)) : Denotes (x / y) (rounded (a / b)) := by
  have hdiv : x / y
      = .ofModel (.pack (.div .binary64 x.toModel.unpack y.toModel.unpack)) := rfl
  cases hy with
  | zero => exact absurd rfl hb
  | normal n f pos' hn hunpack' =>
    cases hx with
    | zero hunpack =>
      rw [hdiv, hunpack, hunpack', zero_div, rounded_zero]
      exact denotes_zero
    | normal m e pos hm hunpack =>
      have hpos : (0 : ℚ) < m * 2 ^ e := mul_pos (by exact_mod_cast pos) (zpow_two_pos e)
      have hmoderate := h (div_ne_zero hpos.ne' hb)
      have hexponent := hmoderate.le_sub_exponent hm hn
      rw [hdiv, hunpack, hunpack']
      simp only [UnpackedFloat.div,
        divCore_eq (log2_of_isMantissa hm) (log2_of_isMantissa hn) hexponent]
      rw [← quotient_eq m pos'] at hmoderate ⊢
      exact denotes_roundWithAccuracy (le_log2_quotient hm hn)
        (tells_fraction _ (Nat.mod_lt _ pos')) hmoderate

theorem lt_iff_compare (x y : Float) :
    x < y ↔ x.toModel.unpack.compare y.toModel.unpack = some .lt := by
  have hlt : x < y ↔ x.toModel.unpack.lt y.toModel.unpack = true := decide_eq_true_iff
  rw [hlt, UnpackedFloat.lt, beq_iff_eq]

/-- Doubles compare as the numbers that they denote. -/
theorem Denotes.lt_iff (hx : Denotes x a) (hy : Denotes y b) : x < y ↔ a < b := by
  rw [lt_iff_compare]
  cases hx with
  | zero hunpack =>
    cases hy with
    | zero hunpack' => simp [hunpack, hunpack', UnpackedFloat.compare]
    | normal n f pos hn hunpack' =>
      have hpos : (0 : ℚ) < n * 2 ^ f := mul_pos (by exact_mod_cast pos) (zpow_two_pos f)
      simp [hunpack, hunpack', UnpackedFloat.compare, hpos]
  | normal m e pos hm hunpack =>
    cases hy with
    | zero hunpack' =>
      have hpos : (0 : ℚ) < m * 2 ^ e := mul_pos (by exact_mod_cast pos) (zpow_two_pos e)
      simp [hunpack, hunpack', UnpackedFloat.compare, hpos.le]
    | normal n f pos' hn hunpack' =>
      have hcompare : (m : ℚ) * 2 ^ e < n * 2 ^ f ↔ e < f ∨ e = f ∧ m < n := by
        exact_mod_cast mul_zpow_lt_iff hm hn e f
      simp [hunpack, hunpack', UnpackedFloat.compare, hcompare, Ordering.then_eq_lt,
        Int.compare_eq_lt, Nat.compare_eq_lt]

theorem le_iff_compare (x y : Float) : x ≤ y ↔
    x.toModel.unpack.compare y.toModel.unpack = some .lt ∨
      x.toModel.unpack.compare y.toModel.unpack = some .eq := by
  have hle : x ≤ y ↔ x.toModel.unpack.le y.toModel.unpack = true := decide_eq_true_iff
  rw [hle, UnpackedFloat.le]
  rcases x.toModel.unpack.compare y.toModel.unpack with _ | _ | _ | _ <;> simp

theorem Denotes.le_iff (hx : Denotes x a) (hy : Denotes y b) : x ≤ y ↔ a ≤ b := by
  rw [le_iff_compare, le_iff_lt_or_eq, ← hx.lt_iff hy, lt_iff_compare]
  refine or_congr_right ?_
  cases hx with
  | zero hunpack =>
    cases hy with
    | zero hunpack' => simp [hunpack, hunpack', UnpackedFloat.compare]
    | normal n f pos hn hunpack' =>
      have hpos : (0 : ℚ) < n * 2 ^ f := mul_pos (by exact_mod_cast pos) (zpow_two_pos f)
      simp [hunpack, hunpack', UnpackedFloat.compare, hpos.ne]
  | normal m e pos hm hunpack =>
    cases hy with
    | zero hunpack' =>
      have hpos : (0 : ℚ) < m * 2 ^ e := mul_pos (by exact_mod_cast pos) (zpow_two_pos e)
      simp [hunpack, hunpack', UnpackedFloat.compare, hpos.ne']
    | normal n f pos' hn hunpack' =>
      have heq : (m : ℚ) * 2 ^ e = n * 2 ^ f ↔ e = f ∧ m = n := by
        have hlt : (m : ℚ) * 2 ^ e < n * 2 ^ f ↔ e < f ∨ e = f ∧ m < n := by
          exact_mod_cast mul_zpow_lt_iff hm hn e f
        have hgt : (n : ℚ) * 2 ^ f < m * 2 ^ e ↔ f < e ∨ f = e ∧ n < m := by
          exact_mod_cast mul_zpow_lt_iff hn hm f e
        rw [eq_iff_le_not_lt, ← not_lt, hlt, hgt]
        omega
      simp [hunpack, hunpack', UnpackedFloat.compare, heq]

/-- What is not less than a positive number is one itself, or infinite. -/
theorem positive_of_le {m : ℕ} {e : ℤ} {pos : 0 < m} {w : UnpackedFloat}
    (h : (UnpackedFloat.finite .positive m e pos).compare w = some .lt ∨
      (UnpackedFloat.finite .positive m e pos).compare w = some .eq) :
    w = .infinity .positive ∨ ∃ (k : ℕ) (d : ℤ) (pos' : 0 < k),
      w = .finite .positive k d pos' ∧ (e < d ∨ e = d ∧ m ≤ k) := by
  cases w with
  | notANumber => simp [UnpackedFloat.compare] at h
  | infinity s =>
    cases s with
    | positive => exact .inl rfl
    | negative => simp [UnpackedFloat.compare] at h
  | zero s => simp [UnpackedFloat.compare] at h
  | finite s k d pos' =>
    cases s with
    | negative => simp [UnpackedFloat.compare] at h
    | positive =>
      simp only [UnpackedFloat.compare, Option.some.injEq, Ordering.then_eq_lt,
        Ordering.then_eq_eq, Int.compare_eq_lt, Int.compare_eq_eq, Nat.compare_eq_lt,
        Nat.compare_eq_eq] at h
      exact .inr ⟨k, d, pos', rfl, by omega⟩

/-- A double that is at least a positive number is not below a number that is not greater. -/
theorem Denotes.not_lt_of_le (hx : Denotes x a) (hpos : 0 < a) (hy : Denotes y b) (hyx : b ≤ a)
    {w : Float} (hw : x ≤ w) : ¬ w < y := by
  intro hlt
  rw [← not_lt, ← hx.lt_iff hy] at hyx
  refine hyx ?_
  rw [lt_iff_compare] at hlt ⊢
  rw [le_iff_compare] at hw
  cases hx with
  | zero => exact absurd hpos (lt_irrefl 0)
  | normal m e pos hm hunpack =>
    rw [hunpack] at hw ⊢
    rcases positive_of_le hw with hinfinite | ⟨k, d, pos', hfinite, hle⟩
    · cases hy with
      | zero hunpack' => simp [hinfinite, hunpack', UnpackedFloat.compare] at hlt
      | normal n f pos'' hn hunpack' => simp [hinfinite, hunpack', UnpackedFloat.compare] at hlt
    · cases hy with
      | zero hunpack' => simp [hfinite, hunpack', UnpackedFloat.compare] at hlt
      | normal n f pos'' hn hunpack' =>
        simp only [hfinite, hunpack', UnpackedFloat.compare, Option.some.injEq,
          Ordering.then_eq_lt, Int.compare_eq_lt, Int.compare_eq_eq, Nat.compare_eq_lt] at hlt ⊢
        omega

/-- An integer that is converted has its mantissa filled up to 53 bits. -/
theorem normalize_eq {n : ℕ} (hn : 0 < n) :
    UnpackedFloat.normalize .binary64 n 0 .positive
      = .roundWithAccuracy .binary64 .positive (n * 2 ^ (52 - n.log2)) (-(52 - n.log2 : ℕ))
          .exact := by
  have htarget : (-Format.targetExponent .binary64 (Float.Model.totalExponent n 0)).toNat
      = 52 - n.log2 := by
    simp only [Format.targetExponent, Float.Model.totalExponent, Format.mantissaBits,
      Format.minExponent]
    omega
  have hcompare : compare (n : ℤ) 0 = .gt := by
    rw [Int.compare_eq_gt]
    exact_mod_cast hn
  rw [UnpackedFloat.normalize]
  simp only [hcompare, Int.toNat_natCast, UnpackedFloat.round, UnpackedFloat.decreaseExponent,
    zero_sub, htarget, Nat.shiftLeft_eq]

/-- An integer is converted to the nearest double. -/
theorem denotes_toFloat {n : ℕ} (h : n < 2 ^ 64) : Denotes n.toUInt64.toFloat (rounded n) := by
  have hvalue : n.toUInt64.toNat = n := UInt64.toNat_ofNat_of_lt' h
  have hconvert : n.toUInt64.toFloat
      = .ofModel (.pack (.normalize .binary64 n.toUInt64.toNat 0 .positive)) := rfl
  rw [hconvert, hvalue]
  rcases Nat.eq_zero_or_pos n with rfl | hn
  · simp only [Nat.cast_zero, rounded_zero]
    exact denotes_zero
  · have hlog : 52 ≤ (n * 2 ^ (52 - n.log2)).log2 := by
      have hmul := add_log2_le_log2_mul hn (Nat.two_pow_pos (52 - n.log2))
      rw [Nat.log2_two_pow] at hmul
      omega
    have hexact := natCast_eq_mul_zpow n (52 - n.log2)
    have hmoderate : Moderate n := by
      refine ⟨le_trans (b := 1) ?_ (by exact_mod_cast hn), le_trans (b := 2 ^ (64 : ℤ)) ?_ ?_⟩
      · exact zpow_le_one_of_nonpos₀ one_le_two (by decide)
      · exact_mod_cast h.le
      · exact zpow_le_zpow_right₀ one_le_two (by decide)
    rw [hexact] at hmoderate
    rw [normalize_eq hn, hexact]
    exact denotes_roundWithAccuracy hlog (tells_exact _) hmoderate

end Double
end WebhookRelay

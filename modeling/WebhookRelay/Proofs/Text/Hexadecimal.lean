-- SUMMARY: Hexadecimal digits: a number's digits in either case are read as the number, and nothing else is.
import WebhookRelay.Proofs.Lists
import WebhookRelay.Proofs.Text.Ascii
import WebhookRelay.Proofs.Text.Numeral

/-!
# Hexadecimal digits

A number is written with a fixed number of lower-case digits. A text of so many characters is read
as this number exactly when it has these digits, in either case
(`natOfDigits?_eq_some_iff_toLower`).
-/

namespace WebhookRelay.Text

/-! ## One digit -/

theorem ascii_of_toLower {c : Char} (h : c.toLower.toNat < 128) : c.toNat < 128 := by
  unfold Char.toLower at h
  split at h
  · next hupper =>
    exact Nat.lt_of_le_of_lt hupper.2 (by decide)
  · exact h

theorem hexValue?_ascii : ∀ n < 128, (∀ v ∈ hexValue? (Char.ofNat n), v < 16) ∧
    ∀ v < 16, hexValue? (Char.ofNat n) = some v ↔ (Char.ofNat n).toLower = hexDigit v := by
  decide +kernel

theorem ascii_hexDigit : ∀ v < 16, (hexDigit v).toNat < 128 := by
  decide

theorem toLower_hexDigit : ∀ v < 16, (hexDigit v).toLower = hexDigit v := by
  decide

/-- A character is a digit of a value in either case. -/
theorem hexValue?_eq_some_iff {c : Char} {v : Nat} :
    hexValue? c = some v ↔ v < 16 ∧ c.toLower = hexDigit v := by
  constructor
  · intro h
    have hascii : c.toNat < 128 := ((isSome_hexValue?_iff c).1 (by rw [h]; rfl)).ascii
    obtain ⟨hlt, hiff⟩ := hexValue?_ascii c.toNat hascii
    rw [Char.ofNat_toNat] at hlt hiff
    exact ⟨hlt v h, (hiff v (hlt v h)).1 h⟩
  · rintro ⟨hlt, hlower⟩
    have hascii : c.toNat < 128 := ascii_of_toLower (hlower ▸ ascii_hexDigit v hlt)
    obtain ⟨-, hiff⟩ := hexValue?_ascii c.toNat hascii
    rw [Char.ofNat_toNat] at hiff
    exact (hiff v hlt).2 hlower

theorem digitValue?_sixteen (c : Char) : digitValue? 16 c = hexValue? c := by
  cases h : hexValue? c with
  | none => simp [digitValue?, h]
  | some v => simp [digitValue?, h, (hexValue?_eq_some_iff.1 h).1]

/-! ## Rows of digits -/

theorem mapM_digitValue?_eq_some_iff {cs : List Char} {vs : List Nat} :
    cs.mapM (digitValue? 16) = some vs ↔
      (∀ v ∈ vs, v < 16) ∧ cs.map Char.toLower = vs.map hexDigit := by
  rw [mapM_eq_some_iff]
  induction cs generalizing vs with
  | nil => cases vs <;> simp
  | cons c cs ih =>
    cases vs with
    | nil => simp
    | cons v vs =>
      rw [List.forall₂_cons, ih, digitValue?_sixteen, hexValue?_eq_some_iff]
      simp only [List.forall_mem_cons, List.map_cons, List.cons.injEq]
      tauto

theorem ofDigits_lt {base : Nat} {vs : List Nat} (h : ∀ v ∈ vs, v < base) :
    ofDigits base vs < base ^ vs.length := by
  induction vs using List.reverseRecOn with
  | nil => exact Nat.one_pos
  | append_singleton vs v ih =>
    obtain ⟨hvs, hv⟩ := List.forall_mem_append.1 h
    have hlt := ih hvs
    have hv := hv v List.mem_cons_self
    rw [ofDigits_append, List.length_append, List.length_singleton, Nat.pow_succ]
    calc ofDigits base vs * base + v < ofDigits base vs * base + base := by omega
      _ = (ofDigits base vs + 1) * base := by ring
      _ ≤ base ^ vs.length * base := Nat.mul_le_mul_right base hlt

theorem hexDigits_ofDigits {vs : List Nat} (h : ∀ v ∈ vs, v < 16) :
    hexDigits vs.length (ofDigits 16 vs) = vs.map hexDigit := by
  induction vs using List.reverseRecOn with
  | nil => rfl
  | append_singleton vs v ih =>
    obtain ⟨hvs, hv⟩ := List.forall_mem_append.1 h
    have hv := hv v List.mem_cons_self
    rw [ofDigits_append, List.length_append, List.length_singleton, hexDigits,
      show (ofDigits 16 vs * 16 + v) / 16 = ofDigits 16 vs by omega,
      show (ofDigits 16 vs * 16 + v) % 16 = v by omega, ih hvs, List.map_append, List.map_singleton]

/-- The digits of a number that fits. -/
theorem exists_ofDigits {width n : Nat} (h : n < 16 ^ width) :
    ∃ vs : List Nat, vs.length = width ∧ (∀ v ∈ vs, v < 16) ∧ ofDigits 16 vs = n := by
  induction width generalizing n with
  | zero =>
    have hzero : n = 0 := by omega
    exact ⟨[], rfl, nofun, hzero.symm⟩
  | succ width ih =>
    rw [Nat.pow_succ] at h
    obtain ⟨vs, hlength, hlt, hvalue⟩ := ih (n := n / 16) (by omega)
    refine ⟨vs ++ [n % 16], by simp [hlength], ?_, ?_⟩
    · simp only [List.forall_mem_append, List.forall_mem_singleton]
      exact ⟨hlt, by omega⟩
    · rw [ofDigits_append, hvalue]
      omega

@[simp] theorem length_hexDigits (width n : Nat) : (hexDigits width n).length = width := by
  induction width generalizing n with
  | zero => rfl
  | succ width ih => rw [hexDigits, List.length_append, ih, List.length_singleton]

/-- A text of some length is read as a number exactly when it has its digits, in either case. -/
theorem natOfDigits?_eq_some_iff_toLower {cs : List Char} {width n : Nat} (hpos : 0 < width) :
    natOfDigits? 16 cs = some n ∧ cs.length = width ↔
      n < 16 ^ width ∧ cs.map Char.toLower = hexDigits width n := by
  constructor
  · rintro ⟨h, rfl⟩
    rw [natOfDigits?, if_neg (by simpa using List.ne_nil_of_length_pos hpos),
      Option.map_eq_some_iff] at h
    obtain ⟨vs, hvs, rfl⟩ := h
    obtain ⟨hlt, hlower⟩ := mapM_digitValue?_eq_some_iff.1 hvs
    have hlength : cs.length = vs.length := by
      simpa using congrArg List.length hlower
    rw [hlength, hlower, hexDigits_ofDigits hlt]
    exact ⟨ofDigits_lt hlt, rfl⟩
  · rintro ⟨hlt, hlower⟩
    obtain ⟨vs, rfl, hvs, rfl⟩ := exists_ofDigits hlt
    rw [hexDigits_ofDigits hvs] at hlower
    have hlength : cs.length = vs.length := by
      simpa using congrArg List.length hlower
    refine ⟨?_, hlength⟩
    rw [natOfDigits?, if_neg (by simpa using List.ne_nil_of_length_pos (hlength ▸ hpos)),
      mapM_digitValue?_eq_some_iff.2 ⟨hvs, hlower⟩, Option.map_some]

theorem exists_of_mem_hexDigits {width n : Nat} {c : Char} (h : c ∈ hexDigits width n) :
    ∃ v < 16, c = hexDigit v := by
  induction width generalizing n with
  | zero => cases h
  | succ width ih =>
    rcases List.mem_append.1 h with h | h
    · exact ih h
    · exact ⟨n % 16, Nat.mod_lt _ (by decide), List.mem_singleton.1 h⟩

theorem isHexDigit_of_map_toLower {cs : List Char} {width n : Nat}
    (h : cs.map Char.toLower = hexDigits width n) : ∀ c ∈ cs, IsHexDigit c := by
  intro c hc
  obtain ⟨v, hlt, hlower⟩ := exists_of_mem_hexDigits (h ▸ List.mem_map_of_mem hc)
  rw [← isSome_hexValue?_iff, hexValue?_eq_some_iff.2 ⟨hlt, hlower⟩]
  rfl

theorem map_toLower_hexDigits (width n : Nat) :
    (hexDigits width n).map Char.toLower = hexDigits width n := by
  induction width generalizing n with
  | zero => rfl
  | succ width ih =>
    rw [hexDigits, List.map_append, ih, List.map_singleton,
      toLower_hexDigit (n % 16) (Nat.mod_lt _ (by decide))]

/-- What is written for a number that fits is read as the number. -/
theorem natOfDigits?_hexDigits {width n : Nat} (hpos : 0 < width) (hlt : n < 16 ^ width) :
    natOfDigits? 16 (hexDigits width n) = some n :=
  ((natOfDigits?_eq_some_iff_toLower hpos).2 ⟨hlt, map_toLower_hexDigits width n⟩).1

end WebhookRelay.Text

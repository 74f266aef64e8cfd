-- SUMMARY: Decimal numerals: the digits of a number, and the readers of digits that take them back.
import WebhookRelay.Text.Digits
import Mathlib.Data.List.Induction

/-!
# Decimal numerals

A number is written by its decimal digits, the highest first. `numeral` gives
the values of those digits; every reader of decimal digits in the library reads
them back, whatever text follows that does not go on with a digit.
-/

namespace WebhookRelay.Text

/-- The values of the decimal digits of a number, the highest first. -/
def numeral (n : Nat) : List Nat :=
  if n < 10 then [n] else numeral (n / 10) ++ [n % 10]

theorem numeral_ne_nil (n : Nat) : numeral n ≠ [] := by
  rw [numeral]
  split <;> simp

/-- The text of a number writes its digits. -/
theorem toDigits_eq_map_numeral (n : Nat) :
    Nat.toDigits 10 n = (numeral n).map Nat.digitChar := by
  fun_induction numeral n with
  | case1 n h => rw [Nat.toDigits_of_lt_base h]; rfl
  | case2 n h ih => rw [Nat.toDigits_of_base_le (by decide) (by omega), ih]; simp

theorem toList_toString (n : Nat) : (toString n).toList = Nat.toDigits 10 n := by
  simp [toString, Nat.repr]

theorem lt_ten_of_mem_numeral {n d : Nat} (h : d ∈ numeral n) : d < 10 := by
  fun_induction numeral n with
  | case1 n hn => simp at h; omega
  | case2 n hn ih =>
    rcases List.mem_append.1 h with h | h
    · exact ih h
    · simp at h; omega

theorem ofDigits_append (base : Nat) (ds : List Nat) (d : Nat) :
    ofDigits base (ds ++ [d]) = ofDigits base ds * base + d := by
  simp [ofDigits]

/-- The digits of a number write that number. -/
@[simp] theorem ofDigits_numeral (n : Nat) : ofDigits 10 (numeral n) = n := by
  fun_induction numeral n with
  | case1 n h => simp [ofDigits]
  | case2 n h ih => rw [ofDigits_append, ih]; omega

/-- Only the number zero is written with a leading zero. -/
theorem eq_nil_of_numeral_eq_zero_cons {n : Nat} {ds : List Nat} (h : numeral n = 0 :: ds) :
    ds = [] := by
  fun_induction numeral n generalizing ds with
  | case1 n hn => simp_all
  | case2 n hn ih =>
    -- The front of the numeral is that of a number that is not zero.
    cases front : numeral (n / 10) with
    | nil => exact absurd front (numeral_ne_nil _)
    | cons d rest =>
      rw [front, List.cons_append] at h
      obtain ⟨rfl, -⟩ := List.cons.inj h
      have hrest : rest = [] := ih front
      have hzero : n / 10 = 0 := by
        rw [← ofDigits_numeral (n / 10), front, hrest]
        rfl
      omega

theorem ofDigits_pos {ds : List Nat} (hne : ds ≠ []) (hzero : ds.head? ≠ some 0) :
    0 < ofDigits 10 ds := by
  induction ds using List.reverseRecOn with
  | nil => exact absurd rfl hne
  | append_singleton ds d ih =>
    rw [ofDigits_append]
    cases ds with
    | nil =>
      have hd : d ≠ 0 := by simpa using hzero
      simp [ofDigits]
      omega
    | cons x ds =>
      have hfront : 0 < ofDigits 10 (x :: ds) := ih (by simp) (by simpa using hzero)
      omega

/-- Digits are the numeral of the number that they write, unless they have a leading zero. -/
theorem numeral_ofDigits {ds : List Nat} (hlt : ∀ d ∈ ds, d < 10) (hne : ds ≠ [])
    (hzero : ∀ rest, ds = 0 :: rest → rest = []) : numeral (ofDigits 10 ds) = ds := by
  induction ds using List.reverseRecOn with
  | nil => exact absurd rfl hne
  | append_singleton ds d ih =>
    have hd : d < 10 := hlt d (by simp)
    rw [ofDigits_append]
    cases ds with
    | nil =>
      rw [numeral, if_pos (by simpa [ofDigits] using hd)]
      simp [ofDigits]
    | cons x ds =>
      have hx : x ≠ 0 := by
        rintro rfl
        exact absurd (hzero _ rfl) (by simp)
      have hpos : 0 < ofDigits 10 (x :: ds) := ofDigits_pos (by simp) (by simpa using hx)
      have hfront : numeral (ofDigits 10 (x :: ds)) = x :: ds :=
        ih (fun d hd => hlt d (List.mem_append_left _ hd)) (by simp) fun rest hrest =>
          absurd (List.cons.inj hrest).1 hx
      have hdiv : (ofDigits 10 (x :: ds) * 10 + d) / 10 = ofDigits 10 (x :: ds) := by omega
      have hmod : (ofDigits 10 (x :: ds) * 10 + d) % 10 = d := by omega
      rw [numeral, if_neg (by omega), hdiv, hmod, hfront]

/-! ## Reading digits -/

/-- Only the digits of a numeral have a decimal value. -/
theorem eq_digitChar_of_decimalValue? {c : Char} {d : Nat} (h : decimalValue? c = some d) :
    d < 10 ∧ c = d.digitChar := by
  obtain ⟨hvalue, hd⟩ := Option.filter_eq_some_iff.1 h
  have hd : d < 10 := of_decide_eq_true hd
  refine ⟨hd, ?_⟩
  unfold hexValue? at hvalue
  split_ifs at hvalue with hdigit hlower hupper
  · have hlow : 48 ≤ c.toNat := hdigit.1
    have hcode : c.toNat - 48 = d := Option.some.inj hvalue
    have hchar : ∀ d < 10, d.digitChar.toNat = 48 + d := by decide
    refine Char.toNat_inj.1 ?_
    rw [hchar d hd]
    omega
  · have hcode : c.toNat - 97 + 10 = d := Option.some.inj hvalue
    omega
  · have hcode : c.toNat - 65 + 10 = d := Option.some.inj hvalue
    omega

theorem decimalValue?_digitChar {d : Nat} (h : d < 10) : decimalValue? d.digitChar = some d := by
  revert d
  decide

theorem digitChar_ne_sign {d : Nat} (h : d < 10) : d.digitChar ≠ '-' ∧ d.digitChar ≠ '+' := by
  revert d
  decide

theorem mapM_digitValue?_digitChar {ds : List Nat} (h : ∀ d ∈ ds, d < 10) :
    (ds.map Nat.digitChar).mapM (digitValue? 10) = some ds := by
  induction ds with
  | nil => rfl
  | cons d ds ih =>
    have hd : digitValue? 10 d.digitChar = some d := decimalValue?_digitChar (h d (by simp))
    have hds := ih fun x hx => h x (by simp [hx])
    simp [List.mapM_cons, hd, hds]

theorem spanDecimal_digitChar_append {ds : List Nat} {rest : List Char} (h : ∀ d ∈ ds, d < 10)
    (hrest : ∀ c ∈ rest.head?, decimalValue? c = none) :
    spanDecimal (ds.map Nat.digitChar ++ rest) = (ds, rest) := by
  induction ds with
  | nil =>
    cases rest with
    | nil => rfl
    | cons c rest => simp [spanDecimal, hrest c (by simp)]
  | cons d ds ih =>
    have hds := ih fun x hx => h x (by simp [hx])
    simp [spanDecimal, decimalValue?_digitChar (h d (by simp)), hds]

/-- A numeral is read as the number it is the numeral of. -/
@[simp] theorem natOfDigits?_toDigits (n : Nat) :
    natOfDigits? 10 (Nat.toDigits 10 n) = some n := by
  have hne : ¬ (Nat.toDigits 10 n).isEmpty := by simp
  rw [natOfDigits?, if_neg hne, toDigits_eq_map_numeral,
    mapM_digitValue?_digitChar fun _ => lt_ten_of_mem_numeral]
  simp

/-- A numeral is split off the front of a text that does not go on with a digit. -/
theorem spanDecimal_toDigits_append (n : Nat) {rest : List Char}
    (hrest : ∀ c ∈ rest.head?, decimalValue? c = none) :
    spanDecimal (Nat.toDigits 10 n ++ rest) = (numeral n, rest) := by
  rw [toDigits_eq_map_numeral]
  exact spanDecimal_digitChar_append (fun _ => lt_ten_of_mem_numeral) hrest

/-- No sign and no letter begins a numeral. -/
theorem exists_toDigits_eq_digitChar_cons (n : Nat) :
    ∃ d < 10, ∃ cs, Nat.toDigits 10 n = d.digitChar :: cs := by
  cases hds : numeral n with
  | nil => exact absurd hds (numeral_ne_nil n)
  | cons d ds =>
    refine ⟨d, lt_ten_of_mem_numeral (n := n) (by simp [hds]), ds.map Nat.digitChar, ?_⟩
    rw [toDigits_eq_map_numeral, hds, List.map_cons]

end WebhookRelay.Text

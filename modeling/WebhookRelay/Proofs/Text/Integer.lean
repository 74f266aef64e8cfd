-- SUMMARY: Signed decimal integers: which texts are read as one, told apart from the reader.
import WebhookRelay.Decimal.Reader
import WebhookRelay.Proofs.Text.Numeral

/-!
# Signed integers

`WritesInteger cs n` says that some characters are an optional sign and one or more ASCII digits,
and that they write `n`. Neither leading zeros nor a plus sign are excluded, so an integer is
written in many ways; only one of them is the text that the integer itself is written back as.
-/

namespace WebhookRelay.Decimal

/-- Whether a character is an ASCII digit. -/
def IsDigit (c : Char) : Prop :=
  '0' ≤ c ∧ c ≤ '9'

/-- One digit or more, and the number that they write. -/
inductive WritesNatural : List Char → Nat → Prop where
  | single {c : Char} (digit : IsDigit c) : WritesNatural [c] (c.toNat - '0'.toNat)
  | snoc {cs : List Char} {n : Nat} {c : Char} (front : WritesNatural cs n) (digit : IsDigit c) :
      WritesNatural (cs ++ [c]) (n * 10 + (c.toNat - '0'.toNat))

/-- An optional sign and digits, and the integer that they write. -/
inductive WritesInteger : List Char → Int → Prop where
  | bare {cs : List Char} {n : Nat} (digits : WritesNatural cs n) : WritesInteger cs n
  | plus {cs : List Char} {n : Nat} (digits : WritesNatural cs n) : WritesInteger ('+' :: cs) n
  | minus {cs : List Char} {n : Nat} (digits : WritesNatural cs n) : WritesInteger ('-' :: cs) (-n)

/-! ## Digits -/

theorem digitValue?_eq_some_iff {c : Char} {d : Nat} :
    Text.digitValue? 10 c = some d ↔ IsDigit c ∧ c.toNat - '0'.toNat = d := by
  constructor
  · intro h
    obtain ⟨hd, rfl⟩ := Text.eq_digitChar_of_decimalValue? h
    have hdigit : ∀ d < 10, ('0' ≤ d.digitChar ∧ d.digitChar ≤ '9') ∧
        d.digitChar.toNat - '0'.toNat = d := by
      decide
    exact hdigit d hd
  · rintro ⟨hc, rfl⟩
    have hvalue : Text.hexValue? c = some (c.toNat - '0'.toNat) := if_pos hc
    have hle : c.toNat ≤ 57 := hc.2
    have hlt : c.toNat - '0'.toNat < 10 := by
      show c.toNat - 48 < 10
      omega
    rw [Text.digitValue?, hvalue, Option.filter_some, if_pos (decide_eq_true hlt)]

theorem WritesNatural.ne_nil {cs : List Char} {n : Nat} (h : WritesNatural cs n) : cs ≠ [] := by
  cases h <;> simp

theorem WritesNatural.isDigit_of_mem {cs : List Char} {n : Nat} (h : WritesNatural cs n) :
    ∀ c ∈ cs, IsDigit c := by
  induction h with
  | single digit => simpa using digit
  | snoc _ digit ih =>
    intro c hc
    rcases List.mem_append.1 hc with hc | hc
    · exact ih c hc
    · rwa [List.mem_singleton.1 hc]

theorem natOfDigits?_singleton (c : Char) : Text.natOfDigits? 10 [c] = Text.digitValue? 10 c := by
  cases h : Text.digitValue? 10 c <;> simp [Text.natOfDigits?, List.mapM_cons, h, Text.ofDigits]

theorem natOfDigits?_snoc {cs : List Char} (hne : cs ≠ []) (c : Char) :
    Text.natOfDigits? 10 (cs ++ [c]) = (Text.natOfDigits? 10 cs).bind fun n =>
      (Text.digitValue? 10 c).map fun d => n * 10 + d := by
  have hne' : cs ++ [c] ≠ [] := by simp
  simp only [Text.natOfDigits?, List.isEmpty_iff, hne, hne', if_false, List.mapM_append]
  cases cs.mapM (Text.digitValue? 10) with
  | none => rfl
  | some ds =>
    cases h : Text.digitValue? 10 c with
    | none => simp [List.mapM_cons, h]
    | some d => simp [List.mapM_cons, h, Text.ofDigits_append]

theorem natOfDigits?_eq_some_iff {cs : List Char} {n : Nat} :
    Text.natOfDigits? 10 cs = some n ↔ WritesNatural cs n := by
  constructor
  · intro h
    induction cs using List.reverseRecOn generalizing n with
    | nil => cases h
    | append_singleton cs c ih =>
      by_cases hne : cs = []
      · subst hne
        obtain ⟨hc, rfl⟩ := digitValue?_eq_some_iff.1 ((natOfDigits?_singleton c).symm.trans h)
        exact .single hc
      · rw [natOfDigits?_snoc hne] at h
        obtain ⟨m, hm, h⟩ := Option.bind_eq_some_iff.1 h
        obtain ⟨d, hd, rfl⟩ := Option.map_eq_some_iff.1 h
        obtain ⟨hc, rfl⟩ := digitValue?_eq_some_iff.1 hd
        exact .snoc (ih hm) hc
  · intro h
    induction h with
    | single digit => rw [natOfDigits?_singleton, digitValue?_eq_some_iff.2 ⟨digit, rfl⟩]
    | snoc front digit ih =>
      rw [natOfDigits?_snoc front.ne_nil, ih, digitValue?_eq_some_iff.2 ⟨digit, rfl⟩]
      rfl

/-! ## Signs -/

/-- A row of digits begins with no sign. -/
theorem WritesNatural.ne_cons {cs rest : List Char} {n : Nat} (h : WritesNatural cs n) {c : Char}
    (hc : ¬ IsDigit c) : cs ≠ c :: rest := by
  rintro rfl
  exact hc (h.isDigit_of_mem c List.mem_cons_self)

theorem map_intCast_eq_some_iff {x : Option Nat} {f : Int → Int} {n : Int} :
    Option.map f (do let m ← x; pure (m : Int)) = some n ↔ ∃ m : Nat, x = some m ∧ f m = n := by
  cases x <;> simp

/-- The reader of integers accepts exactly their texts. -/
theorem readInt?_eq_some_iff {text : String} {n : Int} :
    readInt? text = some n ↔ WritesInteger text.toList n := by
  unfold readInt?
  generalize text.toList = cs
  constructor
  · intro h
    split at h
    · obtain ⟨m, hm, rfl⟩ := map_intCast_eq_some_iff.1 h
      exact .minus (natOfDigits?_eq_some_iff.1 hm)
    · obtain ⟨m, hm, rfl⟩ := map_intCast_eq_some_iff.1 h
      exact .plus (natOfDigits?_eq_some_iff.1 hm)
    · obtain ⟨m, hm, rfl⟩ := map_intCast_eq_some_iff.1 h
      exact .bare (natOfDigits?_eq_some_iff.1 hm)
  · intro h
    cases h with
    | minus digits => exact map_intCast_eq_some_iff.2 ⟨_, natOfDigits?_eq_some_iff.2 digits, rfl⟩
    | plus digits => exact map_intCast_eq_some_iff.2 ⟨_, natOfDigits?_eq_some_iff.2 digits, rfl⟩
    | bare digits =>
      split
      · exact absurd rfl (digits.ne_cons (by unfold IsDigit; decide))
      · exact absurd rfl (digits.ne_cons (by unfold IsDigit; decide))
      · exact map_intCast_eq_some_iff.2 ⟨_, natOfDigits?_eq_some_iff.2 digits, rfl⟩

/-- Whether a text is an integer that fits 64 bits with a sign. -/
def IsInt64 (text : String) : Prop :=
  ∃ n, WritesInteger text.toList n ∧ int64Min ≤ n ∧ n ≤ int64Max

theorem readInt64?_eq_some_iff {text : String} {n : Int} :
    readInt64? text = some n ↔ WritesInteger text.toList n ∧ int64Min ≤ n ∧ n ≤ int64Max := by
  rw [readInt64?, Option.filter_eq_some_iff, readInt?_eq_some_iff, decide_eq_true_eq]

theorem readInt64?_eq_none_iff {text : String} : readInt64? text = none ↔ ¬ IsInt64 text := by
  rw [Option.eq_none_iff_forall_ne_some, IsInt64, not_exists]
  exact forall_congr' fun n => not_congr readInt64?_eq_some_iff

end WebhookRelay.Decimal

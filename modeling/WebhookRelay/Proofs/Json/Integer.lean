-- SUMMARY: Integer literals: which are read as integers of 64 bits, and that they are written back as they stood.
import Mathlib
import WebhookRelay.Proofs.Json.Completeness
import WebhookRelay.Proofs.Json.NumberText

/-!
# Integer literals

A literal without fraction and exponent writes an integer. It is read as this integer when it fits
64 bits, with or without a sign (`Literal.Fits`), and is then written back as it stood. Any other,
minus zero included, is read as a double, and the text of a double is never that of an integer.
-/

namespace WebhookRelay

namespace Json

/-- The integer that a literal without fraction and exponent writes. -/
def Literal.integer (l : Literal) : Int :=
  if l.negative then -Text.ofDigits 10 l.whole else Text.ofDigits 10 l.whole

/-- Whether an integer literal fits 64 bits, signed or unsigned. Minus zero does not, since no
integer has that sign. -/
def Literal.Fits (l : Literal) : Prop :=
  -2 ^ 63 ≤ l.integer ∧ l.integer < 2 ^ 64 ∧ ¬ (l.negative = true ∧ l.integer = 0)

/-- Whether a literal is an integer that stands as some characters: an optional minus sign and
digits without leading zeros. -/
structure Literal.IsInteger (l : Literal) (cs : List Char) : Prop where
  writes : WritesNumber cs l []
  fraction : l.fraction = none
  exponent : l.exponent = none

theorem WritesDigits.eq_map {cs rest : List Char} {ds : List Nat} (h : WritesDigits cs ds rest) :
    (∀ d ∈ ds, d < 10) ∧ cs = ds.map Nat.digitChar ++ rest := by
  induction h with
  | last digit rest =>
    obtain ⟨hd, rfl⟩ := Text.eq_digitChar_of_decimalValue? digit
    simpa using hd
  | cons digit _ ih =>
    obtain ⟨hd, rfl⟩ := Text.eq_digitChar_of_decimalValue? digit
    obtain ⟨hds, rfl⟩ := ih
    simpa [hd] using hds

namespace Literal.IsInteger

variable {l : Literal} {cs : List Char}

/-- An integer literal stands as its sign and the digits of its size. -/
theorem eq_toDigits (h : l.IsInteger cs) :
    cs = (if l.negative then ['-'] else []) ++ Nat.toDigits 10 (Text.ofDigits 10 l.whole) := by
  obtain ⟨hwrites, hfraction, hexponent⟩ := h
  cases hwrites with
  | mk minus digits noLeadingZero point power =>
    simp only at hfraction hexponent
    subst hfraction hexponent
    cases point
    cases power
    obtain ⟨hlt, heq⟩ := digits.eq_map
    have hnumeral := Text.numeral_ofDigits hlt digits.ne_nil noLeadingZero
    rw [List.append_nil] at heq
    rw [Text.toDigits_eq_map_numeral, hnumeral]
    cases minus with
    | absent => simpa using heq
    | minus => simpa using heq

theorem not_mem_marks (h : l.IsInteger cs) {c : Char} (hc : c ∈ cs) : c ∉ marks := by
  rw [h.eq_toDigits] at hc
  rcases List.mem_append.1 hc with hc | hc
  · split_ifs at hc
    · rw [List.mem_singleton.1 hc]
      decide
    · cases hc
  · exact not_mem_marks_of_mem_toDigits hc

/-- An integer literal is read as an integer when it fits, and else as a double. -/
theorem number?_cases (h : l.IsInteger cs) :
    (l.Fits ∧ l.number? = some (.integer l.integer)) ∨
    (¬ l.Fits ∧ ∀ n, l.number? = some n → ∃ x, n = .float x) := by
  obtain ⟨negative, whole, fraction, exponent⟩ := l
  obtain ⟨-, rfl, rfl⟩ := h
  have hfloat : ∀ {f : Float → Float} {x? : Option Float} (n : Number),
      x?.map (fun x => Number.float (f x)) = some n → ∃ x, n = .float x := by
    rintro f x? n hn
    obtain ⟨x, -, rfl⟩ := Option.map_eq_some_iff.1 hn
    exact ⟨f x, rfl⟩
  unfold number?
  simp only [Option.isSome_none, Bool.or_false, Bool.false_eq_true, if_false]
  cases negative with
  | true =>
    have hiff : (Literal.Fits ⟨true, whole, none, none⟩) ↔
        0 < Text.ofDigits 10 whole ∧ Text.ofDigits 10 whole ≤ 9223372036854775808 := by
      simp only [Fits, integer, if_true, true_and]
      omega
    rw [hiff, if_pos rfl]
    split
    · next hfits => exact .inl ⟨hfits, rfl⟩
    · next hfits => exact .inr ⟨hfits, hfloat⟩
  | false =>
    have hiff : (Literal.Fits ⟨false, whole, none, none⟩) ↔
        Text.ofDigits 10 whole ≤ significandMax := by
      simp only [Fits, integer, significandMax, Bool.false_eq_true, if_false, false_and,
        not_false_eq_true, and_true]
      omega
    rw [hiff, if_neg Bool.false_ne_true]
    split
    · next hfits => exact .inl ⟨hfits, rfl⟩
    · next hfits => exact .inr ⟨hfits, hfloat⟩

/-- What is read as an integer is written as it stood. -/
theorem text_of_fits (h : l.IsInteger cs) (hfits : l.Fits) :
    (Number.integer l.integer).text = String.ofList cs := by
  rw [← String.toList_inj, String.toList_ofList, Number.toList_text_integer, h.eq_toDigits]
  obtain ⟨-, -, hzero⟩ := hfits
  unfold integer at hzero ⊢
  cases hnegative : l.negative with
  | true =>
    have hpos : 0 < Text.ofDigits 10 l.whole := by
      simp [hnegative] at hzero
      omega
    simp [hpos]
  | false => simp

/-- What is not read as an integer is never written as it stood. -/
theorem text_of_not_fits (h : l.IsInteger cs) (hfits : ¬ l.Fits) {n : Number}
    (hn : l.number? = some n) :
    n.text ≠ String.ofList cs ∧ ∀ m, n.text ≠ (Number.integer m).text := by
  obtain ⟨hfits', -⟩ | ⟨-, hfloat⟩ := h.number?_cases
  · exact absurd hfits' hfits
  obtain ⟨x, rfl⟩ := hfloat n hn
  refine ⟨fun heq => ?_, Number.text_float_ne x⟩
  obtain ⟨c, hc, hmark⟩ := Decimal.Layout.exists_mark_render x
  refine h.not_mem_marks ?_ hmark
  rw [← String.toList_ofList (l := cs), ← heq]
  exact hc

end Literal.IsInteger
end Json

end WebhookRelay

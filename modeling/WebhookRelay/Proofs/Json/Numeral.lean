-- SUMMARY: Decimal numerals in a JSON text, bare and in quotes: how they are read and what they stand for.
import WebhookRelay.Json.Reader
import WebhookRelay.Json.Writer
import WebhookRelay.Proofs.Text.Numeral

/-!
# Numerals in JSON

The decimal text of a number is a number literal when it stands bare and a string of
digits when it stands in quotes. Both are read off the front of a text that does not go
on with the number, and both are written back as the same digits.
-/

namespace WebhookRelay.Json

/-- The term that a bare numeral writes. -/
def bareNumeral (n : Nat) : Term :=
  .number ⟨false, Text.numeral n, none, none⟩

/-- The term that a numeral in quotes writes. -/
def quotedNumeral (n : Nat) : Term :=
  .string ((Nat.toDigits 10 n).map .char)

/-- Whether a text does not go on with a number that stands before it. -/
def EndsNumber (rest : List Char) : Prop :=
  ∀ c ∈ rest.head?, Text.decimalValue? c = none ∧ c ≠ '.' ∧ c ≠ 'e' ∧ c ≠ 'E'

/-! ## Bare numerals -/

theorem toDigits_append_ne_cons {n : Nat} {rest tail : List Char} {c : Char}
    (hc : Text.decimalValue? c = none) : Nat.toDigits 10 n ++ rest ≠ c :: tail := by
  obtain ⟨d, hd, cs, hcs⟩ := Text.exists_toDigits_eq_digitChar_cons n
  intro h
  rw [hcs, List.cons_append] at h
  obtain ⟨rfl, -⟩ := List.cons.inj h
  rw [Text.decimalValue?_digitChar hd] at hc
  cases hc

theorem skipBlanks_toDigits_append (n : Nat) (rest : List Char) :
    skipBlanks (Nat.toDigits 10 n ++ rest) = Nat.toDigits 10 n ++ rest := by
  obtain ⟨d, hd, cs, hcs⟩ := Text.exists_toDigits_eq_digitChar_cons n
  have hblank : ∀ d < 10, isBlank (Nat.digitChar d) = false := by
    decide
  rw [hcs, List.cons_append, skipBlanks, List.dropWhile_cons_of_neg (by simp [hblank d hd])]

theorem readFraction_of_endsNumber {rest : List Char} (h : EndsNumber rest) :
    readFraction rest = some (none, rest) := by
  unfold readFraction
  split
  · next tail =>
    obtain ⟨-, hpoint, -, -⟩ := h '.' (by simp)
    exact absurd rfl hpoint
  · rfl

theorem readExponent_of_endsNumber {rest : List Char} (h : EndsNumber rest) :
    readExponent rest = some (none, rest) := by
  unfold readExponent
  split
  · next c tail =>
    obtain ⟨-, -, he, hE⟩ := h c (by simp)
    rw [if_neg (by simp [he, hE])]
  · rfl

theorem readLiteral_toDigits_append (n : Nat) {rest : List Char} (h : EndsNumber rest) :
    readLiteral (Nat.toDigits 10 n ++ rest)
      = some (⟨false, Text.numeral n, none, none⟩, rest) := by
  have hspan := Text.spanDecimal_toDigits_append n fun c hc => (h c hc).1
  unfold readLiteral
  split
  next negative cs hsign =>
  have hsign : (negative, cs) = (false, Nat.toDigits 10 n ++ rest) := by
    rw [← hsign]
    split
    · next tail heq => exact absurd heq (toDigits_append_ne_cons (by decide))
    · rfl
  cases hsign
  rw [hspan]
  split
  · next heq =>
    obtain ⟨hnil, -⟩ := Prod.mk.inj heq
    exact absurd hnil (Text.numeral_ne_nil n)
  · next d ds _ heq =>
    obtain ⟨hzero, -⟩ := Prod.mk.inj heq
    cases Text.eq_nil_of_numeral_eq_zero_cons hzero
  · next heq =>
    cases heq
    simp only [Option.bind_eq_bind, Option.bind_some, readFraction_of_endsNumber h,
      readExponent_of_endsNumber h]
    rfl

theorem readTerm_toDigits_append (fuel n : Nat) {rest : List Char} (h : EndsNumber rest) :
    readTerm (fuel + 1) (Nat.toDigits 10 n ++ rest) = some (bareNumeral n, rest) := by
  rw [readTerm, skipBlanks_toDigits_append]
  split
  · next heq => exact absurd heq (toDigits_append_ne_cons (by decide))
  · next heq => exact absurd heq (toDigits_append_ne_cons (by decide))
  · next heq => exact absurd heq (toDigits_append_ne_cons (by decide))
  · next heq => exact absurd heq (toDigits_append_ne_cons (by decide))
  · next heq => exact absurd heq (toDigits_append_ne_cons (by decide))
  · next heq => exact absurd heq (toDigits_append_ne_cons (by decide))
  · rw [readLiteral_toDigits_append n h]
    rfl

/-- A numeral stands for its number as long as that fits an unsigned word. -/
theorem read?_bareNumeral {n : Nat} (h : n ≤ significandMax) (depth : Nat) :
    (bareNumeral n).read? depth = some (.number (.integer n)) := by
  rw [bareNumeral, Term.read?, Term.valueWith?, Literal.number?]
  simp [h]

/-! ## Numerals in quotes -/

/-- Whether a character stands for itself in a string. -/
def IsPlain (c : Char) : Prop :=
  c ≠ '"' ∧ c ≠ '\\' ∧ 0x20 ≤ c.toNat

theorem readString_plain {cs : List Char} (h : ∀ c ∈ cs, IsPlain c) (rest : List Char) :
    readString (cs ++ '"' :: rest) = some (cs.map .char, rest) := by
  induction cs with
  | nil => rw [List.nil_append, readString, List.map_nil]
  | cons c cs ih =>
    obtain ⟨hquote, hescape, hcontrol⟩ := h c List.mem_cons_self
    have ih := ih fun x hx => h x (List.mem_cons_of_mem _ hx)
    rw [List.cons_append]
    unfold readString
    split
    · next heq => cases heq
    · next heq => exact absurd (List.cons.inj heq).1 hquote
    · next heq => exact absurd (List.cons.inj heq).1 hescape
    · next heq => exact absurd (List.cons.inj heq).1 hescape
    · next heq =>
      cases heq
      rw [if_neg (by simp [hescape]; omega), ih]
      rfl

theorem isPlain_of_mem_toDigits {n : Nat} {c : Char} (h : c ∈ Nat.toDigits 10 n) : IsPlain c := by
  rw [Text.toDigits_eq_map_numeral] at h
  obtain ⟨d, hd, rfl⟩ := List.mem_map.1 h
  have hplain : ∀ d < 10, IsPlain (Nat.digitChar d) := by
    unfold IsPlain
    decide
  exact hplain d (Text.lt_ten_of_mem_numeral hd)

theorem readTerm_quote_toDigits_append (fuel n : Nat) (rest : List Char) :
    readTerm (fuel + 1) ('"' :: Nat.toDigits 10 n ++ '"' :: rest)
      = some (quotedNumeral n, rest) := by
  have hread := readString_plain (fun c hc => isPlain_of_mem_toDigits (n := n) hc) rest
  have hskip : skipBlanks ('"' :: Nat.toDigits 10 n ++ '"' :: rest)
      = '"' :: (Nat.toDigits 10 n ++ '"' :: rest) := rfl
  rw [readTerm, hskip]
  simp only [hread]
  rfl

theorem resolveUnits_map_char (cs : List Char) : resolveUnits (cs.map .char) = some cs := by
  induction cs with
  | nil => rfl
  | cons c cs ih => rw [List.map_cons, resolveUnits, ih, Option.map_some]

theorem read?_quotedNumeral (n depth : Nat) :
    (quotedNumeral n).read? depth = some (.string (toString n)) := by
  rw [quotedNumeral, Term.read?, Term.valueWith?, textOf?, resolveUnits_map_char]
  rfl

/-! ## Whole texts -/

theorem termOf?_toString (n : Nat) : termOf? (toString n) = some (bareNumeral n) := by
  have hends : EndsNumber [] := fun c hc => nomatch hc
  have hread := readTerm_toDigits_append (2 * (Nat.toDigits 10 n).length) n hends
  rw [List.append_nil] at hread
  unfold termOf?
  simp only [Text.toList_toString, hread]
  rfl

theorem termOf?_quote_toString (n : Nat) :
    termOf? ("\"" ++ toString n ++ "\"") = some (quotedNumeral n) := by
  have htext : ("\"" ++ toString n ++ "\"").toList = '"' :: Nat.toDigits 10 n ++ ['"'] := by
    simp [toString, Nat.repr]
  have hread := readTerm_quote_toDigits_append
    (2 * ('"' :: Nat.toDigits 10 n ++ ['"']).length) n []
  unfold termOf?
  simp only [htext, hread]
  rfl

end WebhookRelay.Json

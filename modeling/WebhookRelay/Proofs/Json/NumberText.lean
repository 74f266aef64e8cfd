-- SUMMARY: The texts of numbers: integers are signs and digits, and doubles never look like them.
import WebhookRelay.Json.Writer
import WebhookRelay.Proofs.Text.Numeral

/-!
# The texts of numbers

An integer is written as its sign and its digits. A double always shows what it is: by a point,
by an exponent, or by a letter when it is no finite number. So no double is written as an
integer, and no number is written as the empty text.
-/

namespace WebhookRelay

/-- What no integer is written with. -/
def marks : List Char :=
  ['.', 'e', 'N', 'i']

namespace Decimal.Layout

theorem exists_mark_digits (d : Scaled) : ∃ c ∈ (json.digits d).toList, c ∈ marks := by
  unfold digits
  simp only []
  by_cases hpositional : json.positional (d.exponent + (Nat.toDigits 10 d.significand).length)
  · rw [if_pos hpositional]
    refine ⟨'.', ?_, by decide⟩
    split_ifs <;> simp [json]
  · rw [if_neg hpositional]
    exact ⟨'e', by simp, by decide⟩

theorem exists_mark_render (x : Float) : ∃ c ∈ (json.render x).toList, c ∈ marks := by
  unfold render
  by_cases hnan : x.isNaN
  · rw [if_pos hnan]
    exact ⟨'N', by decide, by decide⟩
  rw [if_neg hnan]
  by_cases hinf : x.isInf
  · exact ⟨'i', by simp [hinf], by decide⟩
  by_cases hzero : x == 0.0
  · exact ⟨'.', by simp [hinf, hzero, json], by decide⟩
  · obtain ⟨c, hc, hmark⟩ := exists_mark_digits ((Dyadic.ofFloat x).shortest json.tie)
    exact ⟨c, by simp [hinf, hzero, hc], hmark⟩

end Decimal.Layout

namespace Json

theorem Number.toList_text_integer (n : Int) : (Number.integer n).text.toList
    = if n < 0 then '-' :: Nat.toDigits 10 n.natAbs else Nat.toDigits 10 n.natAbs := by
  have htext : (Number.integer n).text = n.repr := rfl
  rw [htext]
  cases n with
  | ofNat m => simp [Int.repr, Nat.repr]
  | negSucc m => simp [Int.repr, Nat.repr, Int.natAbs]

theorem digitChar_not_mem_marks {d : Nat} (h : d < 10) : d.digitChar ∉ marks := by
  revert d
  decide

theorem not_mem_marks_of_mem_toDigits {n : Nat} {c : Char} (hc : c ∈ Nat.toDigits 10 n) :
    c ∉ marks := by
  rw [Text.toDigits_eq_map_numeral] at hc
  obtain ⟨d, hd, rfl⟩ := List.mem_map.1 hc
  exact digitChar_not_mem_marks (Text.lt_ten_of_mem_numeral hd)

theorem Number.not_mem_marks_text_integer (n : Int) {c : Char}
    (hc : c ∈ (Number.integer n).text.toList) : c ∉ marks := by
  rw [toList_text_integer] at hc
  split at hc
  · rcases List.mem_cons.1 hc with rfl | hc
    · decide
    · exact not_mem_marks_of_mem_toDigits hc
  · exact not_mem_marks_of_mem_toDigits hc

theorem toDigits_inj {m n : Nat} : Nat.toDigits 10 m = Nat.toDigits 10 n ↔ m = n := by
  refine ⟨fun h => ?_, fun h => h ▸ rfl⟩
  have hread := Text.natOfDigits?_toDigits m
  rw [h, Text.natOfDigits?_toDigits] at hread
  exact (Option.some.inj hread).symm

theorem minus_cons_ne_toDigits (cs : List Char) (n : Nat) : '-' :: cs ≠ Nat.toDigits 10 n := by
  obtain ⟨d, hd, tail, htail⟩ := Text.exists_toDigits_eq_digitChar_cons n
  rw [htail]
  exact fun h => (Text.digitChar_ne_sign hd).1 (List.cons.inj h).1.symm

/-- Different integers have different texts. -/
theorem Number.text_integer_inj {m n : Int} :
    (Number.integer m).text = (Number.integer n).text ↔ m = n := by
  refine ⟨fun h => ?_, fun h => h ▸ rfl⟩
  rw [← String.toList_inj, toList_text_integer, toList_text_integer] at h
  split_ifs at h with hm hn hn
  · have habs := toDigits_inj.1 (List.cons.inj h).2
    omega
  · exact absurd h (minus_cons_ne_toDigits _ _)
  · exact absurd h.symm (minus_cons_ne_toDigits _ _)
  · have habs := toDigits_inj.1 h
    omega

/-- No double is written as an integer is. -/
theorem Number.text_float_ne (x : Float) (n : Int) :
    (Number.float x).text ≠ (Number.integer n).text := by
  obtain ⟨c, hc, hmark⟩ := Decimal.Layout.exists_mark_render x
  intro heq
  exact not_mem_marks_text_integer n (heq ▸ hc) hmark

theorem Number.text_ne_empty (n : Number) : n.text ≠ "" := by
  have hnil : n.text.toList ≠ [] := by
    cases n with
    | integer n =>
      rw [Number.toList_text_integer]
      split <;> simp
    | float x =>
      obtain ⟨c, hc, -⟩ := Decimal.Layout.exists_mark_render x
      exact List.ne_nil_of_mem hc
  exact fun h => hnil (by rw [h]; rfl)

end Json
end WebhookRelay

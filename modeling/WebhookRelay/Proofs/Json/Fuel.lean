-- SUMMARY: Readers of JSON use up their text, and fuel in proportion to the text is always enough.
import WebhookRelay.Json.Reader
import Mathlib.Data.List.Basic

/-!
# Fuel

The readers of values, items and members call each other with less fuel, and at every
second call at the latest with less text. A reader that succeeds leaves less text than
it was given (`shrinks`), so fuel of twice the length of the text is enough: with more
of it the reader gives the same (`steady`).
-/

namespace WebhookRelay.Json

theorem length_skipBlanks_le (cs : List Char) : (skipBlanks cs).length ≤ cs.length :=
  (List.dropWhile_suffix _).length_le

theorem lt_length_of_skipBlanks {cs rest : List Char} {c : Char} (h : skipBlanks cs = c :: rest) :
    rest.length < cs.length := by
  have hle := length_skipBlanks_le cs
  rw [h, List.length_cons] at hle
  exact hle

/-! ## Strings and numbers -/

theorem lt_length_of_readString {cs rest : List Char} {units : List StringUnit}
    (h : readString cs = some (units, rest)) : rest.length < cs.length := by
  fun_induction readString cs generalizing units rest with
  | case1 => cases h
  | case2 tail =>
    cases h
    exact Nat.lt_succ_self _
  | case3 a b c d tail ih =>
    simp only [Option.bind_eq_bind, Option.bind_eq_some_iff] at h
    obtain ⟨n, -, ⟨us, r⟩, htail, heq⟩ := h
    cases heq
    have hr := ih htail
    simp only [List.length_cons]
    omega
  | case4 e tail _ ih =>
    simp only [Option.bind_eq_bind, Option.bind_eq_some_iff] at h
    obtain ⟨c, -, ⟨us, r⟩, htail, heq⟩ := h
    cases heq
    have hr := ih htail
    simp only [List.length_cons]
    omega
  | case5 => cases h
  | case6 c tail _ _ _ _ ih =>
    simp only [Option.bind_eq_bind, Option.bind_eq_some_iff] at h
    obtain ⟨⟨us, r⟩, htail, heq⟩ := h
    cases heq
    have hr := ih htail
    simp only [List.length_cons]
    omega

theorem length_spanDecimal (cs : List Char) :
    (Text.spanDecimal cs).1.length + (Text.spanDecimal cs).2.length = cs.length := by
  induction cs with
  | nil => rfl
  | cons c cs ih =>
    unfold Text.spanDecimal
    cases Text.decimalValue? c with
    | none => simp
    | some d =>
      simp only [List.length_cons]
      omega

theorem length_le_of_readFraction {cs rest : List Char} {f : Option (List Nat)}
    (h : readFraction cs = some (f, rest)) : rest.length ≤ cs.length := by
  unfold readFraction at h
  split at h
  · next tail =>
    have hlen := length_spanDecimal tail
    split at h
    · cases h
    · next ds r hspan =>
      cases h
      rw [hspan] at hlen
      simp only [List.length_cons] at hlen ⊢
      omega
  · cases h
    exact Nat.le_refl _

theorem length_le_of_readExponent {cs rest : List Char} {e : Option (Bool × List Nat)}
    (h : readExponent cs = some (e, rest)) : rest.length ≤ cs.length := by
  unfold readExponent at h
  split at h
  · next c tail =>
    split at h
    · simp only at h
      split at h
      · cases h
      · next ds after _ hspan =>
        cases h
        have hlen := congrArg (fun p => p.1.length + p.2.length) hspan
        simp only [length_spanDecimal] at hlen
        -- The sign, when there is one, is not read as a digit.
        split at hlen <;> simp only [List.length_cons] at hlen ⊢ <;> omega
    · cases h
      exact Nat.le_refl _
  · cases h
    exact Nat.le_refl _

theorem lt_length_of_readLiteral {cs rest : List Char} {l : Literal}
    (h : readLiteral cs = some (l, rest)) : rest.length < cs.length := by
  unfold readLiteral at h
  simp only at h
  split at h
  · cases h
  · cases h
  · next ds after hne _ hspan =>
    simp only [Option.bind_eq_bind, Option.bind_some, Option.bind_eq_some_iff] at h
    obtain ⟨⟨f, cs₁⟩, hfraction, ⟨e, cs₂⟩, hexponent, heq⟩ := h
    cases heq
    have hf := length_le_of_readFraction hfraction
    have he := length_le_of_readExponent hexponent
    have hds : 0 < ds.length := List.length_pos_iff.2 hne
    have hlen := congrArg (fun p => p.1.length + p.2.length) hspan
    simp only [length_spanDecimal] at hlen
    split at hlen <;> simp only [List.length_cons] at hlen hf he ⊢ <;> omega

/-! ## Values -/

/-- What every reader with some fuel leaves is less than what it was given. -/
structure Shrinks (fuel : Nat) : Prop where
  term : ∀ {cs t rest}, readTerm fuel cs = some (t, rest) → rest.length < cs.length
  items : ∀ {cs ts rest}, readItems fuel cs = some (ts, rest) → rest.length < cs.length
  members : ∀ {cs ms rest}, scanMembers fuel cs = (ms, some rest) → rest.length < cs.length

theorem Shrinks.readTerm_succ {fuel : Nat} (ih : Shrinks fuel) {cs rest : List Char} {t : Term}
    (h : readTerm (fuel + 1) cs = some (t, rest)) : rest.length < cs.length := by
  unfold readTerm at h
  split at h
  · next tail hcs =>
    cases h
    have hlt := lt_length_of_skipBlanks hcs
    simp only [List.length_cons] at hlt
    omega
  · next tail hcs =>
    cases h
    have hlt := lt_length_of_skipBlanks hcs
    simp only [List.length_cons] at hlt
    omega
  · next tail hcs =>
    cases h
    have hlt := lt_length_of_skipBlanks hcs
    simp only [List.length_cons] at hlt
    omega
  · next tail hcs =>
    obtain ⟨⟨units, r⟩, hread, heq⟩ := Option.map_eq_some_iff.1 h
    cases heq
    exact Nat.lt_trans (lt_length_of_readString hread) (lt_length_of_skipBlanks hcs)
  · next tail hcs =>
    have hlt := lt_length_of_skipBlanks hcs
    split at h
    · next r htail =>
      cases h
      exact Nat.lt_trans (lt_length_of_skipBlanks htail) hlt
    · obtain ⟨⟨ts, r⟩, hread, heq⟩ := Option.map_eq_some_iff.1 h
      cases heq
      have hr := ih.items hread
      have hle := length_skipBlanks_le tail
      omega
  · next tail hcs =>
    have hlt := lt_length_of_skipBlanks hcs
    split at h
    · next r htail =>
      cases h
      exact Nat.lt_trans (lt_length_of_skipBlanks htail) hlt
    · split at h
      · next ms r hread =>
        cases h
        have hr := ih.members hread
        have hle := length_skipBlanks_le tail
        omega
      · cases h
  · obtain ⟨⟨l, r⟩, hread, heq⟩ := Option.map_eq_some_iff.1 h
    cases heq
    exact Nat.lt_of_lt_of_le (lt_length_of_readLiteral hread) (length_skipBlanks_le cs)

theorem Shrinks.readItems_succ {fuel : Nat} (ih : Shrinks fuel) {cs rest : List Char}
    {ts : List Term} (h : readItems (fuel + 1) cs = some (ts, rest)) :
    rest.length < cs.length := by
  unfold readItems at h
  split at h
  · cases h
  · next item tail hitem =>
    have hlt := ih.term hitem
    split at h
    · next r htail =>
      obtain ⟨⟨ts', r'⟩, hread, heq⟩ := Option.map_eq_some_iff.1 h
      cases heq
      exact Nat.lt_trans (ih.items hread) (Nat.lt_trans (lt_length_of_skipBlanks htail) hlt)
    · next r htail =>
      cases h
      exact Nat.lt_trans (lt_length_of_skipBlanks htail) hlt
    · cases h

theorem Shrinks.scanMembers_succ {fuel : Nat} (ih : Shrinks fuel) {cs rest : List Char}
    {ms : List (List StringUnit × Term)} (h : scanMembers (fuel + 1) cs = (ms, some rest)) :
    rest.length < cs.length := by
  unfold scanMembers at h
  split at h
  · next cs₁ h₁ =>
    split at h
    · cases h
    · next key cs₂ h₂ =>
      split at h
      · next cs₃ h₃ =>
        split at h
        · cases h
        · next value cs₄ h₄ =>
          have hlt : cs₄.length < cs.length :=
            Nat.lt_trans (ih.term h₄) <| Nat.lt_trans (lt_length_of_skipBlanks h₃) <|
              Nat.lt_trans (lt_length_of_readString h₂) (lt_length_of_skipBlanks h₁)
          split at h
          · next cs₅ h₅ =>
            obtain ⟨-, hafter⟩ := Prod.mk.inj h
            exact Nat.lt_trans (ih.members (Prod.ext rfl hafter))
              (Nat.lt_trans (lt_length_of_skipBlanks h₅) hlt)
          · next cs₅ h₅ =>
            cases h
            exact Nat.lt_trans (lt_length_of_skipBlanks h₅) hlt
          · cases h
      · cases h
  · cases h

theorem shrinks (fuel : Nat) : Shrinks fuel := by
  induction fuel with
  | zero =>
    refine ⟨?_, ?_, ?_⟩
    · intro cs t rest h
      simp [readTerm] at h
    · intro cs ts rest h
      simp [readItems] at h
    · intro cs ms rest h
      simp [scanMembers] at h
  | succ fuel ih => exact ⟨ih.readTerm_succ, ih.readItems_succ, ih.scanMembers_succ⟩

/-- A text short enough for the fuel is read the same with more fuel. -/
structure Steady (fuel : Nat) : Prop where
  term : ∀ {cs}, 2 * cs.length < fuel → readTerm (fuel + 1) cs = readTerm fuel cs
  items : ∀ {cs}, 2 * cs.length + 1 < fuel → readItems (fuel + 1) cs = readItems fuel cs
  members : ∀ {cs}, 2 * cs.length + 1 < fuel → scanMembers (fuel + 1) cs = scanMembers fuel cs

theorem Steady.readTerm_succ {fuel : Nat} (ih : Steady fuel) {cs : List Char}
    (h : 2 * cs.length < fuel + 1) : readTerm (fuel + 1 + 1) cs = readTerm (fuel + 1) cs := by
  rw [readTerm, readTerm]
  split
  · rfl
  · rfl
  · rfl
  · rfl
  · next tail hcs =>
    have hlt := lt_length_of_skipBlanks hcs
    have hle := length_skipBlanks_le tail
    split
    · rfl
    · rw [ih.items (by omega)]
  · next tail hcs =>
    have hlt := lt_length_of_skipBlanks hcs
    have hle := length_skipBlanks_le tail
    split
    · rfl
    · rw [ih.members (by omega)]
  · rfl

theorem Steady.readItems_succ {fuel : Nat} (ih : Steady fuel) {cs : List Char}
    (h : 2 * cs.length + 1 < fuel + 1) :
    readItems (fuel + 1 + 1) cs = readItems (fuel + 1) cs := by
  rw [readItems, readItems, ih.term (by omega)]
  split
  · rfl
  · next item tail hitem =>
    have hlt := (shrinks fuel).term hitem
    split
    · next r htail =>
      have hr := lt_length_of_skipBlanks htail
      rw [ih.items (by omega)]
    · rfl
    · rfl

theorem Steady.scanMembers_succ {fuel : Nat} (ih : Steady fuel) {cs : List Char}
    (h : 2 * cs.length + 1 < fuel + 1) :
    scanMembers (fuel + 1 + 1) cs = scanMembers (fuel + 1) cs := by
  rw [scanMembers, scanMembers]
  split
  · next cs₁ h₁ =>
    have hlt₁ := lt_length_of_skipBlanks h₁
    split
    · rfl
    · next key cs₂ h₂ =>
      have hlt₂ := lt_length_of_readString h₂
      split
      · next cs₃ h₃ =>
        have hlt₃ := lt_length_of_skipBlanks h₃
        rw [ih.term (by omega)]
        split
        · rfl
        · next value cs₄ h₄ =>
          have hlt₄ := (shrinks fuel).term h₄
          split
          · next cs₅ h₅ =>
            have hlt₅ := lt_length_of_skipBlanks h₅
            rw [ih.members (by omega)]
          · rfl
          · rfl
      · rfl
  · rfl

theorem steady (fuel : Nat) : Steady fuel := by
  induction fuel with
  | zero =>
    refine ⟨?_, ?_, ?_⟩
    · intro cs h
      omega
    · intro cs h
      omega
    · intro cs h
      omega
  | succ fuel ih => exact ⟨ih.readTerm_succ, ih.readItems_succ, ih.scanMembers_succ⟩

/-- Any fuel that is enough gives what the least such fuel gives. -/
theorem scanMembers_of_lt {fuel : Nat} {cs : List Char} (h : 2 * cs.length + 1 < fuel) :
    scanMembers fuel cs = scanMembers (2 * cs.length + 2) cs := by
  induction h with
  | refl => rfl
  | step h ih => rw [(steady _).members h, ih]

end WebhookRelay.Json

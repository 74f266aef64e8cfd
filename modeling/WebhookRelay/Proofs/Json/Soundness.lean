-- SUMMARY: What the reader of JSON takes off a text is what the grammar gives.
import WebhookRelay.Proofs.Json.Fuel
import WebhookRelay.Proofs.Json.Grammar

/-!
# Soundness of the reader

Every reader that succeeds has found a piece of JSON at the front of its text. For
values, items and members, which are read by each other, this is one statement about the
fuel (`Sound`).
-/

namespace WebhookRelay.Json

theorem blanks_skipBlanks (cs : List Char) : Blanks cs (skipBlanks cs) := by
  induction cs with
  | nil => exact .nil []
  | cons c cs ih =>
    unfold skipBlanks at ih ⊢
    rw [List.dropWhile_cons]
    split
    · rename_i hblank
      exact .cons hblank ih
    · exact .nil (c :: cs)

theorem blanks_of_skipBlanks {cs rest : List Char} (h : skipBlanks cs = rest) : Blanks cs rest := by
  rw [← h]
  exact blanks_skipBlanks cs

/-! ## Strings and numbers -/

theorem writesString_of_readString {cs rest : List Char} {units : List StringUnit}
    (h : readString cs = some (units, rest)) : WritesString cs units rest := by
  fun_induction readString cs generalizing units rest with
  | case1 => cases h
  | case2 tail =>
    cases h
    exact .close tail
  | case3 a b c d tail ih =>
    simp only [Option.bind_eq_bind, Option.bind_eq_some_iff] at h
    obtain ⟨n, hn, ⟨us, r⟩, htail, heq⟩ := h
    cases heq
    exact .code hn (ih htail)
  | case4 e tail _ ih =>
    simp only [Option.bind_eq_bind, Option.bind_eq_some_iff] at h
    obtain ⟨c, hc, ⟨us, r⟩, htail, heq⟩ := h
    cases heq
    exact .escape hc (ih htail)
  | case5 => cases h
  | case6 c tail hquote _ _ hplain ih =>
    simp only [Option.bind_eq_bind, Option.bind_eq_some_iff] at h
    obtain ⟨⟨us, r⟩, htail, heq⟩ := h
    cases heq
    rw [not_or] at hplain
    exact .plain ⟨hquote, hplain.1, Nat.not_lt.1 hplain.2⟩ (ih htail)

theorem writesDigits_of_spanDecimal {cs rest : List Char} {ds : List Nat}
    (h : Text.spanDecimal cs = (ds, rest)) (hne : ds ≠ []) : WritesDigits cs ds rest := by
  induction cs generalizing ds rest with
  | nil =>
    cases h
    exact absurd rfl hne
  | cons c cs ih =>
    unfold Text.spanDecimal at h
    cases hc : Text.decimalValue? c with
    | none =>
      rw [hc] at h
      cases h
      exact absurd rfl hne
    | some d =>
      rw [hc] at h
      cases h
      cases htail : (Text.spanDecimal cs).1 with
      | nil =>
        -- Without a further digit the rest of the text is what follows.
        have hrest : (Text.spanDecimal cs).2 = cs := by
          cases cs with
          | nil => rfl
          | cons x tail =>
            unfold Text.spanDecimal at htail ⊢
            cases hx : Text.decimalValue? x with
            | none => rfl
            | some _ =>
              rw [hx] at htail
              cases htail
        rw [hrest]
        exact .last hc cs
      | cons x xs =>
        rw [← htail]
        exact .cons hc (ih (Prod.ext rfl rfl) (by rw [htail]; exact List.cons_ne_nil x xs))

theorem writesFraction_of_readFraction {cs rest : List Char} {f : Option (List Nat)}
    (h : readFraction cs = some (f, rest)) : WritesFraction cs f rest := by
  unfold readFraction at h
  split at h
  · split at h
    · cases h
    · next hne hspan =>
      cases h
      exact .present (writesDigits_of_spanDecimal hspan hne)
  · cases h
    exact .absent _

theorem writesExponent_of_readExponent {cs rest : List Char} {e : Option (Bool × List Nat)}
    (h : readExponent cs = some (e, rest)) : WritesExponent cs e rest := by
  unfold readExponent at h
  split at h
  · next c tail =>
    split at h
    · next hletter =>
      simp only at h
      split at h
      · cases h
      · next hne hspan =>
        cases h
        refine .present hletter ?_ (writesDigits_of_spanDecimal hspan hne)
        split
        · exact .minus _
        · exact .plus _
        · exact .absent _
    · cases h
      exact .absent _
  · cases h
    exact .absent []

theorem writesNumber_of_readLiteral {cs rest : List Char} {l : Literal}
    (h : readLiteral cs = some (l, rest)) : WritesNumber cs l rest := by
  unfold readLiteral at h
  simp only at h
  split at h
  · cases h
  · cases h
  · next hne hzero hspan =>
    simp only [Option.bind_eq_bind, Option.bind_some, Option.bind_eq_some_iff] at h
    obtain ⟨⟨f, cs₁⟩, hfraction, ⟨e, cs₂⟩, hexponent, heq⟩ := h
    cases heq
    refine .mk ?_ (writesDigits_of_spanDecimal hspan hne) ?_
      (writesFraction_of_readFraction hfraction) (writesExponent_of_readExponent hexponent)
    · split
      · exact .minus _
      · exact .absent _
    · intro ds hds
      cases ds with
      | nil => rfl
      | cons d ds => exact absurd hds (hzero d ds)

/-! ## Values -/

/-- Whatever a reader with some fuel finds, the grammar gives. -/
structure Sound (fuel : Nat) : Prop where
  term : ∀ {cs t rest}, readTerm fuel cs = some (t, rest) → Writes (skipBlanks cs) (.value t) rest
  items : ∀ {cs ts rest}, readItems fuel cs = some (ts, rest) → Writes cs (.items ts) rest
  members : ∀ {cs ms rest}, scanMembers fuel cs = (ms, some rest) → Writes cs (.members ms) rest

theorem Sound.readTerm_succ {fuel : Nat} (ih : Sound fuel) {cs rest : List Char} {t : Term}
    (h : readTerm (fuel + 1) cs = some (t, rest)) : Writes (skipBlanks cs) (.value t) rest := by
  unfold readTerm at h
  split at h
  · next tail hcs =>
    cases h
    rw [hcs]
    exact .null rest
  · next tail hcs =>
    cases h
    rw [hcs]
    exact .boolTrue rest
  · next tail hcs =>
    cases h
    rw [hcs]
    exact .boolFalse rest
  · next tail hcs =>
    obtain ⟨⟨units, r⟩, hread, heq⟩ := Option.map_eq_some_iff.1 h
    cases heq
    rw [hcs]
    exact .string (writesString_of_readString hread)
  · next tail hcs =>
    rw [hcs]
    split at h
    · next r htail =>
      cases h
      exact .emptyArray (blanks_of_skipBlanks htail)
    · obtain ⟨⟨ts, r⟩, hread, heq⟩ := Option.map_eq_some_iff.1 h
      cases heq
      exact .array ((blanks_skipBlanks tail).items (ih.items hread))
  · next tail hcs =>
    rw [hcs]
    split at h
    · next r htail =>
      cases h
      exact .emptyObject (blanks_of_skipBlanks htail)
    · split at h
      · next ms r hread =>
        cases h
        exact .object ((blanks_skipBlanks tail).members (ih.members hread))
      · cases h
  · obtain ⟨⟨l, r⟩, hread, heq⟩ := Option.map_eq_some_iff.1 h
    cases heq
    exact .number (writesNumber_of_readLiteral hread)

theorem Sound.readItems_succ {fuel : Nat} (ih : Sound fuel) {cs rest : List Char}
    {ts : List Term} (h : readItems (fuel + 1) cs = some (ts, rest)) :
    Writes cs (.items ts) rest := by
  unfold readItems at h
  split at h
  · cases h
  · next item tail hitem =>
    have hvalue := ih.term hitem
    split at h
    · next r htail =>
      obtain ⟨⟨ts', r'⟩, hread, heq⟩ := Option.map_eq_some_iff.1 h
      cases heq
      exact .item (blanks_skipBlanks cs) hvalue (blanks_of_skipBlanks htail) (ih.items hread)
    · next r htail =>
      cases h
      exact .lastItem (blanks_skipBlanks cs) hvalue (blanks_of_skipBlanks htail)
    · cases h

theorem Sound.scanMembers_succ {fuel : Nat} (ih : Sound fuel) {cs rest : List Char}
    {ms : List (List StringUnit × Term)} (h : scanMembers (fuel + 1) cs = (ms, some rest)) :
    Writes cs (.members ms) rest := by
  unfold scanMembers at h
  split at h
  · next cs₁ h₁ =>
    split at h
    · cases h
    · next key cs₂ h₂ =>
      split at h
      · next cs₃ h₃ =>
        split at h
        · cases h
        · next value cs₄ h₄ =>
          have hkey := writesString_of_readString h₂
          have hvalue := ih.term h₄
          split at h
          · next cs₅ h₅ =>
            obtain ⟨hms, hafter⟩ := Prod.mk.inj h
            rw [← hms]
            exact .member (blanks_of_skipBlanks h₁) hkey (blanks_of_skipBlanks h₃)
              (blanks_skipBlanks cs₃) hvalue (blanks_of_skipBlanks h₅)
              (ih.members (Prod.ext rfl hafter))
          · next cs₅ h₅ =>
            cases h
            exact .lastMember (blanks_of_skipBlanks h₁) hkey (blanks_of_skipBlanks h₃)
              (blanks_skipBlanks cs₃) hvalue (blanks_of_skipBlanks h₅)
          · cases h
      · cases h
  · cases h

theorem sound (fuel : Nat) : Sound fuel := by
  induction fuel with
  | zero =>
    refine ⟨?_, ?_, ?_⟩
    · intro cs t rest h
      simp [readTerm] at h
    · intro cs ts rest h
      simp [readItems] at h
    · intro cs ms rest h
      simp [scanMembers] at h
  | succ fuel ih => exact ⟨ih.readTerm_succ, ih.readItems_succ, ih.scanMembers_succ⟩

/-- A text that is read is one value with only blanks around it. -/
theorem document_of_termOf? {text : String} {t : Term} (h : termOf? text = some t) :
    Document text t := by
  unfold termOf? at h
  simp only at h
  split at h
  · next t' behind hread =>
    obtain ⟨hempty, h⟩ := Option.ite_none_right_eq_some.1 h
    cases h
    exact ⟨_, behind, blanks_skipBlanks _, (sound _).term hread,
      blanks_of_skipBlanks (List.isEmpty_iff.1 hempty)⟩
  · cases h

end WebhookRelay.Json

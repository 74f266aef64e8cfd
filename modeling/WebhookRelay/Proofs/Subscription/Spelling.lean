-- SUMMARY: Spellings of webhook ids: which texts are read as an id.
import WebhookRelay.Subscription.Id
import WebhookRelay.Proofs.Text.Hexadecimal

/-!
# Spellings of ids

An id is spelled by its 32 digits in either case: alone, in groups, with the groups in braces or
behind `urn:uuid:` (`WebhookId.IsSpelling`). A text is read as an id exactly when it spells it
(`ofText?_eq_some_iff`), and the canonical text is one of the spellings.
-/

namespace WebhookRelay.WebhookId

/-- The texts that spell an id. -/
inductive IsSpelling (id : WebhookId) : List Char → Prop where
  | plain {ds : List Char} (digits : ds.map Char.toLower = Text.hexDigits 32 id.bits.toNat) :
      IsSpelling id ds
  | grouped {ds : List Char} (digits : ds.map Char.toLower = Text.hexDigits 32 id.bits.toNat) :
      IsSpelling id (hyphenate groupSizes ds)
  | braced {ds : List Char} (digits : ds.map Char.toLower = Text.hexDigits 32 id.bits.toNat) :
      IsSpelling id ('\x7b' :: (hyphenate groupSizes ds ++ ['\x7d']))
  | urn {ds : List Char} (digits : ds.map Char.toLower = Text.hexDigits 32 id.bits.toNat) :
      IsSpelling id ("urn:uuid:".toList ++ hyphenate groupSizes ds)

/-! ## Groups -/

theorem ungroup?_eq_some_iff {sizes : List Nat} {cs ds : List Char} :
    ungroup? sizes cs = some ds ↔ cs = hyphenate sizes ds ∧ ds.length = sizes.sum := by
  induction sizes generalizing cs ds with
  | nil =>
    rw [ungroup?, hyphenate]
    cases cs <;> cases ds <;> simp
  | cons n sizes ih =>
    cases sizes with
    | nil =>
      simp only [ungroup?, hyphenate, List.sum_singleton]
      grind
    | cons m sizes =>
      constructor
      · intro h
        unfold ungroup? at h
        split at h
        · next rest hdrop =>
          obtain ⟨ds', hrest, rfl⟩ := Option.map_eq_some_iff.1 h
          obtain ⟨rfl, hlength⟩ := ih.1 hrest
          have hfront : (cs.take n).length = n := by
            have hpos := congrArg List.length hdrop
            rw [List.length_drop, List.length_cons] at hpos
            rw [List.length_take]
            omega
          constructor
          · rw [hyphenate, List.take_left' hfront, List.drop_left' hfront, ← hdrop,
              List.take_append_drop]
            nofun
          · rw [List.length_append, hfront, hlength]
            exact List.sum_cons.symm
        · cases h
      · rintro ⟨rfl, hlength⟩
        rw [List.sum_cons] at hlength
        have hfront : (ds.take n).length = n := by
          rw [List.length_take]
          omega
        have hrest : ungroup? (m :: sizes) (hyphenate (m :: sizes) (ds.drop n))
            = some (ds.drop n) := by
          refine ih.2 ⟨rfl, ?_⟩
          rw [List.length_drop]
          omega
        rw [ungroup?, hyphenate, List.drop_left' hfront, List.take_left' hfront]
        · simp only [hrest, Option.map_some, List.take_append_drop]
        all_goals nofun

/-! ## Spellings -/

theorem length_hyphenate {ds : List Char} (h : ds.length = 32) :
    (hyphenate groupSizes ds).length = 36 := by
  simp [hyphenate, groupSizes, h]

/-- Digits in groups begin with a digit, so they are taken for no other form. -/
theorem digitsOf?_hyphenate {ds : List Char} (hlength : ds.length = 32)
    (hdigits : ∀ c ∈ ds, Text.IsHexDigit c) :
    digitsOf? (hyphenate groupSizes ds) = some ds := by
  have hungroup : ungroup? groupSizes (hyphenate groupSizes ds) = some ds :=
    ungroup?_eq_some_iff.2 ⟨rfl, hlength⟩
  have hlength' := length_hyphenate hlength
  cases ds with
  | nil => cases hlength
  | cons d ds =>
    have hd := hdigits d List.mem_cons_self
    obtain ⟨rest, hhead⟩ : ∃ rest, hyphenate groupSizes (d :: ds) = d :: rest := ⟨_, rfl⟩
    rw [hhead] at hungroup hlength' ⊢
    unfold digitsOf?
    rw [if_neg (by omega)]
    split
    · next heq =>
      cases heq
      exact absurd hd (by unfold Text.IsHexDigit; decide)
    · next heq =>
      cases heq
      exact absurd hd (by unfold Text.IsHexDigit; decide)
    · exact hungroup

theorem digitsOf?_braced {ds : List Char} (hlength : ds.length = 32) :
    digitsOf? ('\x7b' :: (hyphenate groupSizes ds ++ ['\x7d'])) = some ds := by
  have hlength' := length_hyphenate hlength
  unfold digitsOf?
  rw [if_neg (by simp [hlength'])]
  simp only [List.getLast?_concat, List.dropLast_concat]
  exact ungroup?_eq_some_iff.2 ⟨rfl, hlength⟩

theorem digitsOf?_urn {ds : List Char} (hlength : ds.length = 32) :
    digitsOf? ("urn:uuid:".toList ++ hyphenate groupSizes ds) = some ds := by
  have hlength' := length_hyphenate hlength
  unfold digitsOf?
  rw [if_neg (by simp [hlength'])]
  exact ungroup?_eq_some_iff.2 ⟨rfl, hlength⟩

/-- The forms in which digits are found. -/
theorem digitsOf?_cases {cs ds : List Char} (h : digitsOf? cs = some ds) :
    cs = ds ∨ cs = hyphenate groupSizes ds ∨
      cs = '\x7b' :: (hyphenate groupSizes ds ++ ['\x7d']) ∨
      cs = "urn:uuid:".toList ++ hyphenate groupSizes ds := by
  unfold digitsOf? at h
  split at h
  · cases h
    exact .inl rfl
  split at h
  · obtain ⟨rfl, -⟩ := ungroup?_eq_some_iff.1 h
    exact .inr (.inr (.inr rfl))
  · split at h
    · next hlast =>
      obtain ⟨hgroups, -⟩ := ungroup?_eq_some_iff.1 h
      rw [← hgroups, List.dropLast_append_getLast? _ hlast]
      exact .inr (.inr (.inl rfl))
    · cases h
  · exact .inr (.inl (ungroup?_eq_some_iff.1 h).1)

/-- Thirty-two characters are read as an id exactly when they are its digits. -/
theorem readDigits_eq_some_iff {ds : List Char} {id : WebhookId} :
    (if ds.length = 32 then (Text.natOfDigits? 16 ds).map fun n => (⟨.ofNat 128 n⟩ : WebhookId)
      else none) = some id ↔ ds.map Char.toLower = Text.hexDigits 32 id.bits.toNat := by
  have hread : ∀ n, Text.natOfDigits? 16 ds = some n ∧ ds.length = 32 ↔
      n < 16 ^ 32 ∧ ds.map Char.toLower = Text.hexDigits 32 n :=
    fun n => Text.natOfDigits?_eq_some_iff_toLower (by decide)
  constructor
  · intro h
    split at h
    · next hlength =>
      obtain ⟨n, hn, rfl⟩ := Option.map_eq_some_iff.1 h
      obtain ⟨hlt, hlower⟩ := (hread n).1 ⟨hn, hlength⟩
      rw [hlower, BitVec.toNat_ofNat, Nat.mod_eq_of_lt (by simpa using hlt)]
    · cases h
  · intro h
    obtain ⟨hn, hlength⟩ := (hread id.bits.toNat).2 ⟨by simpa using id.bits.isLt, h⟩
    rw [if_pos hlength, hn, Option.map_some, BitVec.ofNat_toNat, BitVec.setWidth_eq]

/-- A text is read as an id exactly when it spells it. -/
theorem ofText?_eq_some_iff {s : String} {id : WebhookId} :
    ofText? s = some id ↔ IsSpelling id s.toList := by
  simp only [ofText?, Option.bind_eq_bind, Option.bind_eq_some_iff, readDigits_eq_some_iff]
  constructor
  · rintro ⟨ds, hds, hdigits⟩
    rcases digitsOf?_cases hds with heq | heq | heq | heq <;> rw [heq]
    · exact .plain hdigits
    · exact .grouped hdigits
    · exact .braced hdigits
    · exact .urn hdigits
  · generalize s.toList = cs
    intro h
    have hlength : ∀ {ds : List Char}, ds.map Char.toLower = Text.hexDigits 32 id.bits.toNat →
        ds.length = 32 := by
      intro ds hdigits
      simpa using congrArg List.length hdigits
    cases h with
    | plain digits => exact ⟨_, if_pos (hlength digits), digits⟩
    | grouped digits =>
      exact ⟨_, digitsOf?_hyphenate (hlength digits) (Text.isHexDigit_of_map_toLower digits),
        digits⟩
    | braced digits => exact ⟨_, digitsOf?_braced (hlength digits), digits⟩
    | urn digits => exact ⟨_, digitsOf?_urn (hlength digits), digits⟩

/-- The canonical text is one of the spellings. -/
theorem ofText?_text (id : WebhookId) : ofText? id.text = some id := by
  rw [ofText?_eq_some_iff, text, String.toList_ofList]
  exact .grouped (Text.map_toLower_hexDigits 32 _)

end WebhookRelay.WebhookId

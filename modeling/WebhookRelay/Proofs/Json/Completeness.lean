-- SUMMARY: The reader of JSON reads whatever the grammar gives, so it accepts exactly the grammar's texts, each with one term.
import WebhookRelay.Proofs.Json.Soundness

/-!
# Completeness of the reader

Whatever piece of JSON stands at the front of a text, the reader takes it off. It takes
as much as it can, and the grammar does not: `1` is a number at the front of `12`. So
what follows a value must not go on with a number (`EndsNumber`), which is so wherever
the grammar puts a value.

Together with soundness this characterises the reader (`termOf?_eq_some_iff`), and shows
that no text has two terms (`Document.unique`).
-/

namespace WebhookRelay.Json

/-! ## Blanks -/

/-- The reader skips all blanks, however many the grammar took. -/
theorem Blanks.skipBlanks_eq {cs rest : List Char} (h : Blanks cs rest) :
    skipBlanks cs = skipBlanks rest := by
  induction h with
  | nil => rfl
  | cons blank _ ih => exact (List.dropWhile_cons_of_pos blank).trans ih

theorem skipBlanks_cons {c : Char} (h : isBlank c = false) (rest : List Char) :
    skipBlanks (c :: rest) = c :: rest :=
  List.dropWhile_cons_of_neg (by rw [h]; exact Bool.false_ne_true)

theorem Blanks.skipBlanks_eq_cons {cs rest : List Char} {c : Char} (h : Blanks cs (c :: rest))
    (hc : isBlank c = false) : skipBlanks cs = c :: rest :=
  h.skipBlanks_eq.trans (skipBlanks_cons hc rest)

/-- Neither blanks nor what closes or separates values goes on with a number. -/
theorem Blanks.endsNumber {cs rest : List Char} (h : Blanks cs rest) (hrest : EndsNumber rest) :
    EndsNumber cs := by
  cases h with
  | nil => exact hrest
  | @cons c cs _ blank more =>
    intro x hx
    obtain rfl : c = x := by simpa using hx
    have hc : c = ' ' ∨ c = '\t' ∨ c = '\n' ∨ c = '\r' := by
      simpa [isBlank, or_assoc] using blank
    rcases hc with rfl | rfl | rfl | rfl <;> decide

theorem endsNumber_cons {c : Char}
    (h : Text.decimalValue? c = none ∧ c ≠ '.' ∧ c ≠ 'e' ∧ c ≠ 'E') (rest : List Char) :
    EndsNumber (c :: rest) := by
  intro x hx
  obtain rfl : c = x := by simpa using hx
  exact h

theorem endsNumber_nil : EndsNumber [] := by
  intro x hx
  simp at hx

/-! ## Strings and numbers -/

theorem WritesString.readString_eq {cs rest : List Char} {units : List StringUnit}
    (h : WritesString cs units rest) : readString cs = some (units, rest) := by
  induction h with
  | close => rw [readString]
  | @plain c cs _ _ plain _ ih =>
    obtain ⟨hquote, hescape, hcontrol⟩ := plain
    unfold readString
    split
    · next heq => cases heq
    · next heq => exact absurd (List.cons.inj heq).1 hquote
    · next heq => exact absurd (List.cons.inj heq).1 hescape
    · next heq => exact absurd (List.cons.inj heq).1 hescape
    · next heq =>
      cases heq
      rw [if_neg (by simp [hescape]; omega), ih]
      rfl
  | @escape e c cs _ _ escape _ ih =>
    have hne : e ≠ 'u' := by
      rintro rfl
      cases escape
    unfold readString
    split
    · next heq => cases heq
    · next heq => cases heq
    · next heq =>
      cases heq
      exact absurd rfl hne
    · next heq =>
      cases heq
      rw [escape, ih]
      rfl
    · next hnot heq =>
      cases heq
      exact absurd rfl (hnot _ _ rfl)
  | code code _ ih =>
    rw [readString, code, ih]
    rfl

/-- Whether no digit follows. -/
def EndsDigits (rest : List Char) : Prop :=
  ∀ c ∈ rest.head?, Text.decimalValue? c = none

theorem WritesDigits.spanDecimal_eq {cs rest : List Char} {ds : List Nat}
    (h : WritesDigits cs ds rest) (hrest : EndsDigits rest) :
    Text.spanDecimal cs = (ds, rest) := by
  induction h with
  | last digit rest =>
    have hnone : Text.spanDecimal rest = ([], rest) := by
      cases rest with
      | nil => rfl
      | cons x tail => rw [Text.spanDecimal, hrest x (by simp)]
    rw [Text.spanDecimal, digit]
    simp only [hnone]
  | cons digit _ ih =>
    rw [Text.spanDecimal, digit]
    simp only [ih hrest]

theorem WritesDigits.ne_nil {cs rest : List Char} {ds : List Nat} (h : WritesDigits cs ds rest) :
    ds ≠ [] := by
  cases h <;> exact List.cons_ne_nil _ _

theorem WritesFraction.readFraction_eq {cs rest : List Char} {f : Option (List Nat)}
    (h : WritesFraction cs f rest) (hpoint : f = none → rest.head? ≠ some '.')
    (hrest : EndsDigits rest) : readFraction cs = some (f, rest) := by
  cases h with
  | absent =>
    unfold readFraction
    split
    · exact absurd rfl (hpoint rfl)
    · rfl
  | present digits =>
    rw [readFraction, digits.spanDecimal_eq hrest]
    split
    · next heq => exact absurd (Prod.mk.inj heq).1 digits.ne_nil
    · next heq =>
      cases heq
      rfl

theorem EndsNumber.endsDigits {rest : List Char} (h : EndsNumber rest) : EndsDigits rest :=
  fun c hc => (h c hc).1

/-- Whether a text begins with a digit. -/
def BeginsDigits (cs : List Char) : Prop :=
  ∃ c tail, cs = c :: tail ∧ (Text.decimalValue? c).isSome = true

/-- A digit is no sign. -/
theorem BeginsDigits.ne_cons {cs tail : List Char} {c : Char} (h : BeginsDigits cs)
    (hc : Text.decimalValue? c = none) : cs ≠ c :: tail := by
  obtain ⟨x, xs, rfl, hx⟩ := h
  intro heq
  obtain ⟨rfl, -⟩ := List.cons.inj heq
  rw [hc] at hx
  cases hx

theorem WritesExponent.readExponent_eq {cs rest : List Char} {e : Option (Bool × List Nat)}
    (h : WritesExponent cs e rest) (hrest : EndsNumber rest) :
    readExponent cs = some (e, rest) := by
  cases h with
  | absent => exact readExponent_of_endsNumber hrest
  | @present e cs signed _ minus ds letter sign digits =>
    have hspan := digits.spanDecimal_eq hrest.endsDigits
    have hdigit : BeginsDigits signed := digits.head
    unfold readExponent
    show (if e = 'e' ∨ e = 'E' then _ else _) = _
    rw [if_pos letter]
    split
    next minus' signed' hread =>
    have hsign : (minus', signed') = (minus, signed) := by
      rw [← hread]
      cases sign with
      | minus => rfl
      | plus => rfl
      | absent =>
        split
        · exact absurd rfl (hdigit.ne_cons (by decide))
        · exact absurd rfl (hdigit.ne_cons (by decide))
        · rfl
    cases hsign
    rw [hspan]
    split
    · next heq => exact absurd (Prod.mk.inj heq).1 digits.ne_nil
    · next heq =>
      cases heq
      rfl

/-- What may stand behind the whole digits or the fraction of a number is no digit. -/
theorem WritesExponent.endsDigits {cs rest : List Char} {e : Option (Bool × List Nat)}
    (h : WritesExponent cs e rest) (hrest : EndsNumber rest) :
    EndsDigits cs ∧ cs.head? ≠ some '.' := by
  cases h with
  | absent =>
    refine ⟨hrest.endsDigits, ?_⟩
    intro hpoint
    exact (hrest '.' hpoint).2.1 rfl
  | present letter =>
    rcases letter with rfl | rfl
    · exact ⟨fun c hc => by cases hc; rfl, by simp⟩
    · exact ⟨fun c hc => by cases hc; rfl, by simp⟩

theorem WritesFraction.endsDigits {cs rest : List Char} {f : Option (List Nat)}
    (h : WritesFraction cs f rest) (hrest : EndsDigits rest) : EndsDigits cs := by
  cases h with
  | absent => exact hrest
  | present =>
    intro c hc
    cases hc
    rfl

theorem WritesNumber.readLiteral_eq {cs rest : List Char} {l : Literal}
    (h : WritesNumber cs l rest) (hrest : EndsNumber rest) :
    readLiteral cs = some (l, rest) := by
  cases h with
  | @mk unsigned _ _ _ negative _ _ _ minus digits noLeadingZero point power =>
    obtain ⟨hdigits, hpoint⟩ := power.endsDigits hrest
    have hspan := digits.spanDecimal_eq (point.endsDigits hdigits)
    have hdigit := digits.head
    unfold readLiteral
    split
    next negative' unsigned' hread =>
    have hminus : (negative', unsigned') = (negative, unsigned) := by
      rw [← hread]
      cases minus with
      | minus => rfl
      | absent =>
        split
        · exact absurd rfl (BeginsDigits.ne_cons hdigit (by decide))
        · rfl
    cases hminus
    rw [hspan]
    split
    · next heq => exact absurd (Prod.mk.inj heq).1 digits.ne_nil
    · next heq => cases noLeadingZero _ (Prod.mk.inj heq).1
    · next heq =>
      cases heq
      simp only [Option.bind_eq_bind, Option.bind_some,
        point.readFraction_eq (fun _ => hpoint) hdigits, power.readExponent_eq hrest]
      rfl

/-! ## Values -/

theorem BeginsNumber.ne {c x : Char} (h : BeginsNumber c)
    (hx : x ≠ '-' ∧ Text.decimalValue? x = none) : c ≠ x := by
  rintro rfl
  rcases h with rfl | h
  · exact hx.1 rfl
  · rw [hx.2] at h
    cases h

theorem BeginsNumber.isBlank_eq {c : Char} (h : BeginsNumber c) : isBlank c = false := by
  have hspace := h.ne (x := ' ') (by decide)
  have htab := h.ne (x := '\t') (by decide)
  have hline := h.ne (x := '\n') (by decide)
  have hreturn := h.ne (x := '\r') (by decide)
  simp [isBlank, hspace, htab, hline, hreturn]

/-- A value begins with no blank and with nothing that closes an array. -/
theorem Writes.value_head {cs rest : List Char} {t : Term} (h : Writes cs (.value t) rest) :
    ∃ c tail, cs = c :: tail ∧ isBlank c = false ∧ c ≠ ']' := by
  cases h with
  | number number =>
    obtain ⟨c, tail, hcs, hc⟩ := number.head
    exact ⟨c, tail, hcs, hc.isBlank_eq, hc.ne (by decide)⟩
  | null | boolTrue | boolFalse | string | emptyArray | array | emptyObject | object =>
    exact ⟨_, _, rfl, by decide, by decide⟩

theorem Writes.skipBlanks_eq {cs rest : List Char} {t : Term} (h : Writes cs (.value t) rest) :
    skipBlanks cs = cs := by
  obtain ⟨c, tail, rfl, hblank, -⟩ := h.value_head
  exact skipBlanks_cons hblank tail

/-- The items of an array begin with no closing bracket. -/
theorem Writes.skipBlanks_ne_close {cs rest : List Char} {ts : List Term}
    (h : Writes cs (.items ts) rest) (tail : List Char) : skipBlanks cs ≠ ']' :: tail := by
  have hvalue : ∃ value behind t, Blanks cs value ∧ Writes value (.value t) behind := by
    cases h with
    | lastItem before item => exact ⟨_, _, _, before, item⟩
    | item before item => exact ⟨_, _, _, before, item⟩
  obtain ⟨value, behind, t, before, item⟩ := hvalue
  obtain ⟨c, rest, rfl, hblank, hclose⟩ := item.value_head
  rw [before.skipBlanks_eq_cons hblank]
  exact fun heq => hclose (List.cons.inj heq).1

/-- The members of an object begin with a quote. -/
theorem Writes.skipBlanks_ne_brace {cs rest : List Char} {ms : List (List StringUnit × Term)}
    (h : Writes cs (.members ms) rest) (tail : List Char) : skipBlanks cs ≠ '\x7d' :: tail := by
  have hname : ∃ name, Blanks cs ('"' :: name) := by
    cases h with
    | lastMember before => exact ⟨_, before⟩
    | member before => exact ⟨_, before⟩
  obtain ⟨name, before⟩ := hname
  rw [before.skipBlanks_eq_cons (by decide)]
  exact fun heq => absurd (List.cons.inj heq).1 (by decide)

theorem skipBlanks_skipBlanks (cs : List Char) : skipBlanks (skipBlanks cs) = skipBlanks cs :=
  (blanks_skipBlanks cs).skipBlanks_eq.symm

/-- What the reader makes of a piece, with blanks before it and enough fuel. -/
def IsRead (cs rest : List Char) : Piece → Prop
  | .value t => EndsNumber rest → ∀ fuel before, skipBlanks before = cs →
      2 * before.length < fuel → readTerm fuel before = some (t, rest)
  | .items ts => ∀ fuel before, skipBlanks before = skipBlanks cs →
      2 * before.length + 1 < fuel → readItems fuel before = some (ts, rest)
  | .members ms => ∀ fuel before, skipBlanks before = skipBlanks cs →
      2 * before.length + 1 < fuel → scanMembers fuel before = (ms, some rest)

section

variable {cs rest : List Char}

theorem isRead_value {t : Term}
    (h : EndsNumber rest → ∀ fuel before, skipBlanks before = cs → 2 * before.length ≤ fuel →
      readTerm (fuel + 1) before = some (t, rest)) : IsRead cs rest (.value t) := by
  intro hrest fuel before hbefore hfuel
  cases fuel with
  | zero => exact absurd hfuel (Nat.not_lt_zero _)
  | succ fuel => exact h hrest fuel before hbefore (Nat.le_of_lt_succ hfuel)

theorem isRead_items {ts : List Term}
    (h : ∀ fuel before, skipBlanks before = skipBlanks cs → 2 * before.length + 1 ≤ fuel →
      readItems (fuel + 1) before = some (ts, rest)) : IsRead cs rest (.items ts) := by
  intro fuel before hbefore hfuel
  cases fuel with
  | zero => exact absurd hfuel (Nat.not_lt_zero _)
  | succ fuel => exact h fuel before hbefore (Nat.le_of_lt_succ hfuel)

theorem isRead_members {ms : List (List StringUnit × Term)}
    (h : ∀ fuel before, skipBlanks before = skipBlanks cs → 2 * before.length + 1 ≤ fuel →
      scanMembers (fuel + 1) before = (ms, some rest)) : IsRead cs rest (.members ms) := by
  intro fuel before hbefore hfuel
  cases fuel with
  | zero => exact absurd hfuel (Nat.not_lt_zero _)
  | succ fuel => exact h fuel before hbefore (Nat.le_of_lt_succ hfuel)

theorem WritesNumber.isRead {l : Literal} (h : WritesNumber cs l rest) :
    IsRead cs rest (.value (.number l)) := by
  refine isRead_value fun hrest fuel before hbefore _ => ?_
  obtain ⟨c, tail, rfl, hc⟩ := h.head
  have hne : ∀ {x : Char} {xs : List Char}, x ≠ '-' ∧ Text.decimalValue? x = none →
      c :: tail ≠ x :: xs := fun hx heq => hc.ne hx (List.cons.inj heq).1
  rw [readTerm, hbefore]
  split
  · next heq => exact absurd heq (hne (by decide))
  · next heq => exact absurd heq (hne (by decide))
  · next heq => exact absurd heq (hne (by decide))
  · next heq => exact absurd heq (hne (by decide))
  · next heq => exact absurd heq (hne (by decide))
  · next heq => exact absurd heq (hne (by decide))
  · rw [h.readLiteral_eq hrest]
    rfl

theorem isRead_array {ts : List Term} (items : Writes cs (.items ts) rest)
    (ih : IsRead cs rest (.items ts)) : IsRead ('[' :: cs) rest (.value (.array ts)) := by
  refine isRead_value fun _ fuel before hbefore hfuel => ?_
  have hlt := lt_length_of_skipBlanks hbefore
  have hle := length_skipBlanks_le cs
  have hitems := ih fuel (skipBlanks cs) (skipBlanks_skipBlanks cs) (by omega)
  rw [readTerm, hbefore]
  simp only
  split
  · next close hclose => exact absurd hclose (items.skipBlanks_ne_close close)
  · rw [hitems]
    rfl

theorem isRead_object {ms : List (List StringUnit × Term)} (members : Writes cs (.members ms) rest)
    (ih : IsRead cs rest (.members ms)) : IsRead ('\x7b' :: cs) rest (.value (.object ms)) := by
  refine isRead_value fun _ fuel before hbefore hfuel => ?_
  have hlt := lt_length_of_skipBlanks hbefore
  have hle := length_skipBlanks_le cs
  have hmembers := ih fuel (skipBlanks cs) (skipBlanks_skipBlanks cs) (by omega)
  rw [readTerm, hbefore]
  simp only
  split
  · next close hclose => exact absurd hclose (members.skipBlanks_ne_brace close)
  · rw [hmembers]

variable {value behind more : List Char} {t : Term}

theorem isRead_lastItem (before : Blanks cs value) (item : Writes value (.value t) behind)
    (close : Blanks behind (']' :: rest)) (ih : IsRead value behind (.value t)) :
    IsRead cs rest (.items [t]) := by
  refine isRead_items fun fuel text htext hfuel => ?_
  have hvalue := htext.trans (before.skipBlanks_eq.trans item.skipBlanks_eq)
  have hends := close.endsNumber (endsNumber_cons (by decide) rest)
  have hread := ih hends fuel text hvalue (by omega)
  rw [readItems, hread]
  simp only [close.skipBlanks_eq_cons (by decide)]

theorem isRead_item {ts : List Term} (before : Blanks cs value)
    (item : Writes value (.value t) behind) (comma : Blanks behind (',' :: more))
    (ihItem : IsRead value behind (.value t)) (ihItems : IsRead more rest (.items ts)) :
    IsRead cs rest (.items (t :: ts)) := by
  refine isRead_items fun fuel text htext hfuel => ?_
  have hvalue := htext.trans (before.skipBlanks_eq.trans item.skipBlanks_eq)
  have hends := comma.endsNumber (endsNumber_cons (by decide) more)
  have hread := ihItem hends fuel text hvalue (by omega)
  have hcomma := comma.skipBlanks_eq_cons (by decide)
  have hbehind := (shrinks fuel).term hread
  have hmore := lt_length_of_skipBlanks hcomma
  have hitems := ihItems fuel more rfl (by omega)
  rw [readItems, hread]
  simp only [hcomma, hitems]
  rfl

variable {name afterKey padded : List Char} {key : List StringUnit}

/-- What is read of a member, up to what stands behind its value. -/
theorem readTerm_member (before : Blanks cs ('"' :: name)) (string : WritesString name key afterKey)
    (colon : Blanks afterKey (':' :: padded)) (padding : Blanks padded value)
    (member : Writes value (.value t) behind) (ih : IsRead value behind (.value t))
    (hends : EndsNumber behind) {fuel : Nat} {text : List Char}
    (htext : skipBlanks text = skipBlanks cs) (hfuel : 2 * text.length + 1 ≤ fuel) :
    skipBlanks text = '"' :: name ∧ skipBlanks afterKey = ':' :: padded ∧
    readTerm fuel padded = some (t, behind) ∧ behind.length < text.length := by
  have hopen := htext.trans (before.skipBlanks_eq_cons (by decide))
  have hcolon := colon.skipBlanks_eq_cons (by decide)
  have hname := lt_length_of_skipBlanks hopen
  have hkey := lt_length_of_readString string.readString_eq
  have hpadded := lt_length_of_skipBlanks hcolon
  have hread := ih hends fuel padded (padding.skipBlanks_eq.trans member.skipBlanks_eq) (by omega)
  have hbehind := (shrinks fuel).term hread
  exact ⟨hopen, hcolon, hread, by omega⟩

theorem isRead_lastMember (before : Blanks cs ('"' :: name))
    (string : WritesString name key afterKey) (colon : Blanks afterKey (':' :: padded))
    (padding : Blanks padded value) (member : Writes value (.value t) behind)
    (close : Blanks behind ('\x7d' :: rest)) (ih : IsRead value behind (.value t)) :
    IsRead cs rest (.members [(key, t)]) := by
  refine isRead_members fun fuel text htext hfuel => ?_
  have hends := close.endsNumber (endsNumber_cons (by decide) rest)
  obtain ⟨hopen, hcolon, hread, -⟩ :=
    readTerm_member before string colon padding member ih hends htext hfuel
  rw [scanMembers, hopen]
  simp only [string.readString_eq, hcolon, hread, close.skipBlanks_eq_cons (by decide)]

theorem isRead_member {ms : List (List StringUnit × Term)} (before : Blanks cs ('"' :: name))
    (string : WritesString name key afterKey) (colon : Blanks afterKey (':' :: padded))
    (padding : Blanks padded value) (member : Writes value (.value t) behind)
    (comma : Blanks behind (',' :: more)) (ihMember : IsRead value behind (.value t))
    (ihMembers : IsRead more rest (.members ms)) : IsRead cs rest (.members ((key, t) :: ms)) := by
  refine isRead_members fun fuel text htext hfuel => ?_
  have hends := comma.endsNumber (endsNumber_cons (by decide) more)
  obtain ⟨hopen, hcolon, hread, hbehind⟩ :=
    readTerm_member before string colon padding member ihMember hends htext hfuel
  have hcomma := comma.skipBlanks_eq_cons (by decide)
  have hmore := lt_length_of_skipBlanks hcomma
  have hmembers := ihMembers fuel more rfl (by omega)
  rw [scanMembers, hopen]
  simp only [string.readString_eq, hcolon, hread, hcomma, hmembers]

end

/-- Every piece of JSON is read. -/
theorem Writes.isRead {cs rest : List Char} {piece : Piece} (h : Writes cs piece rest) :
    IsRead cs rest piece := by
  induction h with
  | null => exact isRead_value fun _ _ _ hbefore _ => by rw [readTerm, hbefore]; rfl
  | boolTrue => exact isRead_value fun _ _ _ hbefore _ => by rw [readTerm, hbefore]; rfl
  | boolFalse => exact isRead_value fun _ _ _ hbefore _ => by rw [readTerm, hbefore]; rfl
  | number number => exact number.isRead
  | string string =>
    refine isRead_value fun _ fuel before hbefore _ => ?_
    rw [readTerm, hbefore]
    simp only [string.readString_eq]
    rfl
  | emptyArray close =>
    refine isRead_value fun _ fuel before hbefore _ => ?_
    rw [readTerm, hbefore]
    simp only [close.skipBlanks_eq_cons (by decide)]
  | array items ih => exact isRead_array items ih
  | emptyObject close =>
    refine isRead_value fun _ fuel before hbefore _ => ?_
    rw [readTerm, hbefore]
    simp only [close.skipBlanks_eq_cons (by decide)]
  | object members ih => exact isRead_object members ih
  | lastItem before item close ih => exact isRead_lastItem before item close ih
  | item before item comma _ ihItem ihItems => exact isRead_item before item comma ihItem ihItems
  | lastMember before string colon padding member close ih =>
    exact isRead_lastMember before string colon padding member close ih
  | member before string colon padding member comma _ ihMember ihMembers =>
    exact isRead_member before string colon padding member comma ihMember ihMembers

/-! ## Whole texts -/

/-- The reader accepts exactly the texts of the grammar. -/
theorem termOf?_eq_some_iff {text : String} {t : Term} :
    termOf? text = some t ↔ Document text t := by
  constructor
  · exact document_of_termOf?
  · rintro ⟨value, behind, before, hvalue, after⟩
    have hstart := before.skipBlanks_eq.trans hvalue.skipBlanks_eq
    have hread := hvalue.isRead (after.endsNumber endsNumber_nil) (2 * text.toList.length + 1)
      text.toList hstart (Nat.lt_succ_self _)
    have hend : skipBlanks behind = [] := after.skipBlanks_eq
    unfold termOf?
    simp only [hread, hend]
    rfl

/-- No text writes two terms. -/
theorem Document.unique {text : String} {t u : Term} (ht : Document text t)
    (hu : Document text u) : t = u :=
  Option.some.inj ((termOf?_eq_some_iff.2 ht).symm.trans (termOf?_eq_some_iff.2 hu))

end WebhookRelay.Json

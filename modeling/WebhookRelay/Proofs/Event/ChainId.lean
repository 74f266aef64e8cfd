-- SUMMARY: Chain ids of decoded events: a bare numeral and the same numeral in quotes make one event.
import WebhookRelay.Event.Basic
import WebhookRelay.Proofs.Json.Fuel
import WebhookRelay.Proofs.Json.Numeral

/-!
# Chain ids of decoded events

An event may name its chain by a number or by a string. A number that fits an unsigned
64-bit word is taken up as its digits, so a text that has the bare numeral and a text
that has it in quotes decode alike, wherever the member stands.
-/

namespace WebhookRelay.Event

open Json

theorem Draft.chainIdOf_bareNumeral {n : Nat} (h : n ≤ significandMax) :
    chainIdOf (bareNumeral n) = .ok (toString n) := by
  unfold chainIdOf
  rw [read?_bareNumeral h]
  rfl

theorem Draft.chainIdOf_quotedNumeral (n : Nat) :
    chainIdOf (quotedNumeral n) = .ok (toString n) := by
  unfold chainIdOf
  rw [read?_quotedNumeral]

/-- Taking up a numeral as the chain id makes no difference between the two forms. -/
theorem Draft.add_numeral {key : List StringUnit} (hkey : textOf? key = some "chainId") {n : Nat}
    (h : n ≤ significandMax) (d : Draft) :
    d.add (key, bareNumeral n) = d.add (key, quotedNumeral n) := by
  unfold add
  rw [hkey]
  simp only [chainIdOf_bareNumeral h, chainIdOf_quotedNumeral]

/-- Decoding looks at a member only through what it adds to a draft. -/
theorem decode_congr {text₁ text₂ : String} {front rest : List (List StringUnit × Term)}
    {x y : List StringUnit × Term} {complete : Bool}
    (h₁ : scanObject? text₁ = some (front ++ x :: rest, complete))
    (h₂ : scanObject? text₂ = some (front ++ y :: rest, complete))
    (hadd : ∀ d : Draft, d.add x = d.add y) : decode text₁ = decode text₂ := by
  have hfold : (front ++ x :: rest).foldlM Draft.add Draft.empty
      = (front ++ y :: rest).foldlM Draft.add Draft.empty := by
    simp only [List.foldlM_append, List.foldlM_cons, hadd]
  unfold decode
  simp only [h₁, h₂, hfold]

/-! ## Texts that begin with a chain id -/

/-- The key of a chain id, through the colon behind it. -/
def keyChars : List Char :=
  ['"', 'c', 'h', 'a', 'i', 'n', 'I', 'd', '"', ':']

/-- The units of that key. -/
def chainIdKey : List StringUnit :=
  ['c', 'h', 'a', 'i', 'n', 'I', 'd'].map .char

theorem textOf?_chainIdKey : textOf? chainIdKey = some "chainId" := by
  decide

/-- Behind the value of a first member come further members, the end of the object or a
fault. -/
theorem scanMembers_keyChars (fuel : Nat) {value rest : List Char} {t : Term}
    (hread : readTerm (fuel + 1) (value ++ rest) = some (t, rest)) :
    scanMembers (fuel + 2) (keyChars ++ (value ++ rest))
      = match skipBlanks rest with
        | ',' :: more =>
          ((chainIdKey, t) :: (scanMembers (fuel + 1) more).1, (scanMembers (fuel + 1) more).2)
        | '\x7d' :: more => ([(chainIdKey, t)], some more)
        | _ => ([(chainIdKey, t)], none) := by
  have hopen : skipBlanks (keyChars ++ (value ++ rest))
      = '"' :: (['c', 'h', 'a', 'i', 'n', 'I', 'd'] ++ '"' :: ':' :: (value ++ rest)) := rfl
  have hplain : ∀ c ∈ ['c', 'h', 'a', 'i', 'n', 'I', 'd'], IsPlain c := by
    simp [IsPlain]
  have hkey := readString_plain hplain (':' :: (value ++ rest))
  have hcolon : skipBlanks (':' :: (value ++ rest)) = ':' :: (value ++ rest) := rfl
  rw [scanMembers, hopen]
  simp only [hkey, hcolon, hread]
  rfl

theorem scanObject?_brace (cs : List Char) :
    scanObject? (String.ofList ('\x7b' :: '"' :: cs))
      = match scanMembers (2 * ('\x7b' :: '"' :: cs).length + 1) ('"' :: cs) with
        | (members, some rest) => some (members, (skipBlanks rest).isEmpty)
        | (members, none) => some (members, false) := by
  have hbrace : skipBlanks ('\x7b' :: '"' :: cs) = '\x7b' :: '"' :: cs := rfl
  have hquote : skipBlanks ('"' :: cs) = '"' :: cs := rfl
  unfold scanObject?
  simp only [String.toList_ofList, hbrace, hquote]
  rfl

/-- The members behind a first value, and whether the text then closes the object. -/
def following (rest : List Char) : List (List StringUnit × Term) × Bool :=
  match skipBlanks rest with
  | ',' :: more =>
    match scanMembers (2 * more.length + 2) more with
    | (members, some after) => (members, (skipBlanks after).isEmpty)
    | (members, none) => (members, false)
  | '\x7d' :: more => ([], (skipBlanks more).isEmpty)
  | _ => ([], false)

/-- What follows the first value is scanned the same whichever value it is. -/
theorem scanObject?_keyChars {value rest : List Char} {t : Term}
    (hread : ∀ fuel, readTerm (fuel + 1) (value ++ rest) = some (t, rest)) :
    scanObject? (String.ofList ('\x7b' :: (keyChars ++ (value ++ rest))))
      = some ((chainIdKey, t) :: (following rest).1, (following rest).2) := by
  -- The fuel depends on the value, and it is enough for what follows it.
  obtain ⟨k, hk, hfuel⟩ : ∃ k, 2 * rest.length ≤ k ∧
      2 * ('\x7b' :: (keyChars ++ (value ++ rest))).length + 1 = k + 2 := by
    refine ⟨2 * ('\x7b' :: (keyChars ++ (value ++ rest))).length - 1, ?_, ?_⟩ <;>
    · simp only [List.length_cons, List.length_append]
      omega
  have hscan : scanObject? (String.ofList ('\x7b' :: (keyChars ++ (value ++ rest))))
      = match scanMembers (k + 2) (keyChars ++ (value ++ rest)) with
        | (members, some after) => some (members, (skipBlanks after).isEmpty)
        | (members, none) => some (members, false) := by
    rw [← hfuel]
    exact scanObject?_brace _
  rw [hscan, scanMembers_keyChars k (hread k)]
  unfold following
  rcases hmore : skipBlanks rest with _ | ⟨c, more⟩
  · rfl
  · by_cases hcomma : c = ','
    · subst hcomma
      have hlt := lt_length_of_skipBlanks hmore
      have hsteady : scanMembers (k + 1) more = scanMembers (2 * more.length + 2) more :=
        scanMembers_of_lt (by omega)
      simp only [hsteady]
      rcases scanMembers (2 * more.length + 2) more with ⟨members, _ | after⟩ <;> rfl
    · by_cases hclose : c = '\x7d'
      · subst hclose
        rfl
      · simp [hcomma, hclose]

/-- A text whose first member is the chain id decodes alike with a bare numeral and with
the numeral in quotes. -/
theorem decode_first_chainId {n : Nat} (h : n ≤ significandMax) {rest : String}
    (hrest : EndsNumber rest.toList) :
    decode ("\x7b\"chainId\":" ++ toString n ++ rest)
      = decode ("\x7b\"chainId\":\"" ++ toString n ++ "\"" ++ rest) := by
  have hbare : "\x7b\"chainId\":" ++ toString n ++ rest
      = String.ofList ('\x7b' :: (keyChars ++ (Nat.toDigits 10 n ++ rest.toList))) := by
    apply String.toList_injective
    simp [keyChars]
  have hquoted : "\x7b\"chainId\":\"" ++ toString n ++ "\"" ++ rest
      = String.ofList ('\x7b' :: (keyChars
          ++ (('"' :: Nat.toDigits 10 n ++ ['"']) ++ rest.toList))) := by
    apply String.toList_injective
    simp [keyChars]
  have hread : ∀ fuel, readTerm (fuel + 1) (('"' :: Nat.toDigits 10 n ++ ['"']) ++ rest.toList)
      = some (quotedNumeral n, rest.toList) := by
    intro fuel
    simpa using readTerm_quote_toDigits_append fuel n rest.toList
  have h₁ := scanObject?_keyChars fun fuel => readTerm_toDigits_append fuel n hrest
  have h₂ := scanObject?_keyChars hread
  rw [hbare, hquoted]
  rw [← List.nil_append ((chainIdKey, bareNumeral n) :: _)] at h₁
  rw [← List.nil_append ((chainIdKey, quotedNumeral n) :: _)] at h₂
  exact decode_congr h₁ h₂ (Draft.add_numeral textOf?_chainIdKey h)

end WebhookRelay.Event

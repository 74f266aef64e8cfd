-- SUMMARY: The grammar of JSON over characters, told as a relation between texts and terms and apart from the reader.
import WebhookRelay.Proofs.Json.Numeral

/-!
# The grammar of JSON

`Writes cs piece rest` says that the text `cs` begins with a piece of JSON and goes on
with `rest`. A piece is a value, or what stands between the brackets of an array or the
braces of an object, through the closing one. `Document` is a whole text: one value with
only blanks around it.

Nothing here says how a text is read; that the reader finds exactly what the grammar
gives is `termOf?_eq_some_iff`.
-/

namespace WebhookRelay.Json

/-! ## Blanks, strings and numbers -/

/-- Some blanks, and what follows. -/
inductive Blanks : List Char → List Char → Prop where
  | nil (rest : List Char) : Blanks rest rest
  | cons {c : Char} {cs rest : List Char} (blank : isBlank c = true) (more : Blanks cs rest) :
      Blanks (c :: cs) rest

/-- The units of a string through its closing quote, and what follows. -/
inductive WritesString : List Char → List StringUnit → List Char → Prop where
  | close (rest : List Char) : WritesString ('"' :: rest) [] rest
  | plain {c : Char} {cs rest : List Char} {units : List StringUnit} (plain : IsPlain c)
      (more : WritesString cs units rest) : WritesString (c :: cs) (.char c :: units) rest
  | escape {e c : Char} {cs rest : List Char} {units : List StringUnit}
      (escape : simpleEscape? e = some c) (more : WritesString cs units rest) :
      WritesString ('\\' :: e :: cs) (.char c :: units) rest
  | code {w x y z : Char} {n : Nat} {cs rest : List Char} {units : List StringUnit}
      (code : Text.natOfDigits? 16 [w, x, y, z] = some n) (more : WritesString cs units rest) :
      WritesString ('\\' :: 'u' :: w :: x :: y :: z :: cs) (unitOfCode n :: units) rest

/-- One digit or more, and what follows. -/
inductive WritesDigits : List Char → List Nat → List Char → Prop where
  | last {c : Char} {d : Nat} (digit : Text.decimalValue? c = some d) (rest : List Char) :
      WritesDigits (c :: rest) [d] rest
  | cons {c : Char} {d : Nat} {cs rest : List Char} {ds : List Nat}
      (digit : Text.decimalValue? c = some d) (more : WritesDigits cs ds rest) :
      WritesDigits (c :: cs) (d :: ds) rest

/-- The sign before a number. -/
inductive WritesMinus : List Char → Bool → List Char → Prop where
  | absent (rest : List Char) : WritesMinus rest false rest
  | minus (rest : List Char) : WritesMinus ('-' :: rest) true rest

/-- A fraction, if there is one. -/
inductive WritesFraction : List Char → Option (List Nat) → List Char → Prop where
  | absent (rest : List Char) : WritesFraction rest none rest
  | present {cs rest : List Char} {ds : List Nat} (digits : WritesDigits cs ds rest) :
      WritesFraction ('.' :: cs) (some ds) rest

/-- The sign of an exponent. -/
inductive WritesSign : List Char → Bool → List Char → Prop where
  | absent (rest : List Char) : WritesSign rest false rest
  | plus (rest : List Char) : WritesSign ('+' :: rest) false rest
  | minus (rest : List Char) : WritesSign ('-' :: rest) true rest

/-- An exponent, if there is one. -/
inductive WritesExponent : List Char → Option (Bool × List Nat) → List Char → Prop where
  | absent (rest : List Char) : WritesExponent rest none rest
  | present {e : Char} {cs signed rest : List Char} {minus : Bool} {ds : List Nat}
      (letter : e = 'e' ∨ e = 'E') (sign : WritesSign cs minus signed)
      (digits : WritesDigits signed ds rest) : WritesExponent (e :: cs) (some (minus, ds)) rest

/-- A number: whole digits without a leading zero, a fraction and an exponent. -/
inductive WritesNumber : List Char → Literal → List Char → Prop where
  | mk {cs unsigned afterWhole afterFraction rest : List Char} {negative : Bool} {whole : List Nat}
      {fraction : Option (List Nat)} {exponent : Option (Bool × List Nat)}
      (minus : WritesMinus cs negative unsigned) (digits : WritesDigits unsigned whole afterWhole)
      (noLeadingZero : ∀ ds, whole = 0 :: ds → ds = [])
      (point : WritesFraction afterWhole fraction afterFraction)
      (power : WritesExponent afterFraction exponent rest) :
      WritesNumber cs ⟨negative, whole, fraction, exponent⟩ rest

/-! ## Values -/

/-- What a part of a text writes. -/
inductive Piece where
  | value (t : Term)
  /-- One or more items, through the closing bracket. -/
  | items (ts : List Term)
  /-- One or more members, through the closing brace. -/
  | members (ms : List (List StringUnit × Term))

/-- A piece of JSON, and what follows. -/
inductive Writes : List Char → Piece → List Char → Prop where
  | null (rest : List Char) : Writes ('n' :: 'u' :: 'l' :: 'l' :: rest) (.value .null) rest
  | boolTrue (rest : List Char) :
      Writes ('t' :: 'r' :: 'u' :: 'e' :: rest) (.value (.bool true)) rest
  | boolFalse (rest : List Char) :
      Writes ('f' :: 'a' :: 'l' :: 's' :: 'e' :: rest) (.value (.bool false)) rest
  | number {cs rest : List Char} {l : Literal} (number : WritesNumber cs l rest) :
      Writes cs (.value (.number l)) rest
  | string {cs rest : List Char} {units : List StringUnit} (string : WritesString cs units rest) :
      Writes ('"' :: cs) (.value (.string units)) rest
  | emptyArray {cs rest : List Char} (close : Blanks cs (']' :: rest)) :
      Writes ('[' :: cs) (.value (.array [])) rest
  | array {cs rest : List Char} {ts : List Term} (items : Writes cs (.items ts) rest) :
      Writes ('[' :: cs) (.value (.array ts)) rest
  | emptyObject {cs rest : List Char} (close : Blanks cs ('\x7d' :: rest)) :
      Writes ('\x7b' :: cs) (.value (.object [])) rest
  | object {cs rest : List Char} {ms : List (List StringUnit × Term)}
      (members : Writes cs (.members ms) rest) : Writes ('\x7b' :: cs) (.value (.object ms)) rest
  | lastItem {cs value behind rest : List Char} {t : Term} (before : Blanks cs value)
      (item : Writes value (.value t) behind) (close : Blanks behind (']' :: rest)) :
      Writes cs (.items [t]) rest
  | item {cs value behind more rest : List Char} {t : Term} {ts : List Term}
      (before : Blanks cs value) (item : Writes value (.value t) behind)
      (comma : Blanks behind (',' :: more)) (items : Writes more (.items ts) rest) :
      Writes cs (.items (t :: ts)) rest
  | lastMember {cs name afterKey padded value behind rest : List Char} {key : List StringUnit}
      {t : Term} (before : Blanks cs ('"' :: name)) (string : WritesString name key afterKey)
      (colon : Blanks afterKey (':' :: padded)) (padding : Blanks padded value)
      (member : Writes value (.value t) behind) (close : Blanks behind ('\x7d' :: rest)) :
      Writes cs (.members [(key, t)]) rest
  | member {cs name afterKey padded value behind more rest : List Char} {key : List StringUnit}
      {t : Term} {ms : List (List StringUnit × Term)}
      (before : Blanks cs ('"' :: name)) (string : WritesString name key afterKey)
      (colon : Blanks afterKey (':' :: padded)) (padding : Blanks padded value)
      (member : Writes value (.value t) behind) (comma : Blanks behind (',' :: more))
      (members : Writes more (.members ms) rest) :
      Writes cs (.members ((key, t) :: ms)) rest

/-- Whether a text is one value with only blanks around it. -/
def Document (text : String) (t : Term) : Prop :=
  ∃ value behind, Blanks text.toList value ∧ Writes value (.value t) behind ∧ Blanks behind []

/-! ## Where pieces begin -/

theorem Blanks.trans {cs mid rest : List Char} (h : Blanks cs mid) (h' : Blanks mid rest) :
    Blanks cs rest := by
  induction h with
  | nil => exact h'
  | cons blank _ ih => exact .cons blank (ih h')

theorem Blanks.items {cs mid rest : List Char} {ts : List Term} (h : Blanks cs mid)
    (hitems : Writes mid (.items ts) rest) : Writes cs (.items ts) rest := by
  cases hitems with
  | lastItem before item close => exact .lastItem (h.trans before) item close
  | item before item comma items => exact .item (h.trans before) item comma items

theorem Blanks.members {cs mid rest : List Char} {ms : List (List StringUnit × Term)}
    (h : Blanks cs mid) (hmembers : Writes mid (.members ms) rest) :
    Writes cs (.members ms) rest := by
  cases hmembers with
  | lastMember before string colon padding member close =>
    exact .lastMember (h.trans before) string colon padding member close
  | member before string colon padding member comma members =>
    exact .member (h.trans before) string colon padding member comma members

/-- Whether a number begins with a character. -/
def BeginsNumber (c : Char) : Prop :=
  c = '-' ∨ (Text.decimalValue? c).isSome = true

theorem WritesDigits.head {cs rest : List Char} {ds : List Nat} (h : WritesDigits cs ds rest) :
    ∃ c tail, cs = c :: tail ∧ (Text.decimalValue? c).isSome = true := by
  cases h with
  | last digit => exact ⟨_, _, rfl, by rw [digit]; rfl⟩
  | cons digit => exact ⟨_, _, rfl, by rw [digit]; rfl⟩

theorem WritesNumber.head {cs rest : List Char} {l : Literal} (h : WritesNumber cs l rest) :
    ∃ c tail, cs = c :: tail ∧ BeginsNumber c := by
  cases h with
  | mk minus digits =>
    obtain ⟨c, tail, hcs, hc⟩ := digits.head
    cases minus with
    | absent => exact ⟨c, tail, hcs, .inr hc⟩
    | minus => exact ⟨_, _, rfl, .inl rfl⟩

end WebhookRelay.Json

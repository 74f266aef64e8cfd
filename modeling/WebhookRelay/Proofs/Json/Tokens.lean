-- SUMMARY: The tokens of a JSON text: they alone settle what the text writes, whatever blanks stand between them.
import WebhookRelay.Proofs.Json.Front
import Mathlib.Data.List.Basic

/-!
# Tokens

A token is a bracket, a brace, a comma, a colon, a string, a number or one of the three words.
`Tokens piece tokens` lists those of a piece of JSON, and `Spaced` puts blanks between them. Texts
with the same tokens write the same (`Tokens.writes`), and what a text writes has tokens that the
text consists of (`Writes.exists_tokens`).

For one object this gives its members with the tokens of each, in the order of the text
(`MemberText`, `document_iff_spells`).
-/

namespace WebhookRelay.Json

/-- The tokens of a piece of JSON. -/
inductive Tokens : Piece → List (List Char) → Prop where
  | null : Tokens (.value .null) [['n', 'u', 'l', 'l']]
  | boolTrue : Tokens (.value (.bool true)) [['t', 'r', 'u', 'e']]
  | boolFalse : Tokens (.value (.bool false)) [['f', 'a', 'l', 's', 'e']]
  | number {chars : List Char} {l : Literal} (number : Stands WritesNumber chars l) :
      Tokens (.value (.number l)) [chars]
  | string {chars : List Char} {units : List StringUnit}
      (string : Stands WritesString chars units) : Tokens (.value (.string units)) ['"' :: chars]
  | emptyArray : Tokens (.value (.array [])) [['['], [']']]
  | array {ts : List Term} {tokens : List (List Char)} (items : Tokens (.items ts) tokens) :
      Tokens (.value (.array ts)) (['['] :: tokens)
  | emptyObject : Tokens (.value (.object [])) [['\x7b'], ['\x7d']]
  | object {ms : List (List StringUnit × Term)} {tokens : List (List Char)}
      (members : Tokens (.members ms) tokens) : Tokens (.value (.object ms)) (['\x7b'] :: tokens)
  | lastItem {t : Term} {tokens : List (List Char)} (item : Tokens (.value t) tokens) :
      Tokens (.items [t]) (tokens ++ [[']']])
  | item {t : Term} {ts : List Term} {tokens more : List (List Char)}
      (item : Tokens (.value t) tokens) (items : Tokens (.items ts) more) :
      Tokens (.items (t :: ts)) (tokens ++ [','] :: more)
  | lastMember {key : List StringUnit} {chars : List Char} {t : Term} {tokens : List (List Char)}
      (name : Stands WritesString chars key) (value : Tokens (.value t) tokens) :
      Tokens (.members [(key, t)]) (('"' :: chars) :: [':'] :: (tokens ++ [['\x7d']]))
  | member {key : List StringUnit} {chars : List Char} {t : Term}
      {ms : List (List StringUnit × Term)} {tokens more : List (List Char)}
      (name : Stands WritesString chars key) (value : Tokens (.value t) tokens)
      (members : Tokens (.members ms) more) :
      Tokens (.members ((key, t) :: ms)) (('"' :: chars) :: [':'] :: (tokens ++ [','] :: more))

/-- Some tokens in order with blanks before each, and what follows. -/
inductive Spaced : List Char → List (List Char) → List Char → Prop where
  | nil (rest : List Char) : Spaced rest [] rest
  | cons {cs token mid rest : List Char} {tokens : List (List Char)}
      (before : Blanks cs (token ++ mid)) (more : Spaced mid tokens rest) :
      Spaced cs (token :: tokens) rest

/-- Whether a text consists of some tokens, with any blanks between and around them. -/
def ConsistsOf (text : String) (tokens : List (List Char)) : Prop :=
  ∃ behind, Spaced text.toList tokens behind ∧ Blanks behind []

/-! ## Tokens in order -/

theorem Spaced.append {cs mid rest : List Char} {tokens more : List (List Char)}
    (h : Spaced cs tokens mid) (h' : Spaced mid more rest) : Spaced cs (tokens ++ more) rest := by
  induction h with
  | nil => exact h'
  | cons before _ ih => exact .cons before (ih h')

theorem spaced_append_iff {cs rest : List Char} {tokens more : List (List Char)} :
    Spaced cs (tokens ++ more) rest ↔ ∃ mid, Spaced cs tokens mid ∧ Spaced mid more rest := by
  refine ⟨fun h => ?_, fun ⟨mid, h, h'⟩ => h.append h'⟩
  induction tokens generalizing cs with
  | nil => exact ⟨cs, .nil cs, h⟩
  | cons token tokens ih =>
    cases h with
    | cons before more =>
      obtain ⟨mid, h, h'⟩ := ih more
      exact ⟨mid, .cons before h, h'⟩

theorem spaced_cons_iff {cs rest token : List Char} {tokens : List (List Char)} :
    Spaced cs (token :: tokens) rest ↔
      ∃ mid, Blanks cs (token ++ mid) ∧ Spaced mid tokens rest :=
  ⟨fun h => by cases h; exact ⟨_, ‹_›, ‹_›⟩, fun ⟨_, before, more⟩ => .cons before more⟩

theorem spaced_singleton_iff {cs rest token : List Char} :
    Spaced cs [token] rest ↔ Blanks cs (token ++ rest) := by
  refine ⟨fun h => ?_, fun h => .cons h (.nil rest)⟩
  obtain ⟨mid, before, hmid⟩ := spaced_cons_iff.1 h
  cases hmid
  exact before

/-- Tokens may stand without blanks. -/
theorem spaced_flatten (tokens : List (List Char)) (rest : List Char) :
    Spaced (tokens.flatten ++ rest) tokens rest := by
  induction tokens with
  | nil => exact .nil rest
  | cons token tokens ih =>
    rw [List.flatten_cons, List.append_assoc]
    exact .cons (.nil _) ih

theorem Tokens.ne_nil {piece : Piece} {tokens : List (List Char)} (h : Tokens piece tokens) :
    tokens ≠ [] := by
  cases h <;> simp

/-- Blanks before the first token are blanks before the tokens. -/
theorem Spaced.blanks {cs mid rest : List Char} {tokens : List (List Char)}
    (h : Spaced mid tokens rest) (hne : tokens ≠ []) (hblanks : Blanks cs mid) :
    Spaced cs tokens rest := by
  cases h with
  | nil => exact absurd rfl hne
  | cons before more => exact .cons (hblanks.trans before) more

/-! ## Tokens and what they write -/

/-- However its tokens are spaced, a text writes what they are the tokens of. -/
theorem Tokens.writes {piece : Piece} {tokens : List (List Char)} (h : Tokens piece tokens)
    {cs rest : List Char} (hspaced : Spaced cs tokens rest) :
    ∃ start, Blanks cs start ∧ Writes start piece rest := by
  -- A value begins behind the blanks; items and members have them in their own rules.
  induction h generalizing cs rest with
  | null =>
    exact ⟨_, spaced_singleton_iff.1 hspaced, .null rest⟩
  | boolTrue =>
    exact ⟨_, spaced_singleton_iff.1 hspaced, .boolTrue rest⟩
  | boolFalse =>
    exact ⟨_, spaced_singleton_iff.1 hspaced, .boolFalse rest⟩
  | number number =>
    exact ⟨_, spaced_singleton_iff.1 hspaced, .number (number rest)⟩
  | string string =>
    exact ⟨_, spaced_singleton_iff.1 hspaced, .string (string rest)⟩
  | emptyArray =>
    obtain ⟨mid, before, hmid⟩ := spaced_cons_iff.1 hspaced
    exact ⟨_, before, .emptyArray (spaced_singleton_iff.1 hmid)⟩
  | array _ ih =>
    obtain ⟨mid, before, hmid⟩ := spaced_cons_iff.1 hspaced
    obtain ⟨start, hstart, hitems⟩ := ih hmid
    exact ⟨_, before, .array (hstart.items hitems)⟩
  | emptyObject =>
    obtain ⟨mid, before, hmid⟩ := spaced_cons_iff.1 hspaced
    exact ⟨_, before, .emptyObject (spaced_singleton_iff.1 hmid)⟩
  | object _ ih =>
    obtain ⟨mid, before, hmid⟩ := spaced_cons_iff.1 hspaced
    obtain ⟨start, hstart, hmembers⟩ := ih hmid
    exact ⟨_, before, .object (hstart.members hmembers)⟩
  | lastItem _ ih =>
    obtain ⟨behind, hitem, hclose⟩ := spaced_append_iff.1 hspaced
    obtain ⟨start, hstart, hvalue⟩ := ih hitem
    exact ⟨cs, .nil cs, .lastItem hstart hvalue (spaced_singleton_iff.1 hclose)⟩
  | item _ _ ih ihitems =>
    obtain ⟨behind, hitem, hcomma⟩ := spaced_append_iff.1 hspaced
    obtain ⟨start, hstart, hvalue⟩ := ih hitem
    obtain ⟨mid, comma, hmid⟩ := spaced_cons_iff.1 hcomma
    obtain ⟨start', hstart', hitems⟩ := ihitems hmid
    exact ⟨cs, .nil cs, .item hstart hvalue comma (hstart'.items hitems)⟩
  | lastMember name _ ih =>
    obtain ⟨afterKey, before, hcolon⟩ := spaced_cons_iff.1 hspaced
    obtain ⟨padded, colon, hpadded⟩ := spaced_cons_iff.1 hcolon
    obtain ⟨behind, hitem, hclose⟩ := spaced_append_iff.1 hpadded
    obtain ⟨start, hstart, hvalue⟩ := ih hitem
    exact ⟨cs, .nil cs, .lastMember before (name afterKey) colon hstart hvalue
      (spaced_singleton_iff.1 hclose)⟩
  | member name _ _ ih ihmembers =>
    obtain ⟨afterKey, before, hcolon⟩ := spaced_cons_iff.1 hspaced
    obtain ⟨padded, colon, hpadded⟩ := spaced_cons_iff.1 hcolon
    obtain ⟨behind, hitem, hcomma⟩ := spaced_append_iff.1 hpadded
    obtain ⟨start, hstart, hvalue⟩ := ih hitem
    obtain ⟨mid, comma, hmid⟩ := spaced_cons_iff.1 hcomma
    obtain ⟨start', hstart', hmembers⟩ := ihmembers hmid
    exact ⟨cs, .nil cs,
      .member before (name afterKey) colon hstart hvalue comma (hstart'.members hmembers)⟩

/-- Texts that consist of the same tokens write the same. -/
theorem Tokens.document {t : Term} {tokens : List (List Char)} (h : Tokens (.value t) tokens)
    {text : String} (htext : ConsistsOf text tokens) : Document text t := by
  obtain ⟨behind, hspaced, after⟩ := htext
  obtain ⟨start, before, hvalue⟩ := h.writes hspaced
  exact ⟨start, behind, before, hvalue, after⟩

/-- What a text writes has tokens, and the text consists of them. -/
theorem Writes.exists_tokens {cs rest : List Char} {piece : Piece} (h : Writes cs piece rest) :
    ∃ tokens, Tokens piece tokens ∧ Spaced cs tokens rest := by
  induction h with
  | null rest => exact ⟨_, .null, spaced_singleton_iff.2 (.nil _)⟩
  | boolTrue rest => exact ⟨_, .boolTrue, spaced_singleton_iff.2 (.nil _)⟩
  | boolFalse rest => exact ⟨_, .boolFalse, spaced_singleton_iff.2 (.nil _)⟩
  | number number =>
    obtain ⟨chars, rfl, hchars⟩ := number.front
    exact ⟨_, .number hchars, spaced_singleton_iff.2 (.nil _)⟩
  | string string =>
    obtain ⟨chars, rfl, hchars⟩ := string.front
    exact ⟨_, .string hchars, spaced_singleton_iff.2 (.nil _)⟩
  | emptyArray close =>
    exact ⟨_, .emptyArray, .cons (.nil _) (spaced_singleton_iff.2 close)⟩
  | array _ ih =>
    obtain ⟨tokens, htokens, hspaced⟩ := ih
    exact ⟨_, .array htokens, .cons (.nil _) hspaced⟩
  | emptyObject close =>
    exact ⟨_, .emptyObject, .cons (.nil _) (spaced_singleton_iff.2 close)⟩
  | object _ ih =>
    obtain ⟨tokens, htokens, hspaced⟩ := ih
    exact ⟨_, .object htokens, .cons (.nil _) hspaced⟩
  | lastItem before _ close ih =>
    obtain ⟨tokens, htokens, hspaced⟩ := ih
    have hspaced := hspaced.blanks htokens.ne_nil before
    exact ⟨_, .lastItem htokens, hspaced.append (spaced_singleton_iff.2 close)⟩
  | item before _ comma _ ih ihitems =>
    obtain ⟨tokens, htokens, hspaced⟩ := ih
    obtain ⟨more, hmore, hspaced'⟩ := ihitems
    have hspaced := hspaced.blanks htokens.ne_nil before
    exact ⟨_, .item htokens hmore, hspaced.append (spaced_cons_iff.2 ⟨_, comma, hspaced'⟩)⟩
  | lastMember before string colon padding _ close ih =>
    obtain ⟨chars, rfl, hchars⟩ := string.front
    obtain ⟨tokens, htokens, hspaced⟩ := ih
    have hspaced := hspaced.blanks htokens.ne_nil padding
    exact ⟨_, .lastMember hchars htokens,
      .cons before (.cons colon (hspaced.append (spaced_singleton_iff.2 close)))⟩
  | member before string colon padding _ comma _ ih ihmembers =>
    obtain ⟨chars, rfl, hchars⟩ := string.front
    obtain ⟨tokens, htokens, hspaced⟩ := ih
    obtain ⟨more, hmore, hspaced'⟩ := ihmembers
    have hspaced := hspaced.blanks htokens.ne_nil padding
    exact ⟨_, .member hchars htokens hmore,
      .cons before (.cons colon (hspaced.append (spaced_cons_iff.2 ⟨_, comma, hspaced'⟩)))⟩

/-! ## Members of an object -/

/-- A member as it stands in a text: its key and its value, and the characters of the key behind
the opening quote and the tokens of the value. -/
structure MemberText where
  key : List StringUnit
  value : Term
  keyChars : List Char
  valueTokens : List (List Char)
  key_stands : Stands WritesString keyChars key
  value_tokens : Tokens (.value value) valueTokens

/-- The member that is written. -/
def MemberText.member (m : MemberText) : List StringUnit × Term :=
  (m.key, m.value)

/-- The tokens of members with commas between them, through the closing brace. -/
def memberTokens : List MemberText → List (List Char)
  | [] => [['\x7d']]
  | [m] => ('"' :: m.keyChars) :: [':'] :: (m.valueTokens ++ [['\x7d']])
  | m :: ms => ('"' :: m.keyChars) :: [':'] :: (m.valueTokens ++ [','] :: memberTokens ms)

/-- Whether a text is an object with some members, spaced in any way. -/
def Spells (text : String) (members : List MemberText) : Prop :=
  ConsistsOf text (['\x7b'] :: memberTokens members)

theorem tokens_memberTokens {members : List MemberText} (hne : members ≠ []) :
    Tokens (.members (members.map MemberText.member)) (memberTokens members) := by
  induction members with
  | nil => exact absurd rfl hne
  | cons m ms ih =>
    cases ms with
    | nil => exact .lastMember m.key_stands m.value_tokens
    | cons m' ms => exact .member m.key_stands m.value_tokens (ih (List.cons_ne_nil _ _))

theorem tokens_object (members : List MemberText) :
    Tokens (.value (.object (members.map MemberText.member)))
      (['\x7b'] :: memberTokens members) := by
  by_cases hne : members = []
  · subst hne
    exact .emptyObject
  · exact .object (tokens_memberTokens hne)

theorem Tokens.exists_memberTexts {ms : List (List StringUnit × Term)} {tokens : List (List Char)}
    (h : Tokens (.members ms) tokens) :
    ∃ members : List MemberText, members ≠ [] ∧ members.map MemberText.member = ms ∧
      memberTokens members = tokens := by
  generalize hpiece : Piece.members ms = piece at h
  induction h generalizing ms with
  | lastMember name value =>
    cases hpiece
    exact ⟨[⟨_, _, _, _, name, value⟩], List.cons_ne_nil _ _, rfl, rfl⟩
  | member name value _ _ ih =>
    cases hpiece
    obtain ⟨members, hne, rfl, rfl⟩ := ih rfl
    obtain ⟨m, ms, rfl⟩ := List.exists_cons_of_ne_nil hne
    exact ⟨⟨_, _, _, _, name, value⟩ :: m :: ms, List.cons_ne_nil _ _, rfl, rfl⟩
  | _ => cases hpiece

/-- A text writes an object exactly when it is an object with members that write those of the
object. -/
theorem document_iff_spells {text : String} {ms : List (List StringUnit × Term)} :
    Document text (.object ms) ↔
      ∃ members : List MemberText, members.map MemberText.member = ms ∧ Spells text members := by
  constructor
  · rintro ⟨value, behind, before, hvalue, after⟩
    obtain ⟨tokens, htokens, hspaced⟩ := hvalue.exists_tokens
    have hspaced := hspaced.blanks htokens.ne_nil before
    cases htokens with
    | emptyObject => exact ⟨[], rfl, behind, hspaced, after⟩
    | object members =>
      obtain ⟨texts, -, rfl, rfl⟩ := members.exists_memberTexts
      exact ⟨texts, rfl, behind, hspaced, after⟩
  · rintro ⟨members, rfl, hspells⟩
    exact (tokens_object members).document hspells

end WebhookRelay.Json

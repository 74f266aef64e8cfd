-- SUMMARY: The parse tree of a JSON text and the value it denotes.
import WebhookRelay.Json.Literal

/-!
# JSON terms

A `Term` is what the grammar of JSON alone finds in a text: numbers are still
literals, an escaped surrogate still stands for itself, members keep their order
and repeated keys. `Term.value?` gives a term its value and refuses what the
grammar lets through: numbers beyond the doubles, lone surrogates, and more
nesting than allowed.

An object whose first key is `embeddingKey` embeds a JSON text: who reads values
takes what that text writes in place of the object. To the grammar, and so to
`Term.value?`, it is an object like any other. What is taken of such objects is
the parameter of `Term.valueWith?`.
-/

namespace WebhookRelay.Json

/-- One element of a string: a character, or half of an escaped surrogate pair. -/
inductive StringUnit where
  | char (c : Char)
  | surrogate (code : Nat)
  deriving DecidableEq, Repr

/-- The parse tree of a JSON text. -/
inductive Term where
  | null
  | bool (value : Bool)
  | number (literal : Literal)
  | string (units : List StringUnit)
  | array (items : List Term)
  | object (members : List (List StringUnit × Term))
  deriving Inhabited

/-- The character that a high and a low surrogate write together. -/
def joinSurrogates? (high low : Nat) : Option Char :=
  if 0xD800 ≤ high ∧ high < 0xDC00 ∧ 0xDC00 ≤ low ∧ low < 0xE000 then
    some (Char.ofNat (0x10000 + (high - 0xD800) * 0x400 + (low - 0xDC00)))
  else none

/-- The characters of a string's units, unless a surrogate stands alone. -/
def resolveUnits : List StringUnit → Option (List Char)
  | [] => some []
  | .char c :: rest => (resolveUnits rest).map (c :: ·)
  | .surrogate high :: .surrogate low :: rest => do
    let c ← joinSurrogates? high low
    return c :: (← resolveUnits rest)
  | .surrogate _ :: _ => none

/-- The text of a string's units. -/
def textOf? (units : List StringUnit) : Option String :=
  (resolveUnits units).map String.ofList

/-- The key that marks an object as the embedding of a JSON text. -/
def embeddingKey : String :=
  "$serde_json::private::RawValue"

/-- Whether the first member of an object marks it as the embedding of a text. -/
def isEmbedding : List (List StringUnit × Term) → Bool
  | [] => false
  | (key, _) :: _ => textOf? key == some embeddingKey

/-- The text that an object embeds: a string, with no other member beside it. -/
def embeddedText? : List (List StringUnit × Term) → Option String
  | [(_, .string units)] => textOf? units
  | _ => none

mutual

/-- The value of a term with at most `depth` levels of arrays and objects. The
members of an object may be `special`: then they tell its value, if it has one. -/
def Term.valueWith? (special : List (List StringUnit × Term) → Option (Option Json))
    (depth : Nat) : Term → Option Json
  | .null => some .null
  | .bool b => some (.bool b)
  | .number l => l.number?.map .number
  | .string units => (textOf? units).map .string
  | .array items =>
    match depth with
    | 0 => none
    | d + 1 => (itemValuesWith? special d items).map .array
  | .object members =>
    match depth with
    | 0 => none
    | d + 1 =>
      match special members with
      | some value => value
      | none => (memberValuesWith? special d members).map fun ms => .object (Members.ofList ms)

/-- The values of a list of terms. -/
def itemValuesWith? (special : List (List StringUnit × Term) → Option (Option Json))
    (depth : Nat) : List Term → Option (List Json)
  | [] => some []
  | t :: ts => do
    return (← t.valueWith? special depth) :: (← itemValuesWith? special depth ts)

/-- The keys and values of members, in the order of the text. -/
def memberValuesWith? (special : List (List StringUnit × Term) → Option (Option Json))
    (depth : Nat) : List (List StringUnit × Term) → Option (List (String × Json))
  | [] => some []
  | (k, t) :: ms => do
    return (← textOf? k, ← t.valueWith? special depth) :: (← memberValuesWith? special depth ms)

end

/-- The members that are special to nobody. -/
def nothingSpecial (_ : List (List StringUnit × Term)) : Option (Option Json) :=
  none

/-- The members that embed a text are special to who reads values: `inner` reads the text. -/
def embedding (inner : String → Option Json) (members : List (List StringUnit × Term)) :
    Option (Option Json) :=
  match isEmbedding members with
  | true => some ((embeddedText? members).bind inner)
  | false => none

/-- The value of a term by the grammar alone. -/
def Term.value? (depth : Nat) (t : Term) : Option Json :=
  t.valueWith? nothingSpecial depth

/-- The keys and values of members by the grammar alone. -/
def memberValues? (depth : Nat) (members : List (List StringUnit × Term)) :
    Option (List (String × Json)) :=
  memberValuesWith? nothingSpecial depth members

/-- The greatest number of levels of arrays and objects in a text that is read. -/
def maxDepth : Nat := 127

end WebhookRelay.Json

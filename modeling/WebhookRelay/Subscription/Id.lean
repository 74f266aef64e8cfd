-- SUMMARY: Webhook ids: 128-bit identifiers, their canonical text and the spellings that are read.
import WebhookRelay.Text.Digits

/-!
# Webhook ids

An id has 128 bits. It is written in five groups of lower-case hexadecimal
digits. It is read from those groups, from the 32 digits alone, and from the
groups in braces or after `urn:uuid:`; digits may be of either case.
-/

namespace WebhookRelay

/-- The identifier of a webhook, stable across updates. -/
structure WebhookId where
  bits : BitVec 128
  deriving DecidableEq

namespace WebhookId

instance : LT WebhookId := ⟨fun a b => a.bits.toNat < b.bits.toNat⟩

instance (a b : WebhookId) : Decidable (a < b) :=
  inferInstanceAs (Decidable (a.bits.toNat < b.bits.toNat))

/-- The sizes of the groups of digits. -/
def groupSizes : List Nat := [8, 4, 4, 4, 12]

/-- Cuts digits into groups with hyphens between them. -/
def hyphenate : List Nat → List Char → List Char
  | [], cs => cs
  | [_], cs => cs
  | n :: sizes, cs => cs.take n ++ '-' :: hyphenate sizes (cs.drop n)

/-- The canonical text. -/
def text (id : WebhookId) : String :=
  String.ofList (hyphenate groupSizes (Text.hexDigits 32 id.bits.toNat))

/-- The digits of groups with hyphens between them. -/
def ungroup? : List Nat → List Char → Option (List Char)
  | [], cs => if cs.isEmpty then some [] else none
  | [n], cs => if cs.length = n then some cs else none
  | n :: sizes, cs =>
    match cs.drop n with
    | '-' :: rest => (ungroup? sizes rest).map (cs.take n ++ ·)
    | _ => none

/-- The digits of a text in any of the accepted spellings. -/
def digitsOf? (cs : List Char) : Option (List Char) :=
  if cs.length = 32 then some cs
  else
    match cs with
    | 'u' :: 'r' :: 'n' :: ':' :: 'u' :: 'u' :: 'i' :: 'd' :: ':' :: rest =>
      ungroup? groupSizes rest
    | '\x7b' :: rest =>
      match rest.getLast? with
      | some '\x7d' => ungroup? groupSizes rest.dropLast
      | _ => none
    | _ => ungroup? groupSizes cs

/-- The id that a text spells. -/
def ofText? (s : String) : Option WebhookId := do
  let ds ← digitsOf? s.toList
  if ds.length = 32 then (Text.natOfDigits? 16 ds).map fun n => ⟨BitVec.ofNat 128 n⟩ else none

/-- A new id from random bits: version 4, with the variant that goes with it. -/
def ofRandom (bits : BitVec 128) : WebhookId :=
  let versioned := bits &&& ~~~(0xF000#128 <<< 64) ||| (0x4000#128 <<< 64)
  ⟨versioned &&& ~~~(0xC000#128 <<< 48) ||| (0x8000#128 <<< 48)⟩

/-- The version of an id. -/
def version (id : WebhookId) : Nat :=
  (id.bits >>> 76).toNat % 16

end WebhookId
end WebhookRelay

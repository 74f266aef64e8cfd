-- SUMMARY: Reading 16-bit units as text with replacement characters.
import WebhookRelay.Text.Utf8

/-!
# Lenient UTF-16

A high and a low surrogate write one character; a surrogate that stands alone,
and an odd byte at the end, become `U+FFFD`.
-/

namespace WebhookRelay.Text

/-- Units of two bytes, the low byte first; `none` for an odd byte at the end. -/
def unitsLittle : List UInt8 → List (Option Nat)
  | [] => []
  | [_] => [none]
  | a :: b :: rest => some (a.toNat + b.toNat * 256) :: unitsLittle rest

/-- Units of two bytes, the high byte first; `none` for an odd byte at the end. -/
def unitsBig : List UInt8 → List (Option Nat)
  | [] => []
  | [_] => [none]
  | a :: b :: rest => some (a.toNat * 256 + b.toNat) :: unitsBig rest

/-- The characters that units write. -/
def utf16Chars : List (Option Nat) → List Char
  | [] => []
  | none :: rest => replacement :: utf16Chars rest
  | some a :: some b :: rest =>
    if 0xD800 ≤ a ∧ a < 0xDC00 ∧ 0xDC00 ≤ b ∧ b < 0xE000 then
      Char.ofNat (0x10000 + (a - 0xD800) * 0x400 + (b - 0xDC00)) :: utf16Chars rest
    else if 0xD800 ≤ a ∧ a < 0xE000 then replacement :: utf16Chars (some b :: rest)
    else Char.ofNat a :: utf16Chars (some b :: rest)
  | some a :: rest =>
    if 0xD800 ≤ a ∧ a < 0xE000 then replacement :: utf16Chars rest
    else Char.ofNat a :: utf16Chars rest

/-- Units as text. -/
def lossyUtf16 (units : List (Option Nat)) : String :=
  String.ofList (utf16Chars units)

end WebhookRelay.Text

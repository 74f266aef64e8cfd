-- SUMMARY: What a value of a settings tree means as text, flag, whole number or double.
import WebhookRelay.Decimal.Layout
import WebhookRelay.Decimal.Reader
import WebhookRelay.Json.Basic

/-!
# Conversions of settings

A setting takes any plain value that can be understood as what it holds: a flag
may be written as a number or a word, a number as a flag or a text, a text as
anything plain. Doubles are rounded to whole numbers, a half away from zero, and
cut to 64 bits before the width of the setting is checked.
-/

namespace WebhookRelay.Settings

/-- The flag that a word stands for, in either case. -/
def wordFlag? (word : String) : Option Bool :=
  let w := String.ofList (Text.lowerAscii word.toList)
  if ["true", "on", "yes"].contains w then some true
  else if ["false", "off", "no"].contains w then some false
  else none

/-- The flag that a value means: numbers are true unless zero. -/
def flag? : Json → Option Bool
  | .bool b => some b
  | .number (.integer n) => some (n ≠ 0)
  | .number (.float x) => some (x != 0.0)
  | .string s => if s = "1" then some true else if s = "0" then some false else wordFlag? s
  | _ => none

/-- The text that a value means. -/
def text? : Json → Option String
  | .string s => some s
  | .bool b => some (if b then "true" else "false")
  | .number (.integer n) => some (toString n)
  | .number (.float x) => some (Decimal.Layout.plain.render x)
  | _ => none

/-- The double that a value means. -/
def double? : Json → Option Float
  | .number (.float x) => some x
  | .number (.integer n) => some (Float.ofInt n)
  | .bool b => some (if b then 1.0 else 0.0)
  | .string s =>
    match wordFlag? s with
    | some b => some (if b then 1.0 else 0.0)
    | none => Decimal.readFloat? s
  | _ => none

/-- A double rounded and cut to unsigned 64 bits; zero for what is no number. -/
def roundToWord (x : Float) : Nat :=
  match Decimal.roundHalfAway? x with
  | some n => min n.toNat Decimal.uint64Max
  | none => if x > 0.0 then Decimal.uint64Max else 0

/-- An optional plus sign and digits whose value fits 64 bits. -/
def readWord? (s : String) : Option Nat :=
  let digits := match s.toList with
    | '+' :: cs => cs
    | cs => cs
  (Text.natOfDigits? 10 digits).filter (· ≤ Decimal.uint64Max)

/-- The whole number below `bound` that a value means. -/
def whole? (bound : Nat) (value : Json) : Option Nat :=
  let n := match value with
    | .number (.integer n) => if 0 ≤ n then some n.toNat else none
    | .number (.float x) => some (roundToWord x)
    | .bool b => some (if b then 1 else 0)
    | .string s =>
      match wordFlag? s with
      | some b => some (if b then 1 else 0)
      | none => readWord? s
    | _ => none
  n.filter (· < bound)

/-- The whole number of 16 bits that a value means. -/
def word16? (value : Json) : Option UInt16 :=
  (whole? UInt16.size value).map Nat.toUInt16

/-- The whole number of 32 bits that a value means. -/
def word32? (value : Json) : Option UInt32 :=
  (whole? UInt32.size value).map Nat.toUInt32

/-- The whole number of 64 bits that a value means. -/
def word64? (value : Json) : Option UInt64 :=
  (whole? UInt64.size value).map Nat.toUInt64

end WebhookRelay.Settings

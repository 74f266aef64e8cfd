-- SUMMARY: Reading a decimal text as the nearest double, and rounding doubles to integers.
import WebhookRelay.Text.Digits

/-!
# Reading decimals

`readFloat?` accepts an optional sign before `inf`, `infinity` or `nan` (letters
in either case) or before digits with at most one point and an optional
exponent, at least one digit standing beside the point. The answer is the double
nearest to the written number.
-/

namespace WebhookRelay.Decimal

open WebhookRelay.Text

/-- The double nearest to `significand * 10 ^ exponent`. -/
def nearest (significand : Nat) (exponent : Int) : Float :=
  let width := (Nat.toDigits 10 significand).length
  if significand = 0 then 0.0
  else if 400 < exponent + width then 1.0 / 0.0
  else if exponent + width < -400 then 0.0
  else OfScientific.ofScientific significand (decide (exponent < 0)) exponent.natAbs

/-- The exponent part of a decimal: nothing, or `e` with an optional sign and digits. -/
def readExponent? : List Char → Option Int
  | [] => some 0
  | c :: cs =>
    if c = 'e' ∨ c = 'E' then
      match cs with
      | '-' :: ds => (natOfDigits? 10 ds).map (fun n => -(n : Int))
      | '+' :: ds => (natOfDigits? 10 ds).map (fun n => (n : Int))
      | ds => (natOfDigits? 10 ds).map (fun n => (n : Int))
    else none

/-- Digits with at most one point and an optional exponent. -/
def readUnsigned? (cs : List Char) : Option Float :=
  let (whole, rest) := spanDecimal cs
  let (fraction, rest) :=
    match rest with
    | '.' :: after => spanDecimal after
    | _ => ([], rest)
  if whole.isEmpty && fraction.isEmpty then none
  else
    (readExponent? rest).map fun power =>
      nearest (ofDigits 10 (whole ++ fraction)) (power - fraction.length)

/-- A decimal or the name of a value that is no number, without a sign. -/
def readMagnitude? (cs : List Char) : Option Float :=
  let name := String.ofList (lowerAscii cs)
  if name = "inf" ∨ name = "infinity" then some (1.0 / 0.0)
  else if name = "nan" then some (0.0 / 0.0)
  else readUnsigned? cs

/-- The double that a text writes. -/
def readFloat? (text : String) : Option Float :=
  match text.toList with
  | '-' :: cs => (readMagnitude? cs).map (fun x => -x)
  | '+' :: cs => readMagnitude? cs
  | cs => readMagnitude? cs

/-- An optional sign and one or more decimal digits. -/
def readInt? (text : String) : Option Int :=
  match text.toList with
  | '-' :: cs => (natOfDigits? 10 cs).map (fun n => -(n : Int))
  | '+' :: cs => (natOfDigits? 10 cs).map (fun n => (n : Int))
  | cs => (natOfDigits? 10 cs).map (fun n => (n : Int))

/-- Least value of a signed 64-bit integer. -/
def int64Min : Int := -9223372036854775808

/-- Greatest value of a signed 64-bit integer. -/
def int64Max : Int := 9223372036854775807

/-- Greatest value of an unsigned 64-bit integer. -/
def uint64Max : Nat := 18446744073709551615

/-- An optional sign and digits whose value fits a signed 64-bit integer. -/
def readInt64? (text : String) : Option Int :=
  (readInt? text).filter fun n => int64Min ≤ n ∧ n ≤ int64Max

/-- The whole number nearest to a double, a half going away from zero; `none`
for a value that is not finite. -/
def roundHalfAway? (x : Float) : Option Int :=
  if x.isNaN || x.isInf then none
  else
    let bits : Nat := x.toBits.toNat
    let fraction : Nat := bits % 0x10000000000000
    let power : Nat := bits / 0x10000000000000 % 0x800
    let mantissa : Nat := if power = 0 then fraction else 0x10000000000000 + fraction
    let exponent : Int := if power = 0 then -1074 else (power : Int) - 1075
    let half : Nat := 1 <<< (-exponent).toNat
    let size : Nat := ((2 * mantissa) <<< exponent.toNat + half) / (2 * half)
    some (if bits < 0x8000000000000000 then size else -(size : Int))

end WebhookRelay.Decimal

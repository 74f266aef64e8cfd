-- SUMMARY: Digits of natural numbers: reading them in any base up to sixteen, writing hexadecimal.

/-!
# Digits

The value of a digit character and of a row of digits. Only the ASCII digits
and letters count, so `٣` and `Ａ` are no digits here.
-/

namespace WebhookRelay.Text

/-- The value of a hexadecimal digit in either case. -/
def hexValue? (c : Char) : Option Nat :=
  if '0' ≤ c ∧ c ≤ '9' then some (c.toNat - '0'.toNat)
  else if 'a' ≤ c ∧ c ≤ 'f' then some (c.toNat - 'a'.toNat + 10)
  else if 'A' ≤ c ∧ c ≤ 'F' then some (c.toNat - 'A'.toNat + 10)
  else none

/-- The value of a character as a digit of `base`. -/
def digitValue? (base : Nat) (c : Char) : Option Nat :=
  (hexValue? c).filter (· < base)

/-- The value of a decimal digit. -/
def decimalValue? (c : Char) : Option Nat :=
  digitValue? 10 c

/-- The number that a row of digit values writes, the highest first. -/
def ofDigits (base : Nat) (ds : List Nat) : Nat :=
  ds.foldl (fun n d => n * base + d) 0

/-- The number that a non-empty text of digits writes; `none` for any other text. -/
def natOfDigits? (base : Nat) (cs : List Char) : Option Nat :=
  if cs.isEmpty then none else (cs.mapM (digitValue? base)).map (ofDigits base)

/-- The longest front of decimal digits, as values, and what follows it. -/
def spanDecimal : List Char → List Nat × List Char
  | [] => ([], [])
  | c :: cs =>
    match decimalValue? c with
    | some d => (d :: (spanDecimal cs).1, (spanDecimal cs).2)
    | none => ([], c :: cs)

/-- The lower-case hexadecimal digit of a value below sixteen. -/
def hexDigit (n : Nat) : Char :=
  if n < 10 then Char.ofNat ('0'.toNat + n) else Char.ofNat ('a'.toNat + (n - 10))

/-- The last `width` hexadecimal digits of a number. -/
def hexDigits : Nat → Nat → List Char
  | 0, _ => []
  | width + 1, n => hexDigits width (n / 16) ++ [hexDigit (n % 16)]

/-- The shortest hexadecimal text of a number. -/
def hexText (n : Nat) : List Char :=
  Nat.toDigits 16 n

/-- Upper-case form of the ASCII letters, all else as it is. -/
def upperAscii (cs : List Char) : List Char :=
  cs.map Char.toUpper

/-- Lower-case form of the ASCII letters, all else as it is. -/
def lowerAscii (cs : List Char) : List Char :=
  cs.map Char.toLower

end WebhookRelay.Text

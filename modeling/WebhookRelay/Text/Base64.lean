-- SUMMARY: Base64 with padding.

/-!
# Base64

Three bytes become four digits; a last group of one or two bytes is padded with
`=`.
-/

namespace WebhookRelay.Text

/-- The digit of a value below 64. -/
def base64Digit (n : Nat) : Char :=
  if n < 26 then Char.ofNat ('A'.toNat + n)
  else if n < 52 then Char.ofNat ('a'.toNat + (n - 26))
  else if n < 62 then Char.ofNat ('0'.toNat + (n - 52))
  else if n = 62 then '+'
  else '/'

/-- The Base64 text of bytes. -/
def base64 : List UInt8 → List Char
  | [] => []
  | [a] =>
    let n := a.toNat * 0x10000
    [base64Digit (n / 0x40000), base64Digit (n / 0x1000 % 64), '=', '=']
  | [a, b] =>
    let n := a.toNat * 0x10000 + b.toNat * 0x100
    [base64Digit (n / 0x40000), base64Digit (n / 0x1000 % 64), base64Digit (n / 64 % 64), '=']
  | a :: b :: c :: rest =>
    let n := a.toNat * 0x10000 + b.toNat * 0x100 + c.toNat
    base64Digit (n / 0x40000) :: base64Digit (n / 0x1000 % 64) :: base64Digit (n / 64 % 64)
      :: base64Digit (n % 64) :: base64 rest

end WebhookRelay.Text

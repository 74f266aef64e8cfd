-- SUMMARY: Numeric hosts: the many spellings of IPv4 addresses, and IPv6 addresses.
import WebhookRelay.Text.Digits
import WebhookRelay.Text.Split

/-!
# Numeric hosts

An IPv4 host has one to four parts, each decimal, octal (`0`) or hexadecimal
(`0x`); the last part fills all the bytes that are left. A host whose last part
is a number must be such an address.

An IPv6 host has eight pieces of up to four hexadecimal digits; one run of zero
pieces may be written `::`, and the last two pieces may be written as an IPv4
address.
-/

namespace WebhookRelay.Url

-- ---------------------------------------------------------------------------
-- IPv4
-- ---------------------------------------------------------------------------

/-- The value of one part of an IPv4 host. -/
def ipv4Number? (part : List Char) : Option Nat :=
  let digits := fun base ds => if List.isEmpty ds then some 0 else Text.natOfDigits? base ds
  match part with
  | [] => none
  | '0' :: 'x' :: ds | '0' :: 'X' :: ds => digits 16 ds
  | ['0'] => some 0
  | '0' :: ds => digits 8 ds
  | ds => digits 10 ds

/-- The parts of a host, without the empty part that a final point leaves. -/
def hostParts (host : List Char) : List (List Char) :=
  let parts := Text.splitOn '.' host
  if parts.length > 1 && parts.getLast? == some [] then parts.dropLast else parts

/-- Whether the last part of a host is a number. -/
def endsInNumber (host : List Char) : Bool :=
  match (hostParts host).getLast? with
  | some part =>
    (!part.isEmpty && part.all Char.isDigit) || (ipv4Number? part).isSome
  | none => false

/-- The address that a host ending in a number writes. -/
def ipv4? (host : List Char) : Option Nat := do
  let numbers ← (hostParts host).mapM ipv4Number?
  let last ← numbers.getLast?
  let front := numbers.dropLast
  let room := 8 * (5 - numbers.length)
  if numbers.length > 4 ∨ front.any (· > 255) ∨ last ≥ 1 <<< room then none
  else some ((Text.ofDigits 256 front) <<< (8 * (4 - front.length)) + last)

/-- The dotted decimal text of an IPv4 address. -/
def ipv4Text (n : Nat) : String :=
  ".".intercalate
    ([n / 0x1000000 % 256, n / 0x10000 % 256, n / 0x100 % 256, n % 256].map toString)

-- ---------------------------------------------------------------------------
-- IPv6
-- ---------------------------------------------------------------------------

/-- A decimal byte without a leading zero. -/
def strictByte? (part : List Char) : Option Nat :=
  if part.length > 1 && part.head? == some '0' then none
  else if !part.all Char.isDigit then none
  else (Text.natOfDigits? 10 part).filter (· < 256)

/-- The two pieces that a dotted tail of four bytes writes. -/
def dottedPieces? (part : List Char) : Option (List Nat) := do
  match ← (Text.splitOn '.' part).mapM strictByte? with
  | [a, b, c, d] => some [a * 256 + b, c * 256 + d]
  | _ => none

/-- A piece of one to four hexadecimal digits. -/
def hexPiece? (part : List Char) : Option Nat :=
  if part.length ≤ 4 then Text.natOfDigits? 16 part else none

/-- The pieces of one side of `::`; only the very last part may be dotted. -/
def pieces? (dottedEnd : Bool) : List (List Char) → Option (List Nat)
  | [] => some []
  | [part] =>
    if dottedEnd && part.contains '.' then dottedPieces? part
    else (hexPiece? part).map ([·])
  | part :: parts => do return (← hexPiece? part) :: (← pieces? dottedEnd parts)

/-- Splits a text at the first `::`. -/
def splitGap? : List Char → Option (List Char × List Char)
  | [] => none
  | ':' :: ':' :: rest => some ([], rest)
  | c :: rest => (splitGap? rest).map fun (a, b) => (c :: a, b)

/-- The parts between colons; an empty text has none. -/
def colonParts (cs : List Char) : List (List Char) :=
  if cs.isEmpty then [] else Text.splitOn ':' cs

/-- The eight pieces of an IPv6 address. -/
def ipv6? (cs : List Char) : Option (List Nat) :=
  match splitGap? cs with
  | none => (pieces? true (colonParts cs)).filter (·.length == 8)
  | some (front, back) => do
    let a ← pieces? false (colonParts front)
    let b ← pieces? true (colonParts back)
    if a.length + b.length < 8 then
      some (a ++ List.replicate (8 - a.length - b.length) 0 ++ b)
    else none

/-- The length of the run of zeros at the front. -/
def zeroRun (pieces : List Nat) : Nat :=
  (pieces.takeWhile (· == 0)).length

/-- The place and length of the first longest run of zero pieces. -/
def longestZeroRun (pieces : List Nat) : Nat × Nat :=
  (List.range pieces.length).foldl
    (fun best i =>
      let n := zeroRun (pieces.drop i)
      if n > best.2 then (i, n) else best)
    (0, 0)

/-- The text of an IPv6 address: the first longest run of at least two zero
pieces is written `::`. -/
def ipv6Text (pieces : List Nat) : String :=
  let hex := fun (ps : List Nat) => ":".intercalate (ps.map fun n => String.ofList (Text.hexText n))
  let (start, size) := longestZeroRun pieces
  if size < 2 then hex pieces
  else hex (pieces.take start) ++ "::" ++ hex (pieces.drop (start + size))

end WebhookRelay.Url

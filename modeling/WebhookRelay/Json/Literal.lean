-- SUMMARY: The text of a JSON number and the number it stands for.
import WebhookRelay.Json.Basic
import WebhookRelay.Text.Digits

/-!
# Number literals

A literal is an optional minus sign, whole digits without a leading zero, an
optional fraction and an optional exponent.

Its value is an integer when it has neither fraction nor exponent and fits 64
bits. Otherwise the leading digits that fit an unsigned 64-bit word are turned
into a double and scaled by one power of ten, each step rounded on its own. That
is fast and not always the nearest double: `9007199254740993.0` becomes
`9007199254740994`. A literal beyond the doubles has no value.
-/

namespace WebhookRelay.Json

/-- The parts of a number's text; digits are values, the highest first. -/
structure Literal where
  negative : Bool
  whole : List Nat
  fraction : Option (List Nat)
  /-- The sign of the exponent (`true` for minus) and its digits. -/
  exponent : Option (Bool × List Nat)
  deriving DecidableEq, Repr

/-- Splits an exponent off: `e` or `E`, an optional sign, digits. The outer
`none` says that an exponent begins and has no digits. -/
def readExponent (cs : List Char) : Option (Option (Bool × List Nat) × List Char) :=
  match cs with
  | c :: rest =>
    if c = 'e' ∨ c = 'E' then
      let (minus, rest) :=
        match rest with
        | '-' :: r => (true, r)
        | '+' :: r => (false, r)
        | r => (false, r)
      match Text.spanDecimal rest with
      | ([], _) => none
      | (ds, rest) => some (some (minus, ds), rest)
    else some (none, cs)
  | [] => some (none, [])

/-- Splits a fraction off: a point and digits. -/
def readFraction (cs : List Char) : Option (Option (List Nat) × List Char) :=
  match cs with
  | '.' :: rest =>
    match Text.spanDecimal rest with
    | ([], _) => none
    | (ds, rest) => some (some ds, rest)
  | _ => some (none, cs)

/-- Splits a number off the front of a text. After a leading zero no digit may follow. -/
def readLiteral (cs : List Char) : Option (Literal × List Char) := do
  let (negative, cs) :=
    match cs with
    | '-' :: rest => (true, rest)
    | _ => (false, cs)
  let (whole, cs) ←
    match Text.spanDecimal cs with
    | ([], _) => none
    | (0 :: _ :: _, _) => none
    | (ds, rest) => some (ds, rest)
  let (fraction, cs) ← readFraction cs
  let (exponent, cs) ← readExponent cs
  return (⟨negative, whole, fraction, exponent⟩, cs)

/-- The greatest significand: digits are taken while the number they write stays within it. -/
def significandMax : Nat := 18446744073709551615

/-- Extends a significand by the digits that fit, and gives the digits that are left. -/
def takeFitting (significand : Nat) : List Nat → Nat × List Nat
  | [] => (significand, [])
  | d :: ds =>
    if significand * 10 + d ≤ significandMax then takeFitting (significand * 10 + d) ds
    else (significand, d :: ds)

/-- The double nearest to `10 ^ n`. -/
def powerOfTen (n : Nat) : Float :=
  OfScientific.ofScientific 1 false n

/-- Divides by a power of ten, in steps of at most `10 ^ 308`. -/
def scaleDown (x : Float) (n : Nat) : Float :=
  if n ≤ 308 then x / powerOfTen n
  else if x == 0.0 then x
  else scaleDown (x / powerOfTen 308) (n - 308)
termination_by n

/-- Scales by a power of ten; `none` when the result is beyond the doubles. -/
def scale? (x : Float) : Int → Option Float
  | .ofNat n =>
    if n ≤ 308 then
      let y := x * powerOfTen n
      if y.isInf then none else some y
    else if x == 0.0 then some x
    else none
  | .negSucc n => some (scaleDown x (n + 1))

/-- The greatest exponent that is counted exactly. -/
def exponentMax : Nat := 2147483647

/-- The size of the double that a literal with a fraction or an exponent, or with
too many digits, stands for. -/
def Literal.magnitude? (l : Literal) : Option Float :=
  let (head, skipped) := takeFitting 0 l.whole
  let fraction := l.fraction.getD []
  let (significand, unused) := takeFitting head fraction
  let shift : Int := skipped.length - (fraction.length - unused.length)
  let x := significand.toUInt64.toFloat
  match l.exponent with
  | none => scale? x shift
  | some (minus, ds) =>
    let power := Text.ofDigits 10 ds
    if exponentMax < power then
      if significand ≠ 0 ∧ !minus then none else some 0.0
    else scale? x (if minus then shift - power else shift + power)

/-- The number that a literal stands for. -/
def Literal.number? (l : Literal) : Option Number :=
  let float? := l.magnitude?.map fun x => Number.float (if l.negative then -x else x)
  if l.fraction.isSome || l.exponent.isSome then float?
  else
    let n := Text.ofDigits 10 l.whole
    if l.negative then
      if 0 < n ∧ n ≤ 9223372036854775808 then some (.integer (-n)) else float?
    else if n ≤ significandMax then some (.integer n)
    else float?

end WebhookRelay.Json

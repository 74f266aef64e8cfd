-- SUMMARY: The shortest decimal that reads back as a given positive double.

/-!
# Shortest decimals

A positive finite double is `mantissa * 2 ^ exponent`, and every real number
between the midpoints to its two neighbours rounds to it (the midpoints
themselves too when the mantissa is even). `Dyadic.shortest` looks on the
decimal grids with 1, 2, … 17 digits, in exact arithmetic, and takes the first
grid with a point in that interval. Only the two grid points around the double
can be candidates, since the interval holds the double itself.
-/

namespace WebhookRelay.Decimal

/-- Which of two equally near decimals is taken. -/
inductive Tie where
  | even
  | up
  deriving DecidableEq, Repr

/-- The positive number `significand * 10 ^ exponent`. -/
structure Scaled where
  significand : Nat
  exponent : Int
  deriving DecidableEq, Repr

/-- The positive double `mantissa * 2 ^ exponent`. At a power of two the gap to
the double below is only half of the gap above: then `narrow` holds. -/
structure Dyadic where
  mantissa : Nat
  exponent : Int
  narrow : Bool
  deriving DecidableEq, Repr

/-- The magnitude of a finite double that is not zero. -/
def Dyadic.ofFloat (x : Float) : Dyadic :=
  let bits : Nat := x.toBits.toNat
  let fraction : Nat := bits % 0x10000000000000
  let power : Nat := bits / 0x10000000000000 % 0x800
  if power = 0 then ⟨fraction, -1074, false⟩
  else ⟨0x10000000000000 + fraction, (power : Int) - 1075, fraction == 0 && power != 1⟩

/-- The number of decimal digits of the whole part of `num / den`, or, below
one, minus the number of zeros between the point and the first digit. -/
def magnitude (num den : Nat) : Int :=
  if den ≤ num then (Nat.toDigits 10 (num / den)).length
  else
    let j := (Nat.toDigits 10 (den / num)).length
    if den ≤ num * Nat.pow 10 (j - 1) then 2 - (j : Int) else 1 - (j : Int)

/-- The point of the grid `10 ^ e * ℕ` that stands for `num / den`, if one of the
two around it lies within `below / den` and `above / den` of it. -/
def gridPoint? (num den below above : Nat) (closed : Bool) (tie : Tie) (e : Int) : Option Scaled :=
  let up := Nat.pow 10 (-e).toNat
  let step := den * Nat.pow 10 e.toNat
  let c := num * up / step
  let down := num * up % step
  let rise := step - down
  let lower := decide (down < below * up) || (closed && down == below * up)
  let upper := decide (rise < above * up) || (closed && rise == above * up)
  let takeLower : Bool :=
    match compare down rise with
    | .lt => true
    | .gt => false
    | .eq => tie == .even && c % 2 == 0
  match lower, upper with
  | true, true => some ⟨if takeLower then c else c + 1, e⟩
  | true, false => some ⟨c, e⟩
  | false, true => some ⟨c + 1, e⟩
  | false, false => none

/-- Moves the zeros at the end of the significand into the exponent. -/
def Scaled.trim (d : Scaled) : Nat → Scaled
  | 0 => d
  | fuel + 1 =>
    if d.significand % 10 = 0 ∧ d.significand ≠ 0 then
      Scaled.trim ⟨d.significand / 10, d.exponent + 1⟩ fuel
    else d

/-- The decimal with the fewest digits that reads back as the double, of several
the nearest. -/
def Dyadic.shortest (tie : Tie) (x : Dyadic) : Scaled :=
  let scale := 1 <<< x.exponent.toNat
  let num := 4 * x.mantissa * scale
  let den := 4 <<< (-x.exponent).toNat
  let above := 2 * scale
  let below := if x.narrow then scale else above
  let top := magnitude num den
  let attempt := fun (n : Nat) =>
    gridPoint? num den below above (x.mantissa % 2 == 0) tie (top - (n + 1))
  match (List.range 17).findSome? attempt with
  | some d => d.trim 20
  | none => ⟨0, 0⟩

end WebhookRelay.Decimal

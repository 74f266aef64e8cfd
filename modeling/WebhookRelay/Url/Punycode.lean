-- SUMMARY: Punycode, the ASCII form of labels with other characters.

/-!
# Punycode

The characters of a label beyond ASCII are inserted one by one, in the order of
their code points. Each insertion is written as one number: how many positions
(and code points) to step over since the last one. Numbers are written in base
36, lowest digit first, with a threshold per digit that adapts to their size.
-/

namespace WebhookRelay.Url.Punycode

/-- The digit of a value below 36: letters first. -/
def digit (d : Nat) : Char :=
  if d < 26 then Char.ofNat (0x61 + d) else Char.ofNat (0x30 + (d - 26))

/-- The value of a digit, letters in either case. -/
def value? (c : Char) : Option Nat :=
  let n := c.toNat
  if 0x61 ≤ n ∧ n ≤ 0x7A then some (n - 0x61)
  else if 0x41 ≤ n ∧ n ≤ 0x5A then some (n - 0x41)
  else if 0x30 ≤ n ∧ n ≤ 0x39 then some (n - 0x30 + 26)
  else none

/-- The threshold of the digit at place `k`, a multiple of 36. -/
def threshold (bias k : Nat) : Nat :=
  max 1 (min 26 (k - bias))

/-- Scales a step down until it is small; counts 36 for each scaling. -/
def settle (delta k : Nat) : Nat × Nat :=
  if 455 < delta then settle (delta / 35) (k + 36) else (delta, k)
termination_by delta

/-- The bias after a step of size `delta` in a label that now has `size` characters. -/
def adapt (delta size : Nat) (first : Bool) : Nat :=
  let delta := if first then delta / 700 else delta / 2
  let (delta, k) := settle (delta + delta / size) 0
  k + 36 * delta / (delta + 38)

/-- The digits of a number; fuel bounds their count. -/
def encodeNumber (bias : Nat) : Nat → Nat → Nat → List Char
  | 0, _, _ => []
  | fuel + 1, k, n =>
    let t := threshold bias k
    if n < t then [digit n]
    else digit (t + (n - t) % (36 - t)) :: encodeNumber bias fuel (k + 36) ((n - t) / (36 - t))

/-- What encoding carries from one insertion to the next. -/
structure Progress where
  output : List Char
  delta : Nat
  bias : Nat
  /-- How many characters are handled. -/
  handled : Nat

/-- One pass over the label for the code point `n`. -/
def insertAll (basic n : Nat) (p : Progress) (label : List Char) : Progress :=
  label.foldl
    (fun p c =>
      if c.toNat < n then { p with delta := p.delta + 1 }
      else if c.toNat = n then
        ⟨p.output ++ encodeNumber p.bias (p.delta + 1) 36 p.delta, 0,
          adapt p.delta (p.handled + 1) (p.handled == basic), p.handled + 1⟩
      else p)
    p

/-- The ASCII form of a label. -/
def encode (label : List Char) : List Char :=
  let basic := label.filter (·.toNat < 0x80)
  let others := (label.filter (0x80 ≤ ·.toNat)).map Char.toNat
  let points := others.mergeSort.eraseDups
  let front := if basic.isEmpty then [] else basic ++ ['-']
  let step := fun (state : Progress × Nat) (n : Nat) =>
    let (p, last) := state
    let p := { p with delta := p.delta + (n - last) * (p.handled + 1) }
    let p := insertAll basic.length n p label
    ({ p with delta := p.delta + 1 }, n + 1)
  (points.foldl step (⟨front, 0, 72, basic.length⟩, 0x80)).1.output

/-- Reads one number off the front of the digits: the sum and the rest. -/
def decodeNumber? (bias : Nat) : List Char → Nat → Nat → Nat → Option (Nat × List Char)
  | [], _, _, _ => none
  | c :: rest, k, weight, sum => do
    let d ← value? c
    let t := threshold bias k
    if d < t then some (sum + d * weight, rest)
    else decodeNumber? bias rest (k + 36) (weight * (36 - t)) (sum + d * weight)

/-- Inserts the characters that the digits tell of; fuel bounds their count. -/
def decodeFrom (bias n i : Nat) (label : List Char) : Nat → List Char → Option (List Char)
  | _, [] => some label
  | 0, _ => none
  | fuel + 1, digits => do
    let (sum, rest) ← decodeNumber? bias digits 36 1 i
    let size := label.length + 1
    let point := n + sum / size
    if ¬ point.isValidChar then none
    else
      decodeFrom (adapt (sum - i) size (i == 0)) point (sum % size + 1)
        (label.insertIdx (sum % size) (Char.ofNat point)) fuel rest

/-- The label that an ASCII form stands for. -/
def decode? (digits : List Char) : Option (List Char) :=
  let back := digits.reverse
  let tail := (back.takeWhile (· != '-')).reverse
  let basic := ((back.dropWhile (· != '-')).drop 1).reverse
  decodeFrom 72 0x80 0 basic digits.length tail

end WebhookRelay.Url.Punycode

-- SUMMARY: How a double is written: positional or with an exponent, in three house styles.
import WebhookRelay.Decimal.Shortest

/-!
# Decimal layouts

A `Layout` settles what the shortest digits leave open: where positional text
ends, whether a whole number shows a `.0`, whether a positive exponent shows its
sign, and which way a tie goes.
-/

namespace WebhookRelay.Decimal

/-- The choices that turn digits into text. -/
structure Layout where
  /-- Whether digits are written positionally when the point stands that many
  places after the start of the first digit. -/
  positional : Int → Bool
  /-- What follows the digits of a whole number. -/
  wholeMark : String
  /-- What stands before a positive exponent. -/
  plus : String
  tie : Tie

/-- The text of a positive decimal. -/
def Layout.digits (l : Layout) (d : Scaled) : String :=
  let ds := Nat.toDigits 10 d.significand
  let point : Int := d.exponent + ds.length
  if l.positional point then
    if point ≤ 0 then
      "0." ++ String.ofList (List.replicate (-point).toNat '0' ++ ds)
    else if point < ds.length then
      String.ofList (ds.take point.toNat ++ '.' :: ds.drop point.toNat)
    else
      String.ofList (ds ++ List.replicate (point.toNat - ds.length) '0') ++ l.wholeMark
  else
    let power := point - 1
    let head := String.ofList (ds.take 1)
    let tail := if ds.length = 1 then "" else "." ++ String.ofList (ds.drop 1)
    let sign := if power < 0 then "-" else l.plus
    head ++ tail ++ "e" ++ sign ++ toString power.natAbs

/-- The text of a double. -/
def Layout.render (l : Layout) (x : Float) : String :=
  if x.isNaN then "NaN"
  else
    let sign := if x.toBits ≥ 0x8000000000000000 then "-" else ""
    if x.isInf then sign ++ "inf"
    else if x == 0.0 then sign ++ "0" ++ l.wholeMark
    else sign ++ l.digits ((Dyadic.ofFloat x).shortest l.tie)

/-- JSON numbers: positional from `0.00001` up to sixteen digits, then `1e+16`. -/
def Layout.json : Layout :=
  ⟨fun point => decide (-5 < point ∧ point ≤ 16), ".0", "+", .even⟩

/-- Log fields and reports: positional from `0.0001` up to sixteen digits, then `1e16`. -/
def Layout.report : Layout :=
  ⟨fun point => decide (-4 < point ∧ point ≤ 16), ".0", "", .up⟩

/-- Settings read as text: always positional, a whole number without a fraction. -/
def Layout.plain : Layout :=
  ⟨fun _ => true, "", "", .up⟩

end WebhookRelay.Decimal

-- SUMMARY: Reading bytes as UTF-8 with replacement characters where they are not.

/-!
# Lenient UTF-8

`lossy` reads any bytes as text. Every longest run of bytes that begins a
well-formed character without completing it becomes one `U+FFFD`, and so does
every byte that begins none.
-/

namespace WebhookRelay.Text

/-- The bytes that may stand second after a first byte, and how many follow in all;
`none` for a byte that starts no character of several bytes. -/
def leadRule? (b : Nat) : Option (Nat × Nat × Nat) :=
  if 0xC2 ≤ b ∧ b ≤ 0xDF then some (0x80, 0xBF, 1)
  else if b = 0xE0 then some (0xA0, 0xBF, 2)
  else if b = 0xED then some (0x80, 0x9F, 2)
  else if 0xE1 ≤ b ∧ b ≤ 0xEF then some (0x80, 0xBF, 2)
  else if b = 0xF0 then some (0x90, 0xBF, 3)
  else if 0xF1 ≤ b ∧ b ≤ 0xF3 then some (0x80, 0xBF, 3)
  else if b = 0xF4 then some (0x80, 0x8F, 3)
  else none

/-- The state between two bytes: no character open, or one with the bits read so
far, the bytes still owed and the bounds of the next. -/
inductive Utf8State where
  | idle
  | open (bits owed low high : Nat)

/-- The character that replaces what cannot be read. -/
def replacement : Char := '\uFFFD'

/-- The reading of bytes from a state. -/
def lossyFrom : Utf8State → List UInt8 → List Char
  | .idle, [] => []
  | .open .., [] => [replacement]
  | state, b :: rest =>
    let n := b.toNat
    let start : List Char → List Char := fun front =>
      if n < 0x80 then front ++ Char.ofNat n :: lossyFrom .idle rest
      else
        match leadRule? n with
        | none => front ++ replacement :: lossyFrom .idle rest
        | some (low, high, owed) =>
          front ++ lossyFrom (.open (n % (0x40 >>> owed)) owed low high) rest
    match state with
    | .idle => start []
    | .open bits owed low high =>
      if low ≤ n ∧ n ≤ high then
        let bits := bits * 64 + n % 64
        if owed = 1 then Char.ofNat bits :: lossyFrom .idle rest
        else lossyFrom (.open bits (owed - 1) 0x80 0xBF) rest
      else start [replacement]

/-- Bytes as text, with `U+FFFD` for what is not UTF-8. -/
def lossy (bytes : ByteArray) : String :=
  match String.fromUTF8? bytes with
  | some s => s
  | none => String.ofList (lossyFrom .idle bytes.toList)

end WebhookRelay.Text

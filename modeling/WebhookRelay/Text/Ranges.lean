-- SUMMARY: Sets of characters as ranges of code points, and their tables.
import WebhookRelay.Text.Digits
import WebhookRelay.Text.Split

/-!
# Ranges of characters

A property of characters is a list of ranges of code points. Its table is written
as text: ranges `a-b` and single code points `a` in hexadecimal.
-/

namespace WebhookRelay.Text

/-- The entries of a table, which stand between spaces and line ends. -/
def tableEntries (table : String) : List (List Char) :=
  ((splitOn '\n' table.toList).flatMap (splitOn ' ')).filter (!·.isEmpty)

/-- A code point in hexadecimal. -/
def codePoint (digits : List Char) : Nat :=
  (natOfDigits? 16 digits).getD 0

/-- The ends of a range. -/
def rangeOf (entry : List Char) : Nat × Nat :=
  match splitOn '-' entry with
  | [first, last] => (codePoint first, codePoint last)
  | _ => (codePoint entry, codePoint entry)

/-- The ranges of a table. -/
def ranges (table : String) : List (Nat × Nat) :=
  (tableEntries table).map rangeOf

/-- Whether a character is in one of some ranges. -/
def isWithin (ranges : List (Nat × Nat)) (c : Char) : Bool :=
  ranges.any fun (first, last) => first ≤ c.toNat && c.toNat ≤ last

end WebhookRelay.Text

-- SUMMARY: Which characters show as themselves in a report.
import WebhookRelay.Text.Assigned
import WebhookRelay.Text.Mark

/-!
# Visible characters

A character shows as itself unless it is a control or format character, a
separator other than the space, a code point without a character, or one that
joins the character before it (the property Grapheme_Extend).
-/

namespace WebhookRelay.Text

/-- Control characters. -/
def isControl (c : Char) : Bool :=
  c.toNat < 0x20 || (0x7F ≤ c.toNat && c.toNat ≤ 0x9F)

/-- The table of format characters, of the category Cf. -/
def formatTable : String := "
  ad 600-605 61c 6dd 70f 890-891 8e2 180e 200b-200f 202a-202e 2060-2064 2066-206f feff
  fff9-fffb 110bd 110cd 13430-1343f 1bca0-1bca3 1d173-1d17a e0001 e0020-e007f"

/-- The ranges of format characters. -/
def formatRanges : List (Nat × Nat) :=
  ranges formatTable

/-- The table of separators other than the space, of the categories Zs, Zl and Zp. -/
def separatorTable : String := "
  a0 1680 2000-200a 2028-2029 202f 205f 3000"

/-- The ranges of separators other than the space. -/
def separatorRanges : List (Nat × Nat) :=
  ranges separatorTable

/-- The table of other characters that join the one before them. -/
def joiningMarkTable : String := "
  9be 9d7 b3e b57 bbe bd7 cc2 cd5-cd6 d3e d57 dcf ddf 1b35 302e-302f ff9e-ff9f 1133e 11357
  114b0 114bd 115af 11930 1d165 1d16e-1d172"

/-- The ranges of other characters that join the one before them. -/
def joiningMarkRanges : List (Nat × Nat) :=
  ranges joiningMarkTable

/-- Whether a character shows as itself. -/
def isVisible (c : Char) : Bool :=
  if c.toNat < 0x80 then !isControl c
  else
    !isControl c && !isWithin formatRanges c && !isWithin separatorRanges c && !isNonspacing c
      && !isWithin joiningMarkRanges c && !isPrivate c && isAssigned c

end WebhookRelay.Text

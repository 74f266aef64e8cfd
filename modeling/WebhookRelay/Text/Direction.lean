-- SUMMARY: The writing direction of characters.
import WebhookRelay.Text.Mark

/-!
# Direction

Characters are written from left to right or from right to left, are digits of
either kind, or have no direction of their own.
-/

namespace WebhookRelay.Text

/-- How a character takes part in the direction of a text. -/
inductive Direction where
  | leftToRight
  | rightToLeft
  | arabicDigit
  | europeanDigit
  /-- A mark, which goes with the character before it. -/
  | mark
  | neutral
  deriving DecidableEq, Repr

/-- The table of characters written from right to left. -/
def rightToLeftTable : String := "
  590 5be 5c0 5c3 5c6 5c8-5ff 608 60b 60d 61b-64a 66d-66f 671-6d5 6e5-6e6 6ee-6ef 6fa-710
  712-72f 74b-7a5 7b1-7ea 7f4-7f5 7fa-7fc 7fe-815 81a 824 828 82e-858 85c-88f 892-897 8a0-8c9
  200f fb1d fb1f-fb28 fb2a-fd3d fd50-fdce fdf0-fdfc fe70-fefe 10800-1091e 10920-10a00 10a04
  10a07-10a0b 10a10-10a37 10a3b-10a3e 10a40-10ae4 10ae7-10b38 10b40-10d23 10d28-10d2f
  10d3a-10e5f 10e7f-10eaa 10ead-10efc 10f00-10f45 10f51-10f81 10f86-10fff 1e800-1e8cf
  1e8d7-1e943 1e94b-1eeef 1eef2-1efff"

/-- The table of Arabic digits and their signs. -/
def arabicDigitTable : String := "
  600-605 660-669 66b-66c 6dd 890-891 8e2 10d30-10d39 10e60-10e7e"

/-- The table of European digits. -/
def europeanDigitTable : String := "
  30-39 b2-b3 b9 6f0-6f9 2070 2074-2079 2080-2089 2488-249b ff10-ff19 102e1-102fb 1d7ce-1d7ff
  1f100-1f10a 1fbf0-1fbf9"

/-- The table of characters without a direction. -/
def neutralTable : String := "
  0-8 e-1b 21-2f 3a-40 5b-60 7b-7f a1-a7 a9 ab-ac ae b0-b1 b6-b7 bb bf d7 f7 2b9-2ba 2c2-2cf
  2d2-2d7 2de-2df 2e5-2ed 2ef-2ff 375 3f6 58a 58d-58f 606-607 609-60a 60c 60e-60f 66a 6de 6e9
  7f6-7f9 9f2-9f3 9fb af1 bf3-bfa c78-c7e e3f f3a-f3d 1390-1399 1400 169b-169c 17db 17f0-17f9
  1800-180a 1940 1944-1945 19de-19ff 200c-200d 2010 2012-2016 2018-2023 2027 2030-2032 2035
  2038-203b 203d 203f-2046 204a-2056 2058-205e 20a0-20a7 20a9-20c1 2104 2108 2114 2117-2118
  211e-211f 2123 2125 2127 2129 212e 213a 2141-2144 214a-214d 218a-218b 2190-222b 222e
  2231-2328 232b-2335 237b-2394 2396-2426 2440-244a 24eb-26ab 26ad-27ff 2900-2a0b 2a0d-2a73
  2a77-2adb 2add-2b73 2b76-2b95 2b97-2bff 2ce5-2cea 2cf9-2cff 2e00-2e5d 2e80-2e99 2e9b-2e9e
  2ea0-2ef2 3001 3003-3004 3008-3020 3030 3037 303d-303f 30a0 30fb 31c0-31e3 4dc0-4dff
  a490-a4c6 a60d-a60f a673 a67e-a67f a700-a721 a788 a828-a82b a838-a839 a874-a877 ab6a-ab6b
  fd3e-fd4f fdcf fdfd-fdff fe45-fe46 10101 10140-1018c 10190-1019c 101a0 1091f 10b39-10b3f
  11052-11065 11660-1166c 11fd5-11ff1 16fe2 1d1e9-1d1ea 1d200-1d241 1d245 1d300-1d356 1e2ff
  1eef0-1eef1 1f000-1f02b 1f030-1f093 1f0a0-1f0ae 1f0b1-1f0bf 1f0c1-1f0cf 1f0d1-1f0f5
  1f10b-1f10f 1f12f 1f16d-1f16f 1f1ad 1f260-1f265 1f300-1f6d7 1f6dc-1f6ec 1f6f0-1f6fc
  1f700-1f776 1f77b-1f7d9 1f7e0-1f7eb 1f7f0 1f800-1f80b 1f810-1f847 1f850-1f859 1f860-1f887
  1f890-1f8ad 1f8b0-1f8b1 1f900-1fa53 1fa60-1fa6d 1fa70-1fa7c 1fa80-1fa88 1fa90-1fabd
  1fabf-1fac5 1face-1fadb 1fae0-1fae8 1faf0-1faf8 1fb00-1fb92 1fb94-1fbca"

/-- The ranges of characters that do not go from left to right, with their directions. -/
def directionRanges : List (List (Nat × Nat) × Direction) :=
  [(ranges "cbf cc6 11a07-11a08 11c3f", .leftToRight), (ranges rightToLeftTable, .rightToLeft),
    (ranges arabicDigitTable, .arabicDigit), (ranges europeanDigitTable, .europeanDigit),
    (nonspacingRanges, .mark), (ranges neutralTable, .neutral)]

/-- The direction of a character. -/
def direction (c : Char) : Direction :=
  ((directionRanges.find? fun (ranges, _) => isWithin ranges c).map (·.2)).getD .leftToRight

end WebhookRelay.Text

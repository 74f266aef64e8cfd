-- SUMMARY: Plain values of TOML: strings, numbers, dates and times.
import WebhookRelay.Decimal.Reader
import WebhookRelay.Json.Basic

/-!
# Plain values of TOML

Each reader splits a value off the front of a text. Whole numbers are signed and
have 64 bits. Dates and times become text: a `T` stands between the two, the
fraction of a second has at most nine places and no zeros at its end.
-/

namespace WebhookRelay.Toml

open WebhookRelay.Text

/-- Characters that strings and comments may contain as they are. -/
def isPlain (c : Char) : Bool :=
  c == '\t' || (0x20 ≤ c.toNat && c.toNat != 0x7F)

/-- A text without the blanks at its front. -/
def skipBlanks (cs : List Char) : List Char :=
  cs.dropWhile fun c => c == ' ' || c == '\t'

-- ---------------------------------------------------------------------------
-- Strings
-- ---------------------------------------------------------------------------

/-- The character of a one-letter escape. -/
def simpleEscape? : Char → Option Char
  | 'b' => some '\x08'
  | 't' => some '\t'
  | 'n' => some '\n'
  | 'f' => some '\x0c'
  | 'r' => some '\r'
  | '"' => some '"'
  | '\\' => some '\\'
  | _ => none

/-- The character whose code point some hexadecimal digits write. -/
def codePoint? (digits : List Char) : Option Char :=
  (natOfDigits? 16 digits).bind fun n => if n.isValidChar then some (Char.ofNat n) else none

/-- Puts a character before what a reader found. -/
def before (c : Char) (found : Option (List Char × List Char)) : Option (List Char × List Char) :=
  found.map fun (cs, rest) => (c :: cs, rest)

/-- A string on one line, from behind its opening quote. -/
def readBasic : List Char → Option (List Char × List Char)
  | [] => none
  | '"' :: rest => some ([], rest)
  | '\\' :: 'u' :: a :: b :: c :: d :: rest =>
    (codePoint? [a, b, c, d]).bind fun x => before x (readBasic rest)
  | '\\' :: 'U' :: a :: b :: c :: d :: e :: f :: g :: h :: rest =>
    (codePoint? [a, b, c, d, e, f, g, h]).bind fun x => before x (readBasic rest)
  | '\\' :: e :: rest => (simpleEscape? e).bind fun x => before x (readBasic rest)
  | c :: rest => if c = '\\' ∨ !isPlain c then none else before c (readBasic rest)

/-- A literal string on one line, from behind its opening quote. -/
def readLiteral : List Char → Option (List Char × List Char)
  | [] => none
  | '\'' :: rest => some ([], rest)
  | c :: rest => if isPlain c then before c (readLiteral rest) else none

/-- Whether a text goes on with a line end, possibly behind blanks. -/
def endsLineHere (cs : List Char) : Bool :=
  match skipBlanks cs with
  | '\n' :: _ => true
  | '\r' :: '\n' :: _ => true
  | _ => false

/-- A text without the blanks and line ends at its front. -/
def skipLines : List Char → List Char
  | ' ' :: cs => skipLines cs
  | '\t' :: cs => skipLines cs
  | '\n' :: cs => skipLines cs
  | '\r' :: '\n' :: cs => skipLines cs
  | cs => cs

/-- A string over several lines, from behind its three quotes. A backslash at the end
of a line takes the line end and the blanks behind it away. Every step uses up a
character, which the fuel counts. -/
def readLongBasic : Nat → List Char → Option (List Char × List Char)
  | 0, _ => none
  | _, [] => none
  | _, '"' :: '"' :: '"' :: '"' :: '"' :: rest => some (['"', '"'], rest)
  | _, '"' :: '"' :: '"' :: '"' :: rest => some (['"'], rest)
  | _, '"' :: '"' :: '"' :: rest => some ([], rest)
  | fuel + 1, '\\' :: 'u' :: a :: b :: c :: d :: rest =>
    (codePoint? [a, b, c, d]).bind fun x => before x (readLongBasic fuel rest)
  | fuel + 1, '\\' :: 'U' :: a :: b :: c :: d :: e :: f :: g :: h :: rest =>
    (codePoint? [a, b, c, d, e, f, g, h]).bind fun x => before x (readLongBasic fuel rest)
  | fuel + 1, '\\' :: rest =>
    if endsLineHere rest then readLongBasic fuel (skipLines rest)
    else
      match rest with
      | e :: rest => (simpleEscape? e).bind fun x => before x (readLongBasic fuel rest)
      | [] => none
  | fuel + 1, '\r' :: '\n' :: rest => before '\n' (readLongBasic fuel rest)
  | fuel + 1, c :: rest =>
    if c = '\n' ∨ isPlain c then before c (readLongBasic fuel rest) else none

/-- A literal string over several lines, from behind its three quotes. -/
def readLongLiteral : List Char → Option (List Char × List Char)
  | [] => none
  | '\'' :: '\'' :: '\'' :: '\'' :: '\'' :: rest => some (['\'', '\''], rest)
  | '\'' :: '\'' :: '\'' :: '\'' :: rest => some (['\''], rest)
  | '\'' :: '\'' :: '\'' :: rest => some ([], rest)
  | '\r' :: '\n' :: rest => before '\n' (readLongLiteral rest)
  | c :: rest => if c = '\n' ∨ isPlain c then before c (readLongLiteral rest) else none

/-- A text without a line end at its front. -/
def dropLineEnd : List Char → List Char
  | '\n' :: cs => cs
  | '\r' :: '\n' :: cs => cs
  | cs => cs

/-- A string of any of the four kinds. -/
def readString? : List Char → Option (List Char × List Char)
  | '"' :: '"' :: '"' :: rest => readLongBasic (rest.length + 1) (dropLineEnd rest)
  | '\'' :: '\'' :: '\'' :: rest => readLongLiteral (dropLineEnd rest)
  | '"' :: rest => readBasic rest
  | '\'' :: rest => readLiteral rest
  | _ => none

-- ---------------------------------------------------------------------------
-- Numbers
-- ---------------------------------------------------------------------------

/-- The longest front of digits with single underscores between them, as values. -/
def spanDigits (base : Nat) : List Char → List Nat × List Char
  | [] => ([], [])
  | c :: cs =>
    match digitValue? base c with
    | some d => (d :: (spanDigits base cs).1, (spanDigits base cs).2)
    | none =>
      if c = '_' ∧ (cs.head?.bind (digitValue? base)).isSome then spanDigits base cs
      else ([], c :: cs)

/-- One or more digits. -/
def readDigits? (base : Nat) (cs : List Char) : Option (List Nat × List Char) :=
  if (cs.head?.bind (digitValue? base)).isSome then some (spanDigits base cs) else none

/-- The digits of a decimal number: a single zero, or digits that start with another one. -/
def readWhole? : List Char → Option (List Nat × List Char)
  | '0' :: rest => some ([0], rest)
  | cs => readDigits? 10 cs

/-- The exponent of a number: none, or `e` with an optional sign and digits. -/
def readPower? : List Char → Option (Int × List Char)
  | c :: cs =>
    if c = 'e' ∨ c = 'E' then
      match cs with
      | '-' :: ds => (readDigits? 10 ds).map fun (n, rest) => (-(ofDigits 10 n : Int), rest)
      | '+' :: ds => (readDigits? 10 ds).map fun (n, rest) => ((ofDigits 10 n : Int), rest)
      | ds => (readDigits? 10 ds).map fun (n, rest) => ((ofDigits 10 n : Int), rest)
    else some (0, c :: cs)
  | [] => some (0, [])

/-- A double, from behind its whole part. Only one below all doubles may be infinite. -/
def readFloat? (negative : Bool) (whole : List Nat) (cs : List Char) :
    Option (Json × List Char) := do
  let (fraction, cs) ← match cs with
    | '.' :: rest => readDigits? 10 rest
    | _ => some ([], cs)
  let (power, rest) ← readPower? cs
  let size := Decimal.nearest (ofDigits 10 (whole ++ fraction)) (power - fraction.length)
  let x := if negative then -size else size
  if x.isInf && !negative then none else some (.number (.float x), rest)

/-- A whole number that fits signed 64 bits. -/
def integer? (n : Int) : Option Json :=
  if Decimal.int64Min ≤ n ∧ n ≤ Decimal.int64Max then some (.number (.integer n)) else none

/-- A decimal number, or the name of a value that is none, without its sign. -/
def readMagnitude? (negative : Bool) : List Char → Option (Json × List Char)
  | 'i' :: 'n' :: 'f' :: rest =>
    some (.number (.float (if negative then -1.0 / 0.0 else 1.0 / 0.0)), rest)
  | 'n' :: 'a' :: 'n' :: rest => some (.number (.float (0.0 / 0.0)), rest)
  | cs => do
    let (whole, rest) ← readWhole? cs
    match rest with
    | c :: _ =>
      if c = '.' ∨ c = 'e' ∨ c = 'E' then readFloat? negative whole rest
      else
        let n : Int := ofDigits 10 whole
        return (← integer? (if negative then -n else n), rest)
    | [] =>
      let n : Int := ofDigits 10 whole
      return (← integer? (if negative then -n else n), [])

/-- A number. -/
def readNumber? : List Char → Option (Json × List Char)
  | '+' :: cs => readMagnitude? false cs
  | '-' :: cs => readMagnitude? true cs
  | '0' :: 'x' :: cs => do
    let (ds, rest) ← readDigits? 16 cs
    return (← integer? (ofDigits 16 ds), rest)
  | '0' :: 'o' :: cs => do
    let (ds, rest) ← readDigits? 8 cs
    return (← integer? (ofDigits 8 ds), rest)
  | '0' :: 'b' :: cs => do
    let (ds, rest) ← readDigits? 2 cs
    return (← integer? (ofDigits 2 ds), rest)
  | cs => readMagnitude? false cs

-- ---------------------------------------------------------------------------
-- Dates and times
-- ---------------------------------------------------------------------------

/-- Two digits with a value within bounds. -/
def readTwo? (least most : Nat) : List Char → Option (Nat × List Char)
  | a :: b :: rest =>
    (natOfDigits? 10 [a, b]).bind fun n => if least ≤ n ∧ n ≤ most then some (n, rest) else none
  | _ => none

/-- A number below a hundred as two digits. -/
def twoDigits (n : Nat) : List Char :=
  [Char.ofNat (48 + n / 10 % 10), Char.ofNat (48 + n % 10)]

/-- The number of days of a month. -/
def daysIn (year month : Nat) : Nat :=
  if month = 2 then
    if (year % 4 = 0 ∧ year % 100 ≠ 0) ∨ year % 400 = 0 then 29 else 28
  else if month = 4 ∨ month = 6 ∨ month = 9 ∨ month = 11 then 30
  else 31

/-- A date. -/
def readDate? : List Char → Option (List Char × List Char)
  | a :: b :: c :: d :: '-' :: cs => do
    let year ← natOfDigits? 10 [a, b, c, d]
    let (month, cs) ← readTwo? 1 12 cs
    match cs with
    | '-' :: cs =>
      let (day, rest) ← readTwo? 1 (daysIn year month) cs
      return ([a, b, c, d, '-'] ++ twoDigits month ++ '-' :: twoDigits day, rest)
    | _ => none
  | _ => none

/-- The fraction of a second, if there is one. -/
def readFraction? : List Char → Option (List Char × List Char)
  | '.' :: cs =>
    let digits := cs.takeWhile fun c => (decimalValue? c).isSome
    let kept := ((digits.take 9).reverse.dropWhile (· == '0')).reverse
    if digits.isEmpty then none
    else some (if kept.isEmpty then [] else '.' :: kept, cs.drop digits.length)
  | cs => some ([], cs)

/-- A time of day. -/
def readTime? (cs : List Char) : Option (List Char × List Char) := do
  let (hour, cs) ← readTwo? 0 23 cs
  match cs with
  | ':' :: cs =>
    let (minute, cs) ← readTwo? 0 59 cs
    match cs with
    | ':' :: cs =>
      let (second, cs) ← readTwo? 0 60 cs
      let (fraction, rest) ← readFraction? cs
      return (twoDigits hour ++ ':' :: twoDigits minute ++ ':' :: twoDigits second ++ fraction, rest)
    | _ => none
  | _ => none

/-- The offset of a time, if there is one. -/
def readOffset? : List Char → Option (List Char × List Char)
  | c :: cs =>
    if c = 'Z' ∨ c = 'z' then some (['Z'], cs)
    else if c = '+' ∨ c = '-' then do
      let (hour, cs) ← readTwo? 0 23 cs
      match cs with
      | ':' :: cs =>
        let (minute, rest) ← readTwo? 0 59 cs
        let sign := if hour = 0 ∧ minute = 0 then '+' else c
        return (sign :: twoDigits hour ++ ':' :: twoDigits minute, rest)
      | _ => none
    else some ([], c :: cs)
  | [] => some ([], [])

/-- A date, a time, or both with an optional offset. -/
def readMoment? (cs : List Char) : Option (List Char × List Char) :=
  match readDate? cs with
  | none => readTime? cs
  | some (date, rest) =>
    match rest with
    | c :: after =>
      if c = 'T' ∨ c = 't' ∨ c = ' ' then
        match readTime? after with
        | some (time, rest) =>
          (readOffset? rest).map fun (offset, rest) => (date ++ 'T' :: time ++ offset, rest)
        | none => some (date, rest)
      else some (date, rest)
    | [] => some (date, [])

/-- A plain value. -/
def readScalar? (cs : List Char) : Option (Json × List Char) :=
  match cs with
  | 't' :: 'r' :: 'u' :: 'e' :: rest => some (.bool true, rest)
  | 'f' :: 'a' :: 'l' :: 's' :: 'e' :: rest => some (.bool false, rest)
  | c :: _ =>
    if c = '"' ∨ c = '\'' then (readString? cs).map fun (s, rest) => (.string (String.ofList s), rest)
    else
      match readMoment? cs with
      | some (moment, rest) => some (.string (String.ofList moment), rest)
      | none => readNumber? cs
  | [] => none

end WebhookRelay.Toml

-- SUMMARY: Reading JSON5, the form of JSON for files that people write.
import WebhookRelay.Decimal.Reader
import WebhookRelay.Json.Term
import WebhookRelay.Text.Blank

/-!
# JSON5

JSON with comments, a comma behind the last item, keys without quotes, strings in
either quote and more ways to write numbers. Whole numbers are signed and have 64
bits. Recursion is on a fuel that `parse?` sets from the length of the text; each
level uses up a character.
-/

namespace WebhookRelay.Json5

open WebhookRelay.Text

-- ---------------------------------------------------------------------------
-- White space and comments
-- ---------------------------------------------------------------------------

/-- Whether a character ends a line. -/
def isLineEnd (c : Char) : Bool :=
  c == '\n' || c == '\r' || c == '\u2028' || c == '\u2029'

/-- Whether a character is white space. -/
def isSpace (c : Char) : Bool :=
  (isBlank c && c != '\u0085') || c == '\ufeff'

/-- Where a reader of white space and comments stands. -/
inductive Trivia where
  | between
  | lineComment
  | blockComment

/-- Skips white space and comments; `none` in a comment that is never closed. -/
def skipTrivia : Trivia → List Char → Option (List Char)
  | .blockComment, [] => none
  | .blockComment, '*' :: '/' :: cs => skipTrivia .between cs
  | .blockComment, _ :: cs => skipTrivia .blockComment cs
  | .lineComment, c :: cs => skipTrivia (if isLineEnd c then .between else .lineComment) cs
  | .between, '/' :: '/' :: cs => skipTrivia .lineComment cs
  | .between, '/' :: '*' :: cs => skipTrivia .blockComment cs
  | .between, c :: cs => if isSpace c then skipTrivia .between cs else some (c :: cs)
  | _, [] => some []

-- ---------------------------------------------------------------------------
-- Strings
-- ---------------------------------------------------------------------------

/-- The character of an escape of one letter; any other character stands for itself. -/
def escaped? (c : Char) : Option Char :=
  match c with
  | 'b' => some '\x08'
  | 'f' => some '\x0c'
  | 'n' => some '\n'
  | 'r' => some '\r'
  | 't' => some '\t'
  | 'v' => some '\x0b'
  | 'x' | 'u' => none
  | c => if c.isDigit then none else some c

/-- Puts an element before what a reader found. -/
def before (u : Json.StringUnit) (found : Option (List Json.StringUnit × List Char)) :
    Option (List Json.StringUnit × List Char) :=
  found.map fun (us, rest) => (u :: us, rest)

/-- The element whose code some hexadecimal digits write. -/
def unit? (digits : List Char) : Option Json.StringUnit :=
  (natOfDigits? 16 digits).map fun n =>
    if 0xD800 ≤ n ∧ n < 0xE000 then .surrogate n else .char (Char.ofNat n)

/-- The elements of a string, from behind its opening quote. -/
def readUnits? (quote : Char) : List Char → Option (List Json.StringUnit × List Char)
  | [] => none
  | '\\' :: 'u' :: a :: b :: c :: d :: cs =>
    (unit? [a, b, c, d]).bind fun u => before u (readUnits? quote cs)
  | '\\' :: 'x' :: a :: b :: cs => (unit? [a, b]).bind fun u => before u (readUnits? quote cs)
  | '\\' :: '\r' :: '\n' :: cs => readUnits? quote cs
  | '\\' :: '0' :: cs =>
    if (cs.head?.map Char.isDigit).getD false then none
    else before (.char '\x00') (readUnits? quote cs)
  | '\\' :: c :: cs =>
    if isLineEnd c then readUnits? quote cs
    else (escaped? c).bind fun e => before (.char e) (readUnits? quote cs)
  | c :: cs =>
    if c = quote then some ([], cs)
    else if c = '\n' ∨ c = '\r' ∨ c = '\\' then none
    else before (.char c) (readUnits? quote cs)

/-- A string, from behind its opening quote. -/
def readString? (quote : Char) (cs : List Char) : Option (String × List Char) := do
  let (units, rest) ← readUnits? quote cs
  return (← Json.textOf? units, rest)

-- ---------------------------------------------------------------------------
-- Words and numbers
-- ---------------------------------------------------------------------------

/-- Whether a character can stand in a key without quotes. -/
def isKeyChar (c : Char) : Bool :=
  c.isAlphanum || c == '_' || c == '$' || (0x80 ≤ c.toNat && !isSpace c)

/-- Whether a character can stand in a number or in the name of a value. -/
def isWordChar (c : Char) : Bool :=
  c.isAlphanum || c == '+' || c == '-' || c == '.'

/-- Whether a decimal has an integer part without a zero too many. -/
def isDecimal (cs : List Char) : Bool :=
  let whole := cs.takeWhile Char.isDigit
  (whole.length ≤ 1 || whole.head? != some '0')
    && (cs.head?.map fun c => c.isDigit || c == '.').getD false

/-- The number that a word without a sign writes, given the whole word. -/
def readNumber? (word : List Char) : List Char → Option Json
  | ['I', 'n', 'f', 'i', 'n', 'i', 't', 'y'] => double
  | ['N', 'a', 'N'] => double
  | '0' :: 'x' :: digits | '0' :: 'X' :: digits =>
    if word.head? = some '0' then
      ((natOfDigits? 16 digits).filter (· < UInt32.size)).map fun n => .number (.integer n)
    else none
  | cs =>
    if !isDecimal cs then none
    else if cs.all Char.isDigit then
      (Decimal.readInt64? (String.ofList word)).map fun n => .number (.integer n)
    else double
where
  /-- The word as a double. -/
  double : Option Json := (Decimal.readFloat? (String.ofList word)).map fun x => .number (.float x)

/-- The value that a word stands for. -/
def ofWord? (word : List Char) : Option Json :=
  match word with
  | ['n', 'u', 'l', 'l'] => some .null
  | ['t', 'r', 'u', 'e'] => some (.bool true)
  | ['f', 'a', 'l', 's', 'e'] => some (.bool false)
  | '+' :: cs | '-' :: cs => readNumber? word cs
  | cs => readNumber? word cs

-- ---------------------------------------------------------------------------
-- Values
-- ---------------------------------------------------------------------------

/-- A key, in quotes or without. -/
def readKey? : List Char → Option (String × List Char)
  | '"' :: cs => readString? '"' cs
  | '\'' :: cs => readString? '\'' cs
  | cs =>
    let key := cs.takeWhile isKeyChar
    if key.isEmpty || (key.head?.map Char.isDigit).getD false then none
    else some (String.ofList key, cs.dropWhile isKeyChar)

mutual

/-- Splits a value off the front of a text. -/
def readValue? : Nat → List Char → Option (Json × List Char)
  | 0, _ => none
  | fuel + 1, '[' :: cs => (readItems? fuel cs).map fun (items, rest) => (.array items, rest)
  | fuel + 1, '{' :: cs =>
    (readMembers? fuel cs).map fun (members, rest) => (.object (Json.Members.ofList members), rest)
  | _ + 1, '"' :: cs => (readString? '"' cs).map fun (s, rest) => (.string s, rest)
  | _ + 1, '\'' :: cs => (readString? '\'' cs).map fun (s, rest) => (.string s, rest)
  | _ + 1, cs => (ofWord? (cs.takeWhile isWordChar)).map fun v => (v, cs.dropWhile isWordChar)

/-- The items of a list, through its closing bracket. -/
def readItems? : Nat → List Char → Option (List Json × List Char)
  | 0, _ => none
  | fuel + 1, cs => do
    match ← skipTrivia .between cs with
    | ']' :: rest => return ([], rest)
    | cs =>
      let (item, rest) ← readValue? fuel cs
      match ← skipTrivia .between rest with
      | ',' :: rest =>
        let (items, rest) ← readItems? fuel rest
        return (item :: items, rest)
      | ']' :: rest => return ([item], rest)
      | _ => none

/-- The members of an object, through its closing brace. -/
def readMembers? : Nat → List Char → Option (List (String × Json) × List Char)
  | 0, _ => none
  | fuel + 1, cs => do
    match ← skipTrivia .between cs with
    | '}' :: rest => return ([], rest)
    | cs =>
      let (key, rest) ← readKey? cs
      match ← skipTrivia .between rest with
      | ':' :: rest =>
        let (value, rest) ← readValue? fuel (← skipTrivia .between rest)
        match ← skipTrivia .between rest with
        | ',' :: rest =>
          let (members, rest) ← readMembers? fuel rest
          return ((key, value) :: members, rest)
        | '}' :: rest => return ([(key, value)], rest)
        | _ => none
      | _ => none

end

/-- The members of the object that a text writes. -/
def parse? (text : String) : Option (List (String × Json)) := do
  let (value, rest) ← readValue? (2 * text.length + 2) (← skipTrivia .between text.toList)
  match value, ← skipTrivia .between rest with
  | .object members, [] => some members
  | _, _ => none

end WebhookRelay.Json5

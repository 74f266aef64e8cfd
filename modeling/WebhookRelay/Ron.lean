-- SUMMARY: Reading RON, a notation for structures, maps, lists and plain values.
import WebhookRelay.Decimal.Reader
import WebhookRelay.Json.Basic

/-!
# RON

A structure is written `Name(field: value)`, its name left out or not, a map
`{key: value}`, a list `[value]` and a tuple `(value)`. `None` and names alone are
null, `Some(value)` is the value. Whole numbers are signed and have 64 bits, larger
ones become doubles. Recursion is on a fuel that `parse?` sets from the length of
the text; each level uses up a character.
-/

namespace WebhookRelay.Ron

open WebhookRelay.Text

-- ---------------------------------------------------------------------------
-- White space and comments
-- ---------------------------------------------------------------------------

/-- Whether a character is white space. -/
def isSpace (c : Char) : Bool :=
  c == ' ' || (0x09 ≤ c.toNat && c.toNat ≤ 0x0D)
    || [0x85, 0x200E, 0x200F, 0x2028, 0x2029].contains c.toNat

/-- Where a reader of white space and comments stands; block comments nest. -/
inductive Trivia where
  | between
  | lineComment
  | blockComment (depth : Nat)

/-- Skips white space and comments; `none` in a comment that is never closed. -/
def skipTrivia : Trivia → List Char → Option (List Char)
  | .blockComment _, [] => none
  | .blockComment depth, '/' :: '*' :: cs => skipTrivia (.blockComment (depth + 1)) cs
  | .blockComment 0, '*' :: '/' :: cs => skipTrivia .between cs
  | .blockComment (depth + 1), '*' :: '/' :: cs => skipTrivia (.blockComment depth) cs
  | .blockComment depth, _ :: cs => skipTrivia (.blockComment depth) cs
  | .lineComment, c :: cs => skipTrivia (if c = '\n' then .between else .lineComment) cs
  | .between, '/' :: '/' :: cs => skipTrivia .lineComment cs
  | .between, '/' :: '*' :: cs => skipTrivia (.blockComment 0) cs
  | .between, c :: cs => if isSpace c then skipTrivia .between cs else some (c :: cs)
  | _, [] => some []

-- ---------------------------------------------------------------------------
-- Strings and characters
-- ---------------------------------------------------------------------------

/-- The character with a code point that some hexadecimal digits write. -/
def point? (digits : List Char) : Option Char :=
  (natOfDigits? 16 digits).bind fun n => if n.isValidChar then some (Char.ofNat n) else none

/-- An escape, from behind its backslash. -/
def readEscape? : List Char → Option (Char × List Char)
  | 'x' :: a :: b :: cs => (point? [a, b]).map (·, cs)
  | 'u' :: '{' :: cs =>
    let digits := cs.takeWhile (· != '}')
    if digits.length ≤ 6 then (point? digits).map (·, cs.drop (digits.length + 1)) else none
  | '0' :: cs => some ('\x00', cs)
  | 'n' :: cs => some ('\n', cs)
  | 'r' :: cs => some ('\r', cs)
  | 't' :: cs => some ('\t', cs)
  | c :: cs => if c = '"' ∨ c = '\'' ∨ c = '\\' then some (c, cs) else none
  | [] => none

/-- The characters of a string, from behind its opening quote. -/
def readChars? : Nat → List Char → Option (List Char × List Char)
  | 0, _ => none
  | _, [] => none
  | _, '"' :: cs => some ([], cs)
  | fuel + 1, '\\' :: cs => do
    let (c, rest) ← readEscape? cs
    let (text, rest) ← readChars? fuel rest
    return (c :: text, rest)
  | fuel + 1, c :: cs => (readChars? fuel cs).map fun (text, rest) => (c :: text, rest)

/-- The characters of a string without escapes, up to its closing marks. -/
def readRaw? (closing : List Char) : List Char → Option (List Char × List Char)
  | [] => none
  | c :: cs =>
    if closing.isPrefixOf (c :: cs) then some ([], (c :: cs).drop closing.length)
    else (readRaw? closing cs).map fun (text, rest) => (c :: text, rest)

/-- A string, in quotes or in the raw form `r#"…"#` with any number of marks. -/
def readString? : List Char → Option (String × List Char)
  | '"' :: cs => (readChars? (cs.length + 1) cs).map fun (text, rest) => (String.ofList text, rest)
  | 'r' :: cs =>
    let marks := cs.takeWhile (· == '#')
    match cs.drop marks.length with
    | '"' :: cs => (readRaw? ('"' :: marks) cs).map fun (text, rest) => (String.ofList text, rest)
    | _ => none
  | _ => none

/-- A character in quotes, from behind the opening one. -/
def readChar? (cs : List Char) : Option (Char × List Char) := do
  let (c, rest) ← match cs with
    | '\\' :: cs => readEscape? cs
    | c :: cs => some (c, cs)
    | [] => none
  match rest with
  | '\'' :: rest => some (c, rest)
  | _ => none

-- ---------------------------------------------------------------------------
-- Numbers and names
-- ---------------------------------------------------------------------------

/-- Whether a character can stand in a number. -/
def isNumberChar (c : Char) : Bool :=
  c.isAlphanum || c == '+' || c == '-' || c == '.' || c == '_'

/-- The magnitude of a whole number in one of four bases. -/
def magnitude? : List Char → Option Nat
  | '0' :: 'x' :: cs => natOfDigits? 16 cs
  | '0' :: 'o' :: cs => natOfDigits? 8 cs
  | '0' :: 'b' :: cs => natOfDigits? 2 cs
  | cs => natOfDigits? 10 cs

/-- A whole number, or a double when it is beyond signed 64 bits. -/
def whole? (n : Int) : Option Json :=
  if Decimal.int64Min ≤ n ∧ n ≤ Decimal.int64Max then some (.number (.integer n))
  else if 0 ≤ n ∧ n ≤ Decimal.uint64Max then some (.number (.float (Float.ofInt n)))
  else none

/-- The number that a word writes. -/
def number? (word : List Char) : Option Json :=
  let digits := word.filter (· != '_')
  let found := match digits with
    | '-' :: cs => (magnitude? cs).bind fun n => whole? (-n)
    | '+' :: cs => (magnitude? cs).bind fun n => whole? n
    | cs => (magnitude? cs).bind fun n => whole? n
  let isDouble := digits.any fun c => c == '.' || c == 'e' || c == 'E'
  found <|> if isDouble then
      (Decimal.readFloat? (String.ofList digits)).map fun x => .number (.float x)
    else none

/-- Whether a character can begin a name. -/
def isNameStart (c : Char) : Bool :=
  c.isAlpha || c == '_'

/-- Whether a character can stand in a name. -/
def isNameChar (c : Char) : Bool :=
  c.isAlphanum || c == '_'

/-- A name at the front of a text, which may be empty, and what follows it. -/
def spanName (cs : List Char) : List Char × List Char :=
  if (cs.head?.map isNameStart).getD false then (cs.takeWhile isNameChar, cs.dropWhile isNameChar)
  else ([], cs)

/-- The value of a name that stands for one. -/
def ofName? (name : List Char) : Option Json :=
  match String.ofList name with
  | "true" => some (.bool true)
  | "false" => some (.bool false)
  | "None" => some .null
  | "inf" => some (.number (.float (1.0 / 0.0)))
  | "NaN" => some (.number (.float (0.0 / 0.0)))
  | _ => none

/-- Whether a text goes on with the name of a field and a colon. -/
def hasField (cs : List Char) : Bool :=
  let (name, rest) := spanName cs
  !name.isEmpty && ((skipTrivia .between rest).bind List.head?) == some ':'

-- ---------------------------------------------------------------------------
-- Values
-- ---------------------------------------------------------------------------

/-- The text that a value is when it is a key of a map. -/
def keyOf? : Json → Option String
  | .string s => some s
  | _ => none

mutual

/-- Splits a value off the front of a text. -/
def readValue? : Nat → List Char → Option (Json × List Char)
  | 0, _ => none
  | fuel + 1, '[' :: cs => (readItems? fuel ']' cs).map fun (items, rest) => (.array items, rest)
  | fuel + 1, '{' :: cs =>
    (readEntries? fuel cs).map fun (members, rest) => (.object (Json.Members.ofList members), rest)
  | fuel + 1, '(' :: cs => readStructure? fuel cs
  | _ + 1, '\'' :: cs => (readChar? cs).map fun (c, rest) => (.string (String.singleton c), rest)
  | fuel + 1, cs =>
    match readString? cs with
    | some (s, rest) => some (.string s, rest)
    | none =>
      let (name, rest) := spanName cs
      if name.isEmpty then
        (number? (cs.takeWhile isNumberChar)).map fun v => (v, cs.dropWhile isNumberChar)
      else
        match ofName? name with
        | some v => some (v, rest)
        | none => do
          match ← skipTrivia .between rest with
          | '(' :: cs =>
            let (v, rest) ← readStructure? fuel cs
            match name, v with
            | ['S', 'o', 'm', 'e'], .array [v] => return (v, rest)
            | ['S', 'o', 'm', 'e'], _ => none
            | _, v => return (v, rest)
          | _ => if name = ['S', 'o', 'm', 'e'] then none else return (.null, rest)

/-- A structure or a tuple, from behind its opening bracket. -/
def readStructure? : Nat → List Char → Option (Json × List Char)
  | 0, _ => none
  | fuel + 1, cs => do
    match ← skipTrivia .between cs with
    | ')' :: rest => return (.null, rest)
    | cs =>
      if hasField cs then
        let (members, rest) ← readFields? fuel cs
        return (.object (Json.Members.ofList members), rest)
      else
        let (items, rest) ← readItems? fuel ')' cs
        return (.array items, rest)

/-- The items of a list or tuple, through its closing bracket. -/
def readItems? : Nat → Char → List Char → Option (List Json × List Char)
  | 0, _, _ => none
  | fuel + 1, closing, cs => do
    let cs ← skipTrivia .between cs
    if cs.head? = some closing then return ([], cs.drop 1)
    else
      let (item, rest) ← readValue? fuel cs
      match ← skipTrivia .between rest with
      | ',' :: rest =>
        let (items, rest) ← readItems? fuel closing rest
        return (item :: items, rest)
      | c :: rest => if c = closing then return ([item], rest) else none
      | [] => none

/-- The fields of a structure, through its closing bracket. -/
def readFields? : Nat → List Char → Option (List (String × Json) × List Char)
  | 0, _ => none
  | fuel + 1, cs => do
    match ← skipTrivia .between cs with
    | ')' :: rest => return ([], rest)
    | cs =>
      let (name, rest) := spanName cs
      if name.isEmpty then none
      else
        match ← skipTrivia .between rest with
        | ':' :: rest =>
          let (value, rest) ← readValue? fuel (← skipTrivia .between rest)
          match ← skipTrivia .between rest with
          | ',' :: rest =>
            let (members, rest) ← readFields? fuel rest
            return ((String.ofList name, value) :: members, rest)
          | ')' :: rest => return ([(String.ofList name, value)], rest)
          | _ => none
        | _ => none

/-- The entries of a map, through its closing brace; the keys must be texts. -/
def readEntries? : Nat → List Char → Option (List (String × Json) × List Char)
  | 0, _ => none
  | fuel + 1, cs => do
    match ← skipTrivia .between cs with
    | '}' :: rest => return ([], rest)
    | cs =>
      let (key, rest) ← readValue? fuel cs
      match ← skipTrivia .between rest with
      | ':' :: rest =>
        let (value, rest) ← readValue? fuel (← skipTrivia .between rest)
        let entry := (← keyOf? key, value)
        match ← skipTrivia .between rest with
        | ',' :: rest =>
          let (members, rest) ← readEntries? fuel rest
          return (entry :: members, rest)
        | '}' :: rest => return ([entry], rest)
        | _ => none
      | _ => none

end

/-- The members of the structure or map that a text writes. -/
def parse? (text : String) : Option (List (String × Json)) := do
  let (value, rest) ← readValue? (3 * text.length + 3) (← skipTrivia .between text.toList)
  match value, ← skipTrivia .between rest with
  | .object members, [] => some members
  | _, _ => none

end WebhookRelay.Ron

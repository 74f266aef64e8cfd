-- SUMMARY: Reading a TOML document.
import WebhookRelay.Toml.Scalar
import WebhookRelay.Toml.Tables

/-!
# Reading TOML

A document is read as a list of statements, one a line, which `ofStatements?`
turns into a tree. Recursion is on a fuel that `parse?` sets from the length of
the text; each level uses up a character.
-/

namespace WebhookRelay.Toml

/-- Skips blanks, line ends and comments; `none` at a character that may not stand in them. -/
def skipTrivia (inComment : Bool) : List Char → Option (List Char)
  | [] => some []
  | '\r' :: '\n' :: cs => skipTrivia false cs
  | '\n' :: cs => skipTrivia false cs
  | c :: cs =>
    if inComment then if isPlain c then skipTrivia true cs else none
    else if c = ' ' ∨ c = '\t' then skipTrivia false cs
    else if c = '#' then skipTrivia true cs
    else some (c :: cs)

/-- Whether nothing but a comment follows on the line. -/
def endsLine (cs : List Char) : Bool :=
  match skipBlanks cs with
  | [] => true
  | '#' :: _ => true
  | rest => endsLineHere rest

/-- Whether a character can stand in a key without quotes. -/
def isKeyChar (c : Char) : Bool :=
  c.isAlphanum || c == '_' || c == '-'

/-- One key, in quotes or without. -/
def readSimpleKey? (cs : List Char) : Option (String × List Char) :=
  match cs with
  | '"' :: rest => (readBasic rest).map fun (k, rest) => (String.ofList k, rest)
  | '\'' :: rest => (readLiteral rest).map fun (k, rest) => (String.ofList k, rest)
  | _ =>
    let key := cs.takeWhile isKeyChar
    if key.isEmpty then none else some (String.ofList key, cs.dropWhile isKeyChar)

/-- Keys with points between them: those on the way, the last one, and the rest behind blanks. -/
def readKey? : Nat → List Char → Option (List String × String × List Char)
  | 0, _ => none
  | fuel + 1, cs => do
    let (key, rest) ← readSimpleKey? (skipBlanks cs)
    match skipBlanks rest with
    | '.' :: rest =>
      let (way, last, rest) ← readKey? fuel rest
      return (key :: way, last, rest)
    | rest => return ([], key, rest)

mutual

/-- Splits a value off the front of a text. -/
def readValue? : Nat → List Char → Option (Json × List Char)
  | 0, _ => none
  | fuel + 1, '[' :: cs => (readItems? fuel cs).map fun (items, rest) => (.array items, rest)
  | fuel + 1, '{' :: cs => do
    let (entries, rest) ← match skipBlanks cs with
      | '}' :: rest => some ([], rest)
      | cs => readEntries? fuel cs
    return (← inlineTable? entries, rest)
  | _ + 1, cs => readScalar? cs

/-- The items of a list, through its closing bracket. A comma may stand behind the last. -/
def readItems? : Nat → List Char → Option (List Json × List Char)
  | 0, _ => none
  | fuel + 1, cs => do
    match ← skipTrivia false cs with
    | ']' :: rest => return ([], rest)
    | cs =>
      let (item, rest) ← readValue? fuel cs
      match ← skipTrivia false rest with
      | ',' :: rest =>
        let (items, rest) ← readItems? fuel rest
        return (item :: items, rest)
      | ']' :: rest => return ([item], rest)
      | _ => none

/-- One or more keys and values in braces, through the closing one. -/
def readEntries? : Nat → List Char → Option (List (List String × String × Json) × List Char)
  | 0, _ => none
  | fuel + 1, cs => do
    let (way, key, rest) ← readKey? fuel cs
    match rest with
    | '=' :: rest =>
      let (value, rest) ← readValue? fuel (skipBlanks rest)
      match skipBlanks rest with
      | ',' :: rest =>
        let (entries, rest) ← readEntries? fuel rest
        return ((way, key, value) :: entries, rest)
      | '}' :: rest => return ([(way, key, value)], rest)
      | _ => none
    | _ => none

end

/-- Splits one statement off, up to the end of its line. -/
def readStatement? (fuel : Nat) : List Char → Option (Statement × List Char)
  | '[' :: '[' :: cs => do
    match ← readKey? fuel cs with
    | (way, key, ']' :: ']' :: rest) => return (.entry way key, rest)
    | _ => none
  | '[' :: cs => do
    match ← readKey? fuel cs with
    | (way, key, ']' :: rest) => return (.header way key, rest)
    | _ => none
  | cs => do
    match ← readKey? fuel cs with
    | (way, key, '=' :: rest) =>
      let (value, rest) ← readValue? fuel (skipBlanks rest)
      return (.pair way key value, rest)
    | _ => none

/-- The statements of a document. -/
def readStatements? : Nat → List Char → Option (List Statement)
  | 0, _ => none
  | fuel + 1, cs => do
    match ← skipTrivia false cs with
    | [] => return []
    | cs =>
      let (s, rest) ← readStatement? fuel cs
      if endsLine rest then return s :: (← readStatements? fuel rest) else none

/-- The keys and values at the root of a document. -/
def parse? (text : String) : Option (List (String × Json)) :=
  (readStatements? (2 * text.length + 2) text.toList).bind ofStatements?

end WebhookRelay.Toml

-- SUMMARY: Reading a JSON text: the strict grammar over characters.
import WebhookRelay.Json.Term
import WebhookRelay.Text.Digits

/-!
# Reading JSON

`readTerm` splits one value off the front of a text. Recursion is on a fuel that
`termOf?` sets from the text's length; each level uses up a character, so the
fuel is never what stops a reader.

An object is read by `scanMembers`, which also gives the members that stand
before the first fault. A reader of records can therefore judge the members in
the order of the text, although the text breaks off later.

`parse?` and `Term.read?` look into embedded texts, which are read as texts of
their own. They are shorter than the texts they are embedded in, so their depth
too has a fuel that never runs out.
-/

namespace WebhookRelay.Json

/-- The four blanks of JSON. -/
def isBlank (c : Char) : Bool :=
  c == ' ' || c == '\t' || c == '\n' || c == '\r'

/-- A text without the blanks at its front. -/
def skipBlanks (cs : List Char) : List Char :=
  cs.dropWhile isBlank

/-- The character of a one-letter escape. -/
def simpleEscape? (c : Char) : Option Char :=
  match c with
  | '"' => some '"'
  | '\\' => some '\\'
  | '/' => some '/'
  | 'b' => some '\x08'
  | 'f' => some '\x0c'
  | 'n' => some '\n'
  | 'r' => some '\r'
  | 't' => some '\t'
  | _ => none

/-- The unit that four hexadecimal digits write. -/
def unitOfCode (n : Nat) : StringUnit :=
  if 0xD800 ≤ n ∧ n < 0xE000 then .surrogate n else .char (Char.ofNat n)

/-- Splits a string off, from behind its opening quote through the closing one. -/
def readString : List Char → Option (List StringUnit × List Char)
  | [] => none
  | '"' :: rest => some ([], rest)
  | '\\' :: 'u' :: a :: b :: c :: d :: rest => do
    let n ← Text.natOfDigits? 16 [a, b, c, d]
    let (units, rest) ← readString rest
    return (unitOfCode n :: units, rest)
  | '\\' :: e :: rest => do
    let c ← simpleEscape? e
    let (units, rest) ← readString rest
    return (.char c :: units, rest)
  | c :: rest =>
    if c = '\\' ∨ c.toNat < 0x20 then none
    else do
      let (units, rest) ← readString rest
      return (.char c :: units, rest)

mutual

/-- Splits a value off the front of a text. -/
def readTerm : Nat → List Char → Option (Term × List Char)
  | 0, _ => none
  | fuel + 1, cs =>
    match skipBlanks cs with
    | 'n' :: 'u' :: 'l' :: 'l' :: rest => some (.null, rest)
    | 't' :: 'r' :: 'u' :: 'e' :: rest => some (.bool true, rest)
    | 'f' :: 'a' :: 'l' :: 's' :: 'e' :: rest => some (.bool false, rest)
    | '"' :: rest => (readString rest).map fun (units, rest) => (.string units, rest)
    | '[' :: rest =>
      match skipBlanks rest with
      | ']' :: rest => some (.array [], rest)
      | rest => (readItems fuel rest).map fun (items, rest) => (.array items, rest)
    | '{' :: rest =>
      match skipBlanks rest with
      | '}' :: rest => some (.object [], rest)
      | rest =>
        match scanMembers fuel rest with
        | (members, some rest) => some (.object members, rest)
        | (_, none) => none
    | rest => (readLiteral rest).map fun (l, rest) => (.number l, rest)

/-- Splits one or more items off, through the closing bracket. -/
def readItems : Nat → List Char → Option (List Term × List Char)
  | 0, _ => none
  | fuel + 1, cs =>
    match readTerm fuel cs with
    | none => none
    | some (item, rest) =>
      match skipBlanks rest with
      | ',' :: rest => (readItems fuel rest).map fun (items, rest) => (item :: items, rest)
      | ']' :: rest => some ([item], rest)
      | _ => none

/-- The members up to the closing brace and the text behind it, or the members
up to the first fault and `none`. -/
def scanMembers : Nat → List Char → List (List StringUnit × Term) × Option (List Char)
  | 0, _ => ([], none)
  | fuel + 1, cs =>
    match skipBlanks cs with
    | '"' :: rest =>
      match readString rest with
      | none => ([], none)
      | some (key, rest) =>
        match skipBlanks rest with
        | ':' :: rest =>
          match readTerm fuel rest with
          | none => ([], none)
          | some (value, rest) =>
            match skipBlanks rest with
            | ',' :: rest =>
              let (members, after) := scanMembers fuel rest
              ((key, value) :: members, after)
            | '}' :: rest => ([(key, value)], some rest)
            | _ => ([(key, value)], none)
        | _ => ([], none)
    | _ => ([], none)

end

/-- The term that a text writes, with only blanks around it. -/
def termOf? (text : String) : Option Term :=
  let cs := text.toList
  match readTerm (2 * cs.length + 1) cs with
  | some (t, rest) => if (skipBlanks rest).isEmpty then some t else none
  | none => none

/-- The value that a text writes, with texts embedded in each other to some depth. -/
def parseWithin? : Nat → String → Option Json
  | 0, _ => none
  | fuel + 1, text =>
    (termOf? text).bind (Term.valueWith? (embedding (parseWithin? fuel)) maxDepth)

/-- The value that a text writes. -/
def parse? (text : String) : Option Json :=
  parseWithin? text.length text

/-- The value that is read of a term: what an embedded text writes stands for the
object that embeds it. -/
def Term.read? (depth : Nat) (t : Term) : Option Json :=
  t.valueWith? (embedding parse?) depth

/-- The keys and values that are read of members. -/
def memberReadings? (depth : Nat) (members : List (List StringUnit × Term)) :
    Option (List (String × Json)) :=
  memberValuesWith? (embedding parse?) depth members

/-- The members of the object that a text opens, as far as they are well formed,
and whether the text then closes the object and ends; `none` when the text does
not open an object. -/
def scanObject? (text : String) : Option (List (List StringUnit × Term) × Bool) :=
  let cs := text.toList
  match skipBlanks cs with
  | '{' :: rest =>
    let scanned :=
      match skipBlanks rest with
      | '}' :: rest => ([], some rest)
      | rest => scanMembers (2 * cs.length + 1) rest
    match scanned with
    | (members, some rest) => some (members, (skipBlanks rest).isEmpty)
    | (members, none) => some (members, false)
  | _ => none

end WebhookRelay.Json

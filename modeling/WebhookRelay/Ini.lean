-- SUMMARY: Reading INI documents: sections of keys and texts.
import WebhookRelay.Json.Basic
import WebhookRelay.Text.Blank
import WebhookRelay.Text.Digits

/-!
# INI documents

A section starts with its name in square brackets; keys before the first section
stand at the root. A key ends at `=` or `:`, its text at the end of the line. The
text may have parts in quotes, and backslash escapes count everywhere. Comments
start with `;` or `#` in the first column. Of two sections with one name the
later counts.
-/

namespace WebhookRelay.Ini

open WebhookRelay.Text

/-- The character of a one-letter escape; most letters stand for themselves. -/
def escaped (c : Char) : Char :=
  match c with
  | '0' => '\x00'
  | 'a' => '\x07'
  | 'b' => '\x08'
  | 't' => '\t'
  | 'r' => '\r'
  | 'n' => '\n'
  | c => c

/-- The character whose code point four hexadecimal digits write. -/
def codePoint? (digits : List Char) : Option Char :=
  (natOfDigits? 16 digits).bind fun n => if n.isValidChar then some (Char.ofNat n) else none

/-- Splits off the text before a stop character, resolving escapes. The end of the
document takes the place of one if `mayEnd` holds. -/
def readUntil (stop : Char → Bool) (mayEnd : Bool) : List Char → Option (List Char × List Char)
  | [] => if mayEnd then some ([], []) else none
  | '\\' :: 'x' :: a :: b :: c :: d :: rest => do
    let x ← codePoint? [a, b, c, d]
    let (text, rest) ← readUntil stop mayEnd rest
    return (x :: text, rest)
  | '\\' :: '\n' :: rest => readUntil stop mayEnd rest
  | '\\' :: e :: rest =>
    if e = 'x' then none
    else (readUntil stop mayEnd rest).map fun (text, rest) => (escaped e :: text, rest)
  | c :: rest =>
    if stop c then some ([], c :: rest)
    else if c = '\\' then none
    else (readUntil stop mayEnd rest).map fun (text, rest) => (c :: text, rest)

/-- Whether a character ends a line. -/
def isLineEnd (c : Char) : Bool :=
  c == '\n' || c == '\r'

/-- The text of a key, up to the end of its line. White space at the start counts only
behind a part in quotes. Every part uses up a character, which the fuel counts. -/
def readText : Nat → Bool → List Char → Option (List Char × List Char)
  | 0, _, _ => none
  | _, _, [] => some ([], [])
  | fuel + 1, first, c :: cs =>
    if c = '"' ∨ c = '\'' then do
      let (part, rest) ← readUntil (· == c) false cs
      let (text, rest) ← readText fuel false (rest.drop 1)
      return (part ++ text, rest)
    else
      (readUntil isLineEnd true (c :: cs)).map fun (text, rest) =>
        (if first then trim text else trimEnd text, rest)

/-- Skips white space; tells whether the text goes on in the first column, given whether
it started there. -/
def skipBlanks (atStart : Bool) : List Char → Bool × List Char
  | c :: cs => if isBlank c then skipBlanks (c == '\n') cs else (atStart, c :: cs)
  | [] => (atStart, [])

/-- A document while it is read: the root, the sections, and the name of the current one. -/
structure Document where
  root : Json.Members
  sections : Json.Members
  current : Option String

/-- Opens a section, forgetting an earlier one of its name. -/
def Document.openSection (d : Document) (name : String) : Document :=
  { d with sections := Json.Members.insert name (.object []) d.sections, current := some name }

/-- Sets a key of the current section. -/
def Document.set (d : Document) (key text : String) : Document :=
  match d.current with
  | none => { d with root := Json.Members.insert key (.string text) d.root }
  | some name =>
    match Json.Members.find? name d.sections with
    | some (.object members) =>
      let members := Json.Members.insert key (.string text) members
      { d with sections := Json.Members.insert name (.object members) d.sections }
    | _ => d

/-- Reads the rest of a document. Every step uses up a character, which the fuel counts. -/
def readDocument : Nat → Document → Bool → List Char → Option Document
  | 0, _, _, _ => none
  | fuel + 1, d, atStart, cs =>
    match skipBlanks atStart cs with
    | (_, []) => some d
    | (first, c :: rest) =>
      if c = ';' ∨ c = '#' then
        if first then readDocument fuel d true ((rest.dropWhile (· != '\n')).drop 1) else none
      else if c = '[' then do
        let (name, rest) ← readUntil (· == ']') false rest
        readDocument fuel (d.openSection (String.ofList (trim name))) false (rest.drop 1)
      else do
        let (key, rest) ← readUntil (fun c => c == '=' || c == ':') false (c :: rest)
        let key := trim key
        if key.isEmpty then none
        else
          let (text, rest) ← readText (rest.length + 1) true
            ((rest.drop 1).dropWhile fun c => isBlank c && !isLineEnd c)
          readDocument fuel (d.set (String.ofList key) (String.ofList text)) false rest

/-- The keys and values at the root of a document; a section hides a key of its name. -/
def parse? (text : String) : Option (List (String × Json)) :=
  (readDocument (text.length + 1) ⟨[], [], none⟩ true text.toList).map fun d =>
    d.sections.foldl (fun root s => Json.Members.insert s.1 s.2 root) d.root

end WebhookRelay.Ini

-- SUMMARY: Trees of settings: paths into them and laying one layer over another.
import WebhookRelay.Decimal.Reader
import WebhookRelay.Json.Basic
import WebhookRelay.Text.Digits

/-!
# Trees of settings

Settings are collected in a tree of tables, lists and plain values before they
are read. A layer is a list of named values. A name is a path such as
`http.timeout_ms` or `a.b[0]`; a name that is no path is one key.

`overlay` lays a layer over a tree, entry by entry. A table is merged into the
table that it meets, key by key, and any other value replaces what it meets. A
path that leads through something else than a table or list replaces that by
one. Keys are compared without regard to case.
-/

namespace WebhookRelay.Settings

/-- A key in lower case. The Kelvin sign is the only character beyond ASCII whose
lower-case form is an ASCII letter. -/
def lowerKey (key : String) : String :=
  String.ofList (key.toList.map fun c => if c = '\u212a' then 'k' else c.toLower)

/-- One step of a path. -/
inductive PathStep where
  | key (name : String)
  /-- A place in a list, counted from its end when negative. -/
  | index (place : Int)
  deriving DecidableEq, Repr

/-- Whether a character can stand in a key of a path. -/
def isPathChar (c : Char) : Bool :=
  c.isAlphanum || c == '_' || c == '-' || c == ' '

/-- Blanks of a path. -/
def skipPathBlanks (cs : List Char) : List Char :=
  cs.dropWhile fun c => c == ' ' || c == '\t'

/-- The steps that a text with a front already read goes on with. Every step uses
up a character, which the fuel counts. -/
def readSteps? : Nat → List Char → Option (List PathStep)
  | _, [] => some []
  | 0, _ => none
  | fuel + 1, '.' :: cs =>
    let name := cs.takeWhile isPathChar
    if name.isEmpty then none
    else (readSteps? fuel (cs.dropWhile isPathChar)).map (.key (String.ofList name) :: ·)
  | fuel + 1, '[' :: cs =>
    let cs := skipPathBlanks cs
    let (negative, cs) := match cs with
      | '-' :: rest => (true, rest)
      | _ => (false, cs)
    let (digits, cs) := Text.spanDecimal cs
    let n : Int := Text.ofDigits 10 digits
    match digits, skipPathBlanks cs with
    | _ :: _, ']' :: rest =>
      if n ≤ Decimal.int64Max then
        (readSteps? fuel rest).map (.index (if negative then -n else n) :: ·)
      else none
    | _, _ => none
  | _ + 1, _ => none

/-- The path that a name writes. -/
def path? (name : String) : Option (List PathStep) :=
  readSteps? (name.length + 1) ('.' :: name.toList)

/-- The members of a table, none for anything else. -/
def tableOf : Json → Json.Members
  | .object members => members
  | _ => []

/-- The items of a list, none for anything else. -/
def listOf : Json → List Json
  | .array items => items
  | _ => []

mutual

/-- Sets a key of a table. -/
def setKey (root : Json) (key : String) : Json → Json
  | .object incoming =>
    let members := tableOf root
    let target := (Json.Members.find? (lowerKey key) members).getD (.object [])
    .object (Json.Members.insert (lowerKey key) (mergeInto target incoming) members)
  | value => .object (Json.Members.insert (lowerKey key) value (tableOf root))

/-- Sets every key of a table that another table has. -/
def mergeInto (target : Json) : List (String × Json) → Json
  | [] => target
  | (key, value) :: rest => mergeInto (setKey target key value) rest

end

/-- Changes one place of a list, which grows up to that place. A place before the
start is none. -/
def changeAt (place : Int) (f : Json → Json) (items : List Json) : List Json :=
  let at' : Int := if place < 0 then items.length + place else place
  if at' < 0 then items
  else
    let grown := items ++ List.replicate (at'.toNat + 1 - items.length) Json.null
    grown.modify at'.toNat f

/-- Sets the value at a path. -/
def setPath (value : Json) : List PathStep → Json → Json
  | [], root => root
  | [.key name], root => setKey root name value
  | [.index place], root => .array (changeAt place (fun _ => value) (listOf root))
  | .key name :: rest, root =>
    let members := tableOf root
    let inner := (Json.Members.find? (lowerKey name) members).getD .null
    .object (Json.Members.insert (lowerKey name) (setPath value rest inner) members)
  | .index place :: rest, root => .array (changeAt place (setPath value rest) (listOf root))

/-- Sets the value of a name. -/
def setName (root : Json) (name : String) (value : Json) : Json :=
  match path? name with
  | some steps => setPath value steps root
  | none => setKey root name value

/-- Lays named values over a tree, in order. The order matters when two names meet: one is that of
a section and the other that of a key in it, or both are one key in different cases. In the process
a layer has no order of its own, so there it may be either way; the list stands for one of them. -/
def overlay (root : Json) (layer : List (String × Json)) : Json :=
  layer.foldl (fun root entry => setName root entry.1 entry.2) root

end WebhookRelay.Settings

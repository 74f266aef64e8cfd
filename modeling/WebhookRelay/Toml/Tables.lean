-- SUMMARY: The tables of a TOML document: where a header or a dotted key may lead.
import WebhookRelay.Json.Basic

/-!
# Tables of a TOML document

A document is a list of statements: headers, headers of list entries, and pairs.
Each is carried out on a tree of items; one that would define something twice is
refused. A table remembers how it came to be. A table that only stands on the way
of a header may still get a header of its own, and dotted keys may only go on in
tables that dotted keys made.
-/

namespace WebhookRelay.Toml

/-- How a table came to be. -/
inductive Origin where
  /-- On the way of a header. -/
  | implied
  /-- By a dotted key. -/
  | dotted
  /-- By its own header, or as an entry of a list of tables. -/
  | headed
  deriving DecidableEq, Repr

/-- What a key of a document stands for. -/
inductive Item where
  | value (value : Json)
  | table (origin : Origin) (members : List (String × Item))
  /-- Tables under one header in double brackets, the newest last. -/
  | tables (entries : List (List (String × Item)))
  deriving Inhabited

/-- The members of a table. -/
abbrev Members := List (String × Item)

/-- Sets a key, in place or at the end. -/
def Members.set (key : String) (item : Item) : Members → Members
  | [] => [(key, item)]
  | (k, i) :: rest => if k = key then (key, item) :: rest else (k, i) :: Members.set key item rest

/-- Changes the table at a path, making the tables that are missing on the way, which
are of a given origin. A path of dotted keys does not enter tables with a header. -/
def change (way : Origin) (f : Origin → Members → Option (Origin × Members)) :
    List String → Origin → Members → Option (Origin × Members)
  | [], origin, members => f origin members
  | key :: rest, origin, members =>
    match members.lookup key with
    | none =>
      (change way f rest way []).map fun (o, ms) => (origin, members.set key (.table o ms))
    | some (.table o ms) =>
      if way = .dotted ∧ o = .headed then none
      else (change way f rest o ms).map fun (o, ms) => (origin, members.set key (.table o ms))
    | some (.tables entries) =>
      match entries.getLast? with
      | none => none
      | some last =>
        (change way f rest .headed last).map fun (_, ms) =>
          (origin, members.set key (.tables (entries.dropLast ++ [ms])))
    | some (.value _) => none

/-- Adds a value under a new key. -/
def addValue (key : String) (value : Json) (members : Members) : Option Members :=
  if (members.lookup key).isSome then none else some (members ++ [(key, .value value)])

/-- Adds a value under a key that dots may lead to. -/
def addPair (way : List String) (key : String) (value : Json) (origin : Origin)
    (members : Members) : Option (Origin × Members) :=
  if way.isEmpty then (addValue key value members).map (origin, ·)
  else
    change .dotted (fun o ms => if o = .dotted then (addValue key value ms).map (o, ·) else none)
      way origin members

/-- Opens the table under a key: a new one, or one that was only implied. -/
def openTable (key : String) (origin : Origin) (members : Members) : Option (Origin × Members) :=
  match members.lookup key with
  | none => some (origin, members.set key (.table .headed []))
  | some (.table .implied ms) => some (origin, members.set key (.table .headed ms))
  | some _ => none

/-- Adds an entry to the list of tables under a key. -/
def openEntry (key : String) (origin : Origin) (members : Members) : Option (Origin × Members) :=
  match members.lookup key with
  | none => some (origin, members.set key (.tables [[]]))
  | some (.tables entries) => some (origin, members.set key (.tables (entries ++ [[]])))
  | some _ => none

mutual

/-- The value of an item. -/
def Item.toJson : Item → Json
  | .value v => v
  | .table _ members => .object (Json.Members.ofList (pairs members))
  | .tables entries => .array (entryValues entries)

/-- The keys and values of a table. -/
def pairs : List (String × Item) → List (String × Json)
  | [] => []
  | (key, item) :: rest => (key, item.toJson) :: pairs rest

/-- The values of the tables of a list. -/
def entryValues : List (List (String × Item)) → List Json
  | [] => []
  | members :: rest => .object (Json.Members.ofList (pairs members)) :: entryValues rest

end

/-- The value of a table in braces, from its keys and values. -/
def inlineTable? (entries : List (List String × String × Json)) : Option Json :=
  let add := fun (table : Origin × Members) (entry : List String × String × Json) =>
    addPair entry.1 entry.2.1 entry.2.2 table.1 table.2
  (entries.foldlM add (.headed, [])).map fun table => .object (Json.Members.ofList (pairs table.2))

/-- A statement of a document; the last key of a path stands apart. -/
inductive Statement where
  | header (way : List String) (key : String)
  | entry (way : List String) (key : String)
  | pair (way : List String) (key : String) (value : Json)

/-- A document while it is read: its items, and the path of the table that pairs go to. -/
structure Document where
  members : Members
  current : List String

/-- Carries a statement out. -/
def Document.step? (d : Document) : Statement → Option Document
  | .header way key =>
    (change .implied (openTable key) way .headed d.members).map fun (_, ms) => ⟨ms, way ++ [key]⟩
  | .entry way key =>
    (change .implied (openEntry key) way .headed d.members).map fun (_, ms) => ⟨ms, way ++ [key]⟩
  | .pair way key value =>
    (change .implied (addPair way key value) d.current .headed d.members).map fun (_, ms) =>
      { d with members := ms }

/-- The value of a document. -/
def ofStatements? (statements : List Statement) : Option (List (String × Json)) :=
  (statements.foldlM Document.step? ⟨[], []⟩).map fun d => pairs d.members

end WebhookRelay.Toml

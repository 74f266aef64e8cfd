-- SUMMARY: Files of settings: where they are looked for and in which formats they are read.
import WebhookRelay.Ini
import WebhookRelay.Json.Reader
import WebhookRelay.Json5
import WebhookRelay.Ron
import WebhookRelay.Settings.Basic
import WebhookRelay.Text.Utf8
import WebhookRelay.Toml.Reader
import WebhookRelay.Yaml.Block

/-!
# Files of settings

The format of a file is told by its extension. A path that names no file is tried
with each of the known extensions.
-/

namespace WebhookRelay

/-- What stands at a path. -/
inductive FileNode where
  | directory
  | file (contents : ByteArray)

/-- The files that can be reached, by path. -/
abbrev FileTree := String → Option FileNode

namespace Settings

mutual

/-- A value whose integers beyond signed 64 bits have become doubles. -/
def signed : Json → Json
  | .number (.integer n) =>
    .number (if n ≤ Decimal.int64Max then .integer n else .float (Float.ofInt n))
  | .array items => .array (signedItems items)
  | .object members => .object (signedMembers members)
  | value => value

/-- Items with signed integers only. -/
def signedItems : List Json → List Json
  | [] => []
  | item :: rest => signed item :: signedItems rest

/-- Members with signed integers only. -/
def signedMembers : List (String × Json) → List (String × Json)
  | [] => []
  | (key, value) :: rest => (key, signed value) :: signedMembers rest

end

/-- A format of files. -/
inductive Format where
  | toml
  | json
  | yaml
  | ini
  | ron
  | json5
  deriving DecidableEq, Repr

namespace Format

/-- All formats. -/
def all : List Format :=
  [.toml, .json, .yaml, .ini, .ron, .json5]

/-- The extensions of a format. -/
def extensions : Format → List String
  | .toml => ["toml"]
  | .json => ["json"]
  | .yaml => ["yaml", "yml"]
  | .ini => ["ini"]
  | .ron => ["ron"]
  | .json5 => ["json5"]

/-- The entries at the root of a document, which must be a table. -/
def parse? (f : Format) (text : String) : Option (List (String × Json)) :=
  match f with
  | .toml => Toml.parse? text
  | .yaml => Yaml.parse? text
  | .ini => Ini.parse? text
  | .ron => Ron.parse? text
  | .json5 => Json5.parse? text
  | .json =>
    match Json.parse? text with
    | some (.object members) => some (signedMembers members)
    | _ => none

end Format

/-- The extension of a path: what follows the last point of its last part, unless the
point comes first there. -/
def extension? (path : String) : Option String :=
  let part := (path.toList.reverse.takeWhile (· != '/')).reverse
  let after := (part.reverse.takeWhile (· != '.')).reverse
  if after.length + 1 < part.length then some (String.ofList after) else none

/-- The format that a path tells. -/
def formatOf? (path : String) : Option Format :=
  (extension? path).bind fun e => Format.all.find? (·.extensions.contains e)

/-- The file at a path. -/
def fileAt? (files : FileTree) (path : String) : Option ByteArray :=
  match files path with
  | some (.file contents) => some contents
  | _ => none

/-- The paths that a path without a file is completed to. -/
def completions (path : String) : List (Format × String) :=
  Format.all.flatMap fun f => f.extensions.map fun e => (f, path ++ "." ++ e)

/-- The file that a path means, with its format. -/
def findFile? (files : FileTree) (path : String) : Option (Format × ByteArray) :=
  match fileAt? files path with
  | some contents => (formatOf? path).map (·, contents)
  | none => (completions path).findSome? fun (f, path) => (fileAt? files path).map (f, ·)

/-- The text of a file, without the mark that may stand at its front. -/
def fileText (contents : ByteArray) : String :=
  let cs := (Text.lossy contents).toList
  String.ofList (if cs.head? = some '\ufeff' then cs.drop 1 else cs)

/-- The layer that a file makes up. -/
def fileLayer (files : FileTree) (path : String) : Except SettingsError (List (String × Json)) :=
  match findFile? files path with
  | none => .error .noFile
  | some (f, contents) => (f.parse? (fileText contents)).elim (.error .malformedFile) .ok

end Settings
end WebhookRelay

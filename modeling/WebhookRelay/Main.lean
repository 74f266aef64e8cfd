-- SUMMARY: The program: reads its arguments and surroundings, and builds the server.
import WebhookRelay.CommandLine.Reader
import WebhookRelay.Server.Basic

/-!
# The program

The outer layer: it reads what the pure definitions ask for and prints what they
answer. No database driver is linked in, so that a server is built up to the
connection to its database and ends there.
-/

namespace WebhookRelay.Program

/-- The contents of the file at a path. -/
def readContents (path : String) : IO (Option ByteArray) := do
  try
    return some (← IO.FS.readBinFile path)
  catch _ =>
    return none

/-- The environment variables of the process. -/
def readVariables : IO (List (String × String)) := do
  let bytes ← readContents "/proc/self/environ"
  let entries := (Text.lossy (bytes.getD .empty)).splitOn (String.singleton (Char.ofNat 0))
  return entries.filterMap fun entry =>
    match entry.splitOn "=" with
    | name :: value@(_ :: _) => some (name, "=".intercalate value)
    | _ => none

/-- Whether the path can be opened, as a file or as a directory. -/
def canOpen (path : String) : IO Bool := do
  try
    let _ ← IO.FS.Handle.mk path .read
    return true
  catch _ =>
    return false

/-- What stands at a path. -/
def readNode (path : String) : IO (Option FileNode) := do
  if ← canOpen path then
    return some ((← readContents path).elim .directory .file)
  else return none

/-- What stands at a path and at its completions. -/
def readFiles (path : String) : IO FileTree := do
  let paths := path :: (Settings.completions path).map (·.2)
  let nodes ← paths.mapM fun path => return (path, ← readNode path)
  return fun path => (nodes.lookup path).join

/-- The text for a command line that is not carried out. -/
def usageText : CommandLine.UsageError → String
  | .unknownArgument => "error: unexpected argument found"
  | .invalidValue => "error: invalid or missing value for an option"
  | .conflict => "error: an option cannot be used multiple times"
  | .tooManyValues => "error: unexpected value for an option"
  | .versionAsked => "relay-server"
  | .helpAsked =>
    "Usage: relay-server [--config PATH] [--log-level LEVEL] [--env ENVIRONMENT] [--json-logs]"

/-- Runs the program. Gives the code that the process ends with. -/
def run (words : List String) : IO UInt32 := do
  let environment ← readVariables
  match CommandLine.read words fun name => environment.lookup name with
  | .error e =>
    if e.exitCode = 0 then IO.println (usageText e) else IO.eprintln (usageText e)
    return e.exitCode.toUInt32
  | .ok a =>
    let files ← (a.settingsFile.map readFiles).getD (return fun _ => none)
    match Server.build a ⟨files, environment, fun _ => none, Http.unreachable⟩ with
    | .error e =>
      IO.eprintln ("Error: " ++ e.message)
      return 1
    | .ok _ => return 0

end WebhookRelay.Program

/-- The entry of the program. -/
def main (words : List String) : IO UInt32 :=
  WebhookRelay.Program.run words

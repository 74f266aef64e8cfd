-- SUMMARY: Reading a command line word by word.
import WebhookRelay.CommandLine.Basic

/-!
# Reading the command line

Words are read from left to right. An option whose value is still to come waits
for it; its value is judged only when the next option is read, or at the end, so
that an unknown word is reported first. Behind a lone `--` no word is an option,
and no other words are known.
-/

namespace WebhookRelay.CommandLine

/-- The state between two words. -/
structure State where
  /-- Options with their values, as far as they are judged. -/
  given : List (Opt × String) := []
  /-- An option that waits for its value, or whose value waits to be judged. -/
  waiting : Option (Opt × Option String) := none
  /-- Whether a lone `--` was read. -/
  onlyWords : Bool := false

/-- Takes an option up, with its value if it has one. -/
def State.take (s : State) (o : Opt) (value : Option String) : Except UsageError State :=
  match o with
  | .help => .error .helpAsked
  | .version => .error .versionAsked
  | _ =>
    match (if o.takesValue then value else some "true") with
    | none => .error .invalidValue
    | some v =>
      if (s.given.lookup o).isSome then .error .conflict
      else if o.accepts v then .ok { s with given := s.given ++ [(o, v)] }
      else .error .invalidValue

/-- Judges the value that waits. -/
def State.settle (s : State) : Except UsageError State :=
  match s.waiting with
  | none => .ok s
  | some (o, value) => { s with waiting := none }.take o value

/-- Reads an option; what stands in one word with it is its value. -/
def State.readOption (s : State) (o : Opt) (attached : Option String) :
    Except UsageError State := do
  let s ← s.settle
  if o.takesValue && attached.isNone then return { s with waiting := some (o, none) }
  else s.take o attached

/-- Splits a text at its first `=`. -/
def splitAtEquals (cs : List Char) : String × Option String :=
  let name := cs.takeWhile (· != '=')
  (String.ofList name,
    if name.length < cs.length then some (String.ofList (cs.drop (name.length + 1)))
    else none)

/-- Reads what stands behind two dashes. -/
def State.readLong (s : State) (cs : List Char) : Except UsageError State :=
  let (name, attached) := splitAtEquals cs
  match Opt.all.find? (·.longName = name) with
  | none => .error .unknownArgument
  | some o =>
    if attached.isSome && !o.takesValue then .error .tooManyValues else s.readOption o attached

/-- Reads the letters behind one dash: an option that takes a value takes the rest of
the word, from which one `=` may be left out. -/
def State.readLetters (s : State) : List Char → Except UsageError State
  | [] => .ok s
  | c :: rest =>
    match Opt.all.find? (·.letter? = some c) with
    | none => .error .unknownArgument
    | some o =>
      if o.takesValue then
        let value := match rest with
          | '=' :: value => value
          | value => value
        s.readOption o (if rest.isEmpty then none else some (String.ofList value))
      else do (← s.readOption o none).readLetters rest

/-- Reads one word. -/
def State.readWord (s : State) (word : String) : Except UsageError State :=
  if s.onlyWords then .error .unknownArgument
  else
    match word.toList with
    | ['-', '-'] => .ok { s with onlyWords := true }
    | '-' :: '-' :: cs => s.readLong cs
    | '-' :: c :: cs => s.readLetters (c :: cs)
    | _ =>
      match s.waiting with
      | some (o, none) => .ok { s with waiting := some (o, some word) }
      | _ => .error .unknownArgument

/-- Adds the variables of the options that were not given. -/
def withVariables (environment : String → Option String) (s : State) : Except UsageError State :=
  Opt.all.foldlM (fun s o =>
    match (s.given.lookup o).isSome, o.variableName?.bind environment with
    | false, some v =>
      if o.accepts v then .ok { s with given := s.given ++ [(o, v)] } else .error .invalidValue
    | _, _ => .ok s) s

/-- What the options given amount to. -/
def State.arguments (s : State) : Arguments :=
  let default : Arguments := {}
  { settingsFile := s.given.lookup .settingsFile
    verbosity := ((s.given.lookup .verbosity).bind Verbosity.ofName?).getD default.verbosity
    deployment := ((s.given.lookup .deployment).bind Deployment.ofName?).getD default.deployment
    jsonLogs := s.given.lookup .jsonLogs == some "true" }

/-- Reads a command line, without the name of the program. -/
def read (words : List String) (environment : String → Option String) :
    Except UsageError Arguments := do
  let s ← words.foldlM State.readWord {}
  let s ← s.settle
  return (← withVariables environment s).arguments

end WebhookRelay.CommandLine

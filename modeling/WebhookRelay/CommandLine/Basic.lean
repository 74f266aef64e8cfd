-- SUMMARY: The options of the command line, the variables behind them and what they take.
import WebhookRelay.Settings.File

/-!
# The command line

Four options, each with an environment variable that counts when the option is
not given, and two that only ask for a text. `Arguments` is what they amount to.
-/

namespace WebhookRelay

/-- How much is logged. -/
inductive Verbosity where
  | trace
  | debug
  | info
  | warn
  | error
  deriving DecidableEq, Repr

/-- The name of a verbosity. -/
def Verbosity.name : Verbosity → String
  | .trace => "trace"
  | .debug => "debug"
  | .info => "info"
  | .warn => "warn"
  | .error => "error"

/-- The verbosity with a name. -/
def Verbosity.ofName? (name : String) : Option Verbosity :=
  [trace, debug, info, warn, error].find? (·.name = name)

/-- Where the relay is deployed. -/
inductive Deployment where
  | dev
  | staging
  | prod
  deriving DecidableEq, Repr

/-- The name of a deployment. -/
def Deployment.name : Deployment → String
  | .dev => "dev"
  | .staging => "staging"
  | .prod => "prod"

/-- The deployment with a name. -/
def Deployment.ofName? (name : String) : Option Deployment :=
  [dev, staging, prod].find? (·.name = name)

/-- What the command line asks for. -/
structure Arguments where
  /-- The file that settings are loaded from. -/
  settingsFile : Option String := none
  verbosity : Verbosity := .info
  deployment : Deployment := .dev
  jsonLogs : Bool := false
  deriving DecidableEq, Repr

/-- The text of the complaint when the settings file does not exist; `none` if all is well. -/
def Arguments.complaint? (a : Arguments) (files : FileTree) : Option String :=
  match a.settingsFile with
  | some path =>
    if (files path).isSome then none else some ("Configuration file not found: " ++ path)
  | none => none

namespace CommandLine

/-- An option. -/
inductive Opt where
  | settingsFile
  | verbosity
  | deployment
  | jsonLogs
  | help
  | version
  deriving DecidableEq, Repr

namespace Opt

/-- All options. -/
def all : List Opt :=
  [settingsFile, verbosity, deployment, jsonLogs, help, version]

/-- The name behind two dashes. -/
def longName : Opt → String
  | .settingsFile => "config"
  | .verbosity => "log-level"
  | .deployment => "env"
  | .jsonLogs => "json-logs"
  | .help => "help"
  | .version => "version"

/-- The letter behind one dash. -/
def letter? : Opt → Option Char
  | .settingsFile => some 'c'
  | .verbosity => some 'l'
  | .deployment => some 'e'
  | .jsonLogs => none
  | .help => some 'h'
  | .version => some 'V'

/-- The variable that counts when the option is not given. -/
def variableName? : Opt → Option String
  | .settingsFile => some "CONFIG_PATH"
  | .verbosity => some "LOG_LEVEL"
  | .deployment => some "ENVIRONMENT"
  | .jsonLogs => some "JSON_LOGS"
  | .help | .version => none

/-- Whether the option takes a value. -/
def takesValue : Opt → Bool
  | .settingsFile | .verbosity | .deployment => true
  | .jsonLogs | .help | .version => false

/-- Whether a text is a value of the option. -/
def accepts : Opt → String → Bool
  | .settingsFile, s => !s.isEmpty
  | .verbosity, s => (Verbosity.ofName? s).isSome
  | .deployment, s => (Deployment.ofName? s).isSome
  | .jsonLogs, s => s == "true" || s == "false"
  | .help, _ | .version, _ => false

end Opt

/-- Why a command line is not carried out. -/
inductive UsageError where
  | unknownArgument
  /-- A value that the option does not accept, or none at all. -/
  | invalidValue
  /-- An option that is given twice. -/
  | conflict
  /-- A value for an option that takes none. -/
  | tooManyValues
  | helpAsked
  | versionAsked
  deriving DecidableEq, Repr

/-- The code that the program ends with. -/
def UsageError.exitCode : UsageError → Nat
  | .helpAsked | .versionAsked => 0
  | _ => 2

end CommandLine
end WebhookRelay

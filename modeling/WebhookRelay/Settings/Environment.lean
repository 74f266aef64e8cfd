-- SUMMARY: Environment variables as a layer of settings.
import WebhookRelay.Decimal.Reader
import WebhookRelay.Settings.Tree

/-!
# Settings from the environment

A variable belongs to a scope when its name begins with the scope and two
underscores, in either case. The rest of the name, with a point for every two
underscores, names the setting. The value is read as a flag, a whole number or a
double where it can be, and else stays text.
-/

namespace WebhookRelay.Settings

/-- A point for every two underscores, from the left. -/
def pointed : List Char → List Char
  | '_' :: '_' :: cs => '.' :: pointed cs
  | c :: cs => c :: pointed cs
  | [] => []

/-- The setting that a variable names within a scope. -/
def settingName? (scope name : String) : Option String :=
  let front := (lowerKey scope).toList ++ ['_', '_']
  let key := (lowerKey name).toList
  if front.isPrefixOf key then some (String.ofList (pointed (key.drop front.length))) else none

/-- The value that a text stands for: `true` or `false` in either case, a signed
64-bit integer, a double, or the text itself. -/
def parsedValue (text : String) : Json :=
  let word := String.ofList (Text.lowerAscii text.toList)
  if word = "true" then .bool true
  else if word = "false" then .bool false
  else
    match Decimal.readInt64? text, Decimal.readFloat? text with
    | some n, _ => .number (.integer n)
    | none, some x => .number (.float x)
    | none, none => .string text

/-- The layer that the variables of a scope make up. -/
def environmentLayer (scope : String) (environment : List (String × String)) :
    List (String × Json) :=
  environment.filterMap fun (name, text) => (settingName? scope name).map (·, parsedValue text)

end WebhookRelay.Settings

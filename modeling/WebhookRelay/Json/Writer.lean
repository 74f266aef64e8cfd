-- SUMMARY: The compact text of a JSON value.
import WebhookRelay.Json.Basic
import WebhookRelay.Decimal.Layout
import WebhookRelay.Text.Digits

/-!
# Writing JSON

Values are written without blanks. A string escapes the quote, the backslash and
the control characters below `0x20`, and nothing else.
-/

namespace WebhookRelay.Json

/-- The escaped form of one character of a string. -/
def escape (c : Char) : List Char :=
  if c = '"' then ['\\', '"']
  else if c = '\\' then ['\\', '\\']
  else if c = '\x08' then ['\\', 'b']
  else if c = '\x0c' then ['\\', 'f']
  else if c = '\n' then ['\\', 'n']
  else if c = '\r' then ['\\', 'r']
  else if c = '\t' then ['\\', 't']
  else if c.toNat < 0x20 then '\\' :: 'u' :: Text.hexDigits 4 c.toNat
  else [c]

/-- A string in quotes. -/
def quote (s : String) : List Char :=
  '"' :: s.toList.flatMap escape ++ ['"']

/-- The text of a number. -/
def Number.text : Number → String
  | .integer n => toString n
  | .float x => Decimal.Layout.json.render x

mutual

/-- The characters of a value's text. -/
def chars : Json → List Char
  | .null => ['n', 'u', 'l', 'l']
  | .bool true => ['t', 'r', 'u', 'e']
  | .bool false => ['f', 'a', 'l', 's', 'e']
  | .number n => n.text.toList
  | .string s => quote s
  | .array items => '[' :: (itemChars items ++ [']'])
  | .object members => '{' :: (memberChars members ++ ['}'])

/-- Items separated by commas. -/
def itemChars : List Json → List Char
  | [] => []
  | [v] => chars v
  | v :: vs => chars v ++ ',' :: itemChars vs

/-- Members separated by commas. -/
def memberChars : List (String × Json) → List Char
  | [] => []
  | [(k, v)] => quote k ++ ':' :: chars v
  | (k, v) :: ms => quote k ++ ':' :: (chars v ++ ',' :: memberChars ms)

end

/-- The compact text of a value. -/
def text (v : Json) : String :=
  String.ofList v.chars

end WebhookRelay.Json

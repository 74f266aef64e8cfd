-- SUMMARY: Quoted text for reports: escapes make every character visible.
import WebhookRelay.Text.Digits
import WebhookRelay.Text.Visible

/-!
# Quoted text

Text in double quotes. Tab, line ends, quotes and backslashes have short
escapes; characters that would not show, or that would join the one before them,
are written as `\u{…}` with their code point.
-/

namespace WebhookRelay.Text

/-- A code point in braces. -/
def escapePoint (c : Char) : List Char :=
  '\\' :: 'u' :: '\x7b' :: (hexText c.toNat ++ ['\x7d'])

/-- The written form of one character. -/
def quoteChar (c : Char) : List Char :=
  if c = '"' then ['\\', '"']
  else if c = '\\' then ['\\', '\\']
  else if c = '\n' then ['\\', 'n']
  else if c = '\r' then ['\\', 'r']
  else if c = '\t' then ['\\', 't']
  else if c = '\x00' then ['\\', '0']
  else if isVisible c then [c]
  else escapePoint c

/-- A text in quotes. -/
def quoted (s : String) : String :=
  String.ofList ('"' :: s.toList.flatMap quoteChar ++ ['"'])

/-- An optional value: `None`, or its text in `Some(…)`. -/
def optional (text : Option String) : String :=
  text.elim "None" fun t => "Some(" ++ t ++ ")"

end WebhookRelay.Text

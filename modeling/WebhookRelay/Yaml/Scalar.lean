-- SUMMARY: Plain and quoted values of YAML.
import WebhookRelay.Decimal.Reader
import WebhookRelay.Json.Basic

/-!
# Values of YAML

What a scalar without quotes means, and how scalars in quotes are read. Quoted
scalars may go over several lines; a line end in them is a blank, or as many line
ends as empty lines follow.
-/

namespace WebhookRelay.Yaml

open WebhookRelay.Text

/-- Names of values that are no finite numbers. -/
def specialNames : List String :=
  [".inf", ".Inf", ".INF", "+.inf", "+.Inf", "+.INF", "-.inf", "-.Inf", "-.INF", ".nan", ".NaN",
    ".NAN"]

/-- A signed 64-bit integer in decimal, or in base sixteen or eight behind `0x` or `0o`. -/
def integer? (text : String) : Option Int :=
  let based := match text.toList with
    | '0' :: 'x' :: cs => natOfDigits? 16 cs
    | '0' :: 'o' :: cs => natOfDigits? 8 cs
    | _ => none
  match based with
  | some n => if n ≤ Decimal.int64Max.toNat then some n else none
  | none => Decimal.readInt64? text

/-- The value of a scalar without quotes; `none` for the names of values that are no
finite numbers, which settings cannot hold. -/
def plainValue? (text : String) : Option Json :=
  if text = "" ∨ text = "~" ∨ text = "null" then some .null
  else if text = "true" then some (.bool true)
  else if text = "false" then some (.bool false)
  else if specialNames.contains text then none
  else
    match integer? text, Decimal.readFloat? text with
    | some n, _ => some (.number (.integer n))
    | none, some x => some (.number (.float x))
    | none, none => some (.string text)

/-- The key that a scalar without quotes writes. -/
def plainKey? (text : String) : Option String :=
  match plainValue? text with
  | some (.number (.integer n)) => some (toString n)
  | some .null => none
  | _ => some text

/-- Characters that no scalar without quotes starts with. -/
def isIndicator (c : Char) : Bool :=
  "\t,[]\x7b\x7d#&*!|>'\"%@\x60".toList.contains c

/-- The character of a one-letter escape. -/
def simpleEscape? : Char → Option Char
  | '0' => some '\x00'
  | 'a' => some '\x07'
  | 'b' => some '\x08'
  | 't' => some '\t'
  | '\t' => some '\t'
  | 'n' => some '\n'
  | 'v' => some '\x0b'
  | 'f' => some '\x0c'
  | 'r' => some '\r'
  | 'e' => some '\x1b'
  | ' ' => some ' '
  | '"' => some '"'
  | '\'' => some '\''
  | '/' => some '/'
  | '\\' => some '\\'
  | 'N' => some '\u0085'
  | '_' => some '\u00a0'
  | 'L' => some '\u2028'
  | 'P' => some '\u2029'
  | _ => none

/-- The number of hexadecimal digits that an escape letter asks for. -/
def escapeWidth? : Char → Option Nat
  | 'x' => some 2
  | 'u' => some 4
  | 'U' => some 8
  | _ => none

/-- Whether a character is a blank within a line. -/
def isSpace (c : Char) : Bool :=
  c == ' ' || c == '\t'

/-- A text without the blanks at its front. -/
def skipSpaces (cs : List Char) : List Char :=
  cs.dropWhile isSpace

/-- What line ends in a quoted scalar stand for, from behind the first: a blank, or a
line end for every empty line that follows. Gives the text behind the blanks too. -/
def foldLines : Nat → Nat → List Char → List Char × List Char
  | 0, _, cs => ([], cs)
  | fuel + 1, breaks, cs =>
    match skipSpaces cs with
    | '\n' :: rest => foldLines fuel (breaks + 1) rest
    | rest => (if breaks = 0 then [' '] else List.replicate breaks '\n', rest)

/-- A text without the blanks at its end. -/
def dropSpacesEnd (cs : List Char) : List Char :=
  (cs.reverse.dropWhile isSpace).reverse

/-- A scalar in double quotes, from behind the opening one. The text so far is given in
`done`, without escaped blanks at its end being dropped at a line end. Every step uses up
a character, which the fuel counts. -/
def readDouble : Nat → List Char → List Char → Option (List Char × List Char)
  | 0, _, _ => none
  | _, _, [] => none
  | _, done, '"' :: rest => some (done, rest)
  | fuel + 1, done, '\n' :: rest =>
    let (fold, rest) := foldLines (rest.length + 1) 0 rest
    readDouble fuel (dropSpacesEnd done ++ fold) rest
  | fuel + 1, done, '\\' :: '\n' :: rest => readDouble fuel done (skipSpaces rest)
  | fuel + 1, done, '\\' :: e :: rest =>
    match escapeWidth? e with
    | some width => do
      let n ← natOfDigits? 16 (rest.take width)
      if (rest.take width).length = width ∧ n.isValidChar then
        readDouble fuel (done ++ [Char.ofNat n]) (rest.drop width)
      else none
    | none => (simpleEscape? e).bind fun c => readDouble fuel (done ++ [c]) rest
  | fuel + 1, done, c :: rest => if c = '\\' then none else readDouble fuel (done ++ [c]) rest

/-- A scalar in single quotes, from behind the opening one. -/
def readSingle : Nat → List Char → List Char → Option (List Char × List Char)
  | 0, _, _ => none
  | _, _, [] => none
  | fuel + 1, done, '\'' :: '\'' :: rest => readSingle fuel (done ++ ['\'']) rest
  | _, done, '\'' :: rest => some (done, rest)
  | fuel + 1, done, '\n' :: rest =>
    let (fold, rest) := foldLines (rest.length + 1) 0 rest
    readSingle fuel (dropSpacesEnd done ++ fold) rest
  | fuel + 1, done, c :: rest => readSingle fuel (done ++ [c]) rest

/-- A scalar in quotes of either kind. -/
def readQuoted? : List Char → Option (List Char × List Char)
  | '"' :: rest => readDouble (rest.length + 1) [] rest
  | '\'' :: rest => readSingle (rest.length + 1) [] rest
  | _ => none

/-- The front of a line that belongs to a scalar without quotes, up to a comment or to a
colon that ends a key, given what stops it besides. -/
def spanPlain (stop : Char → Bool) : List Char → List Char × List Char
  | [] => ([], [])
  | c :: cs =>
    let endsKey := c = ':' ∧ (cs.head?.all fun d => isSpace d || d == '\n' || stop d)
    let comment := isSpace c ∧ cs.head? = some '#'
    if c = '\n' ∨ stop c ∨ endsKey ∨ comment then ([], c :: cs)
    else (c :: (spanPlain stop cs).1, (spanPlain stop cs).2)

end WebhookRelay.Yaml

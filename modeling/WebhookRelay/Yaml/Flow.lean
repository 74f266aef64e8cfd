-- SUMMARY: Lists and mappings of YAML in brackets and braces.
import WebhookRelay.Yaml.Scalar

/-!
# Flow collections

Lists in brackets and mappings in braces, over any number of lines. Recursion is
on a fuel that bounds the depth and the number of items; the callers set it from
the length of the text.
-/

namespace WebhookRelay.Yaml

/-- Skips blanks, line ends and comments; a comment stands behind a blank or a line end. -/
def skipFlow : Nat → List Char → List Char
  | 0, cs => cs
  | fuel + 1, c :: cs =>
    if isSpace c ∨ c = '\n' then
      match cs with
      | '#' :: rest => skipFlow fuel (rest.dropWhile (· != '\n'))
      | _ => skipFlow fuel cs
    else c :: cs
  | _, [] => []

/-- Characters that end a scalar without quotes in a flow collection. -/
def isFlowEnd (c : Char) : Bool :=
  c == ',' || c == '[' || c == ']' || c == '{' || c == '}'

/-- The lines of a scalar without quotes, joined by blanks. -/
def readFlowPlain : Nat → List Char → List Char × List Char
  | 0, cs => ([], cs)
  | fuel + 1, cs =>
    let (line, rest) := spanPlain isFlowEnd cs
    match rest with
    | '\n' :: _ =>
      let more := readFlowPlain fuel (skipFlow rest.length rest)
      if more.1.isEmpty then (dropSpacesEnd line, more.2)
      else (dropSpacesEnd line ++ ' ' :: more.1, more.2)
    | _ => (dropSpacesEnd line, rest)

mutual

/-- Splits a value off the front of a text. -/
def readFlow? : Nat → List Char → Option (Json × List Char)
  | 0, _ => none
  | fuel + 1, cs =>
    match cs with
    | '[' :: rest => (readFlowItems? fuel rest).map fun (items, rest) => (.array items, rest)
    | '{' :: rest =>
      (readFlowMembers? fuel rest).map fun (ms, rest) => (.object (Json.Members.ofList ms), rest)
    | c :: _ =>
      if c = '"' ∨ c = '\'' then
        (readQuoted? cs).map fun (s, rest) => (.string (String.ofList s), rest)
      else if isIndicator c then none
      else
        let (text, rest) := readFlowPlain cs.length cs
        (plainValue? (String.ofList text)).map (·, rest)
    | [] => none

/-- The items of a list, through its closing bracket. -/
def readFlowItems? : Nat → List Char → Option (List Json × List Char)
  | 0, _ => none
  | fuel + 1, cs => do
    match skipFlow cs.length cs with
    | ']' :: rest => return ([], rest)
    | cs =>
      let (item, rest) ← readFlow? fuel cs
      match skipFlow rest.length rest with
      | ',' :: rest =>
        let (items, rest) ← readFlowItems? fuel rest
        return (item :: items, rest)
      | ']' :: rest => return ([item], rest)
      | _ => none

/-- The members of a mapping, through its closing brace. -/
def readFlowMembers? : Nat → List Char → Option (List (String × Json) × List Char)
  | 0, _ => none
  | fuel + 1, cs => do
    match skipFlow cs.length cs with
    | '}' :: rest => return ([], rest)
    | cs =>
      let (key, rest) ← match readQuoted? cs with
        | some (key, rest) => some (String.ofList key, rest)
        | none =>
          let (text, rest) := readFlowPlain cs.length cs
          (plainKey? (String.ofList text)).map (·, rest)
      let (value, rest) ← match skipFlow rest.length rest with
        | ':' :: rest =>
          match skipFlow rest.length rest with
          | ',' :: rest => some (Json.null, ',' :: rest)
          | '}' :: rest => some (Json.null, '}' :: rest)
          | rest => readFlow? fuel rest
        | rest => some (Json.null, rest)
      match skipFlow rest.length rest with
      | ',' :: rest =>
        let (members, rest) ← readFlowMembers? fuel rest
        return ((key, value) :: members, rest)
      | '}' :: rest => return ([(key, value)], rest)
      | _ => none

end

end WebhookRelay.Yaml

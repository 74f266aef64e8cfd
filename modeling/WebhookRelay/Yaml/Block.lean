-- SUMMARY: Mappings and sequences of YAML by indentation, and whole documents.
import WebhookRelay.Yaml.Flow

/-!
# Block collections

A document is a list of lines. A node belongs to the collection around it while
its lines are indented further than the collection; a sequence may stand as deep
as the key it belongs to. Anchors, aliases, tags and keys that are no scalars are
refused.

Recursion is on a fuel that `parse?` sets from the length of the text; every level
uses up a character.
-/

namespace WebhookRelay.Yaml

/-- A line of a document. -/
abbrev Line := List Char

/-- The number of spaces that a line starts with. -/
def indentOf (line : Line) : Nat :=
  (line.takeWhile (· == ' ')).length

/-- Whether a line holds nothing but blanks and a comment. -/
def isEmptyLine (line : Line) : Bool :=
  match skipSpaces line with
  | [] => true
  | c :: _ => c == '#'

/-- Lines from the first that holds something. -/
def skipEmpty (lines : List Line) : List Line :=
  lines.dropWhile isEmptyLine

/-- The text behind the dash of a sequence entry. -/
def afterDash? : List Char → Option (List Char)
  | ['-'] => some []
  | '-' :: c :: rest => if isSpace c then some (c :: rest) else none
  | _ => none

/-- The key that a line starts with, and the text behind its colon. -/
def splitKey? (text : List Char) : Option (String × List Char) :=
  match readQuoted? text with
  | some (key, rest) =>
    match skipSpaces rest with
    | ':' :: after => if after.head?.all isSpace then some (String.ofList key, after) else none
    | _ => none
  | none =>
    if text.head?.any isIndicator then none
    else
      match spanPlain (fun _ => false) text with
      | (key, ':' :: after) =>
        (plainKey? (String.ofList (dropSpacesEnd key))).map (·, after)
      | _ => none

/-- Whether the rest of a line may stand behind a value. -/
def endsValue (cs : List Char) : Bool :=
  match cs with
  | [] => true
  | c :: _ => c == '\n' || (isSpace c && isEmptyLine (cs.takeWhile (· != '\n')))

/-- The lines of a text. -/
def linesOf (cs : List Char) : List Line :=
  let step := fun (c : Char) (lines : List Line) =>
    if c = '\n' then [] :: lines
    else
      match lines with
      | line :: rest => (c :: line) :: rest
      | [] => [[c]]
  cs.foldr step [[]]

/-- The text of lines. -/
def unlines (lines : List Line) : List Char :=
  ['\n'].intercalate lines

/-- A value in quotes, brackets or braces that may go over lines. -/
def readBracketed? (text : List Char) (lines : List Line) : Option (Json × List Line) := do
  let cs := unlines (text :: lines)
  let (value, rest) ← readFlow? (2 * cs.length + 2) cs
  if endsValue rest then return (value, (linesOf rest).drop 1) else none

/-- The further lines of a scalar without quotes: those indented more than `outer`. -/
def readPlainLines? (outer : Int) : List Line → Option (List Char × List Line)
  | [] => some ([], [])
  | line :: lines =>
    if (skipSpaces line).isEmpty then
      (readPlainLines? outer lines).map fun (text, rest) =>
        if text.isEmpty then ([], line :: lines) else ('\n' :: text.drop 1, rest)
    else if (indentOf line : Int) ≤ outer ∨ isEmptyLine line then some ([], line :: lines)
    else
      match spanPlain (fun _ => false) (skipSpaces line) with
      | (part, rest) =>
        if endsValue rest then
          if rest.isEmpty then
            (readPlainLines? outer lines).map fun (text, rest) =>
              (' ' :: dropSpacesEnd part ++ text, rest)
          else some (' ' :: dropSpacesEnd part, lines)
        else none

/-- A scalar without quotes. -/
def readPlain? (outer : Int) (text : List Char) (lines : List Line) : Option (Json × List Line) :=
  let (part, rest) := spanPlain (fun _ => false) text
  if !endsValue rest then none
  else do
    let (more, lines) ← if rest.isEmpty then readPlainLines? outer lines else some ([], lines)
    return (← plainValue? (String.ofList (dropSpacesEnd part ++ more)), lines)

/-- What becomes of the line ends at the end of a block scalar. -/
inductive Chomp where
  | clip
  | strip
  | keep
  deriving DecidableEq

/-- The header of a block scalar: the indentation it states, and what becomes of its end. -/
def readHeader? (indent : Option Nat) (chomp : Chomp) : List Char → Option (Option Nat × Chomp)
  | [] => some (indent, chomp)
  | '-' :: cs => readHeader? indent .strip cs
  | '+' :: cs => readHeader? indent .keep cs
  | c :: cs =>
    match decimalDigit? c with
    | some d => if d = 0 then none else readHeader? (some d) chomp cs
    | none => if isSpace c ∧ isEmptyLine (c :: cs) then some (indent, chomp) else none
where
  /-- The value of a decimal digit. -/
  decimalDigit? (c : Char) : Option Nat := WebhookRelay.Text.decimalValue? c

/-- Joins the lines of a folded scalar: single line ends between lines that are not
indented further become blanks. -/
def foldBlock : List Line → List Char
  | [] => []
  | [line] => line
  | line :: next :: lines =>
    let plain := fun (l : Line) => !l.isEmpty && !(l.head?.any isSpace)
    if line.isEmpty then '\n' :: foldBlock (next :: lines)
    else if plain line && plain next then line ++ ' ' :: foldBlock (next :: lines)
    else if plain line && next.isEmpty then line ++ foldBlock (next :: lines)
    else line ++ '\n' :: foldBlock (next :: lines)

/-- A block scalar, from its indicator. -/
def readBlockScalar? (outer : Int) (folded : Bool) (header : List Char) (lines : List Line) :
    Option (Json × List Line) := do
  let (stated, chomp) ← readHeader? none .clip header
  let isBare := fun (line : Line) => line.all (· == ' ')
  let depth : Int := match stated with
    | some n => max outer 0 + n
    | none => ((lines.find? fun line => !isBare line).map fun line => (indentOf line : Int)).getD 0
  let inside := fun (line : Line) => isBare line || decide (depth ≤ indentOf line)
  if depth ≤ outer then return (.string "", lines)
  else
    let body := (lines.takeWhile inside).map (·.drop depth.toNat)
    let kept := (body.reverse.dropWhile (·.isEmpty)).reverse
    let text := if folded then foldBlock kept else unlines kept
    let ending := match chomp with
      | .strip => []
      | .clip => if kept.isEmpty then [] else ['\n']
      | .keep =>
        List.replicate (body.length - kept.length + if kept.isEmpty then 0 else 1) '\n'
    return (.string (String.ofList (text ++ ending)), lines.drop body.length)

/-- A value that starts in the middle of a line, within a collection indented by `outer`. -/
def readInline? (outer : Int) (text : List Char) (lines : List Line) : Option (Json × List Line) :=
  match text with
  | '|' :: header => readBlockScalar? outer false header lines
  | '>' :: header => readBlockScalar? outer true header lines
  | c :: _ =>
    if c = '"' ∨ c = '\'' ∨ c = '[' ∨ c = '{' then readBracketed? text lines
    else if isIndicator c then none
    else readPlain? outer text lines
  | [] => none

mutual

/-- The node of lines that are indented further than `outer`; null when there are none. -/
def readNode? : Nat → Int → List Line → Option (Json × List Line)
  | 0, _, _ => none
  | fuel + 1, outer, lines =>
    match skipEmpty lines with
    | [] => some (.null, [])
    | line :: rest =>
      let depth := indentOf line
      let text := line.drop depth
      if (depth : Int) ≤ outer then some (.null, line :: rest)
      else if text.head? = some '\t' then none
      else if (afterDash? text).isSome then
        (readEntries? fuel depth (line :: rest)).map fun (items, rest) => (.array items, rest)
      else if (splitKey? text).isSome then
        (readMembers? fuel depth (line :: rest)).map fun (ms, rest) =>
          (.object (Json.Members.ofList ms), rest)
      else readInline? outer text rest

/-- The entries of a sequence whose dashes stand at a depth. -/
def readEntries? : Nat → Nat → List Line → Option (List Json × List Line)
  | 0, _, _ => none
  | fuel + 1, depth, lines =>
    match skipEmpty lines with
    | [] => some ([], [])
    | line :: rest =>
      if indentOf line < depth then some ([], line :: rest)
      else if indentOf line > depth then none
      else
        match afterDash? (line.drop depth) with
        | none => some ([], line :: rest)
        | some after => do
          let (item, rest) ← readNode? fuel depth ((List.replicate (depth + 1) ' ' ++ after) :: rest)
          let (items, rest) ← readEntries? fuel depth rest
          return (item :: items, rest)

/-- The members of a mapping whose keys stand at a depth. -/
def readMembers? : Nat → Nat → List Line → Option (List (String × Json) × List Line)
  | 0, _, _ => none
  | fuel + 1, depth, lines =>
    match skipEmpty lines with
    | [] => some ([], [])
    | line :: rest =>
      if indentOf line < depth then some ([], line :: rest)
      else if indentOf line > depth then none
      else
        match splitKey? (line.drop depth) with
        | none => none
        | some (key, after) => do
          let (value, rest) ←
            if isEmptyLine after then
              match skipEmpty rest with
              | next :: more =>
                if indentOf next = depth ∧ (afterDash? (next.drop depth)).isSome then
                  (readEntries? fuel depth (next :: more)).map fun (items, rest) =>
                    (Json.array items, rest)
                else readNode? fuel depth (next :: more)
              | [] => some (.null, [])
            else readInline? depth (skipSpaces after) rest
          let (members, rest) ← readMembers? fuel depth rest
          return ((key, value) :: members, rest)

end

/-- The documents of a text: their lines. A document starts at a line with three dashes,
or where the text holds something, and ends before the next one or at three points. -/
def documents : List Line → Option (List Line) → List (List Line)
  | [], open' => open'.toList.map List.reverse
  | line :: lines, open' =>
    let ends := fun (mark : List Char) =>
      mark.isPrefixOf line && (line.drop 3).head?.all isSpace
    if ends ['-', '-', '-'] then
      open'.toList.map List.reverse ++ documents lines (some [List.replicate 3 ' ' ++ line.drop 3])
    else if ends ['.', '.', '.'] then open'.toList.map List.reverse ++ documents lines none
    else
      match open' with
      | some got => documents lines (some (line :: got))
      | none =>
        if isEmptyLine line ∨ line.head? = some '%' then documents lines none
        else documents lines (some [line])

/-- The keys and values at the root of the only document of a text; a text without one
has none. -/
def parse? (text : String) : Option (List (String × Json)) :=
  let cs := text.toList.filter (· ≠ '\r')
  match documents (linesOf cs) none with
  | [] => some []
  | [lines] => do
    match ← readNode? (2 * cs.length + 4) (-1) lines with
    | (.object members, rest) => if (skipEmpty rest).isEmpty then some members else none
    | _ => none
  | _ => none

end WebhookRelay.Yaml

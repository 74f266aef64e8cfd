-- SUMMARY: Reading a URL, on its own or relative to another.
import WebhookRelay.Url.Basic
import WebhookRelay.Url.Domain
import WebhookRelay.Url.Percent

/-!
# Reading URLs

Blanks and controls at both ends are dropped, tabs and line ends everywhere. The
rest is cut into parts: scheme, authority, path, query, fragment. In URLs of
special schemes a backslash counts as a slash, and any number of slashes before
the authority is taken.
-/

namespace WebhookRelay.Url

/-- Where a segment, an authority or a scheme-less reference may be cut. -/
def isSlash (special : Bool) (c : Char) : Bool :=
  c == '/' || (special && c == '\\')

/-- Whether the path rules of the special schemes hold. -/
def usesSlashes (scheme : String) : Bool :=
  isSpecial scheme || scheme == "file"

/-- A text without blanks and controls at its ends, and without tabs and line ends. -/
def clean (text : String) : List Char :=
  let drop := fun (cs : List Char) => cs.dropWhile (·.toNat ≤ 0x20)
  let cs := (drop (drop text.toList).reverse).reverse
  cs.filter fun c => c != '\t' && c != '\n' && c != '\r'

/-- Splits a scheme off: a letter, then letters, digits, `+`, `-` and `.`, then a colon. -/
def readScheme? (cs : List Char) : Option (String × List Char) :=
  let inScheme := fun (c : Char) => c.isAlphanum || c == '+' || c == '-' || c == '.'
  match cs.head?, cs.dropWhile inScheme with
  | some c, ':' :: rest =>
    if c.isAlpha then some (String.ofList (Text.lowerAscii (cs.takeWhile inScheme)), rest) else none
  | _, _ => none

-- ---------------------------------------------------------------------------
-- Host and authority
-- ---------------------------------------------------------------------------

/-- Characters that no host outside the special schemes may contain. -/
def isForbiddenInHost (c : Char) : Bool :=
  c == '\x00' || " #/:<>?@[\\]^|".toList.contains c

/-- The address between square brackets. -/
def readBracketed? (cs : List Char) : Option Host :=
  match cs.getLast? with
  | some ']' => (ipv6? (cs.drop 1).dropLast).map .ipv6
  | _ => none

/-- The host of a URL with a special scheme. -/
def readHost? (cs : List Char) : Option Host :=
  if cs.head? == some '[' then readBracketed? cs
  else do
    let name ← domainToAscii? (percentDecodeLossy cs).toList
    if name.isEmpty then none
    else if endsInNumber name then (ipv4? name).map .ipv4
    else some (.name name)

/-- The host of a URL with any other scheme; it may be absent. -/
def readOpaqueHost? (cs : List Char) : Option (Option Host) :=
  if cs.isEmpty then some none
  else if cs.head? == some '[' then (readBracketed? cs).map some
  else if cs.any isForbiddenInHost then none
  else some (some (.name (percentEncode inControlSet cs)))

/-- Cuts a text before the first colon outside square brackets. -/
def cutPort : Bool → List Char → List Char × Option (List Char)
  | _, [] => ([], none)
  | inside, c :: cs =>
    if c = ':' ∧ !inside then ([], some cs)
    else
      let inside := if c = '[' then true else if c = ']' then false else inside
      let (host, port) := cutPort inside cs
      (c :: host, port)

/-- The port that a text writes; the scheme's own port and the empty text mean none. -/
def readPort? (scheme : String) (digits : List Char) : Option (Option Nat) :=
  if digits.isEmpty then some none
  else do
    let n ← Text.natOfDigits? 10 digits
    if n > 65535 then none
    else some (if defaultPort? scheme = some n then none else some n)

/-- Cuts a text before its last `@`. -/
def cutUserinfo? (cs : List Char) : Option (List Char × List Char) :=
  let back := cs.reverse
  match back.dropWhile (· != '@') with
  | _ :: info => some (info.reverse, (back.takeWhile (· != '@')).reverse)
  | [] => none

/-- The authority of a URL: user name, password, host and port. -/
structure Authority where
  username : List Char
  password : List Char
  host : Option Host
  port : Option Nat

/-- Reads an authority. -/
def readAuthority? (scheme : String) (cs : List Char) : Option Authority := do
  let (info, rest) := (cutUserinfo? cs).getD ([], cs)
  let (hostText, portText) := cutPort false rest
  let special := isSpecial scheme
  let host ← if special then (readHost? hostText).map some else readOpaqueHost? hostText
  if host.isNone ∧ (portText.isSome ∨ !info.isEmpty) then none
  let port ← readPort? scheme (portText.getD [])
  let encode := percentEncode inUserinfoSet
  return {
    username := encode (info.takeWhile (· != ':'))
    password := encode ((info.dropWhile (· != ':')).drop 1)
    host, port }

-- ---------------------------------------------------------------------------
-- Path, query and fragment
-- ---------------------------------------------------------------------------

/-- Cuts a text at every slash. -/
def splitSegments (special : Bool) : List Char → List (List Char)
  | [] => [[]]
  | c :: cs =>
    if isSlash special c then [] :: splitSegments special cs
    else
      match splitSegments special cs with
      | [] => [[c]]
      | s :: rest => (c :: s) :: rest

/-- A segment in lower case with its escaped points written out. -/
def dotForm (segment : List Char) : List Char :=
  match Text.lowerAscii segment with
  | ['.'] | ['%', '2', 'e'] => ['.']
  | ['.', '.'] | ['.', '%', '2', 'e'] | ['%', '2', 'e', '.']
  | ['%', '2', 'e', '%', '2', 'e'] => ['.', '.']
  | _ => segment

/-- Follows segments from a path, kept in reverse: `..` goes up, `.` stays, and
either leaves an empty last segment when nothing follows. -/
def walk (stack : List (List Char)) : List (List Char) → List (List Char)
  | [] => stack.reverse
  | segment :: rest =>
    let stack :=
      match dotForm segment with
      | ['.', '.'] => if rest.isEmpty then [] :: stack.drop 1 else stack.drop 1
      | ['.'] => if rest.isEmpty then [] :: stack else stack
      | _ => percentEncode inPathSet segment :: stack
    walk stack rest

/-- A text cut before its fragment, and the fragment. -/
def cutFragment (cs : List Char) : List Char × Option (List Char) :=
  match cs.dropWhile (· != '#') with
  | _ :: fragment =>
    (cs.takeWhile (· != '#'), some (percentEncode inFragmentSet fragment))
  | [] => (cs, none)

/-- A text without fragment cut before its query, and the query. -/
def cutQuery (special : Bool) (cs : List Char) : List Char × Option (List Char) :=
  let inSet := if special then inSpecialQuerySet else inQuerySet
  match cs.dropWhile (· != '?') with
  | _ :: query => (cs.takeWhile (· != '?'), some (percentEncode inSet query))
  | [] => (cs, none)

/-- The path behind an authority, or the path of a URL without one that starts with a slash. -/
def readRootedPath (special : Bool) (cs : List Char) : Path :=
  match cs with
  | [] => if special then .segments [[]] else .segments []
  | c :: rest =>
    .segments (walk [] (splitSegments special (if isSlash special c then rest else cs)))

-- ---------------------------------------------------------------------------
-- Whole URLs
-- ---------------------------------------------------------------------------

/-- A URL whose authority begins the text. -/
def readFromAuthority? (scheme : String) (cs : List Char) (query fragment : Option (List Char)) :
    Option Url := do
  let special := usesSlashes scheme
  let stop := fun (c : Char) => isSlash special c
  let authority ← readAuthority? scheme (cs.takeWhile (!stop ·))
  return {
    scheme
    username := authority.username
    password := authority.password
    host := authority.host
    port := authority.port
    path := readRootedPath special (cs.dropWhile (!stop ·))
    query, fragment }

/-- A `file` URL: an empty host and `localhost` mean none. -/
def readFile? (cs : List Char) (query fragment : Option (List Char)) : Option Url := do
  let slashes := cs.takeWhile (isSlash true)
  let rest := cs.drop 2
  let hostText := rest.takeWhile (!isSlash true ·)
  let drive : Bool := match hostText with
    | [c, ':'] | [c, '|'] => c.isAlpha
    | _ => false
  if slashes.length < 2 ∨ drive then
    some ⟨"file", [], [], none, none, readRootedPath true (if drive then rest else cs), query,
      fragment⟩
  else
    let host ← if hostText.isEmpty then some none else (readHost? hostText).map some
    let host := if host == some (.name "localhost".toList) then none else host
    some ⟨"file", [], [], host, none, readRootedPath true (rest.dropWhile (!isSlash true ·)), query,
      fragment⟩

/-- A reference without a scheme, or with the scheme of `base`, which is special. -/
def readRelative? (base : Url) (cs : List Char) (query fragment : Option (List Char)) :
    Option Url :=
  let slashes := (cs.takeWhile (isSlash true)).length
  let stack := match base.path with
    | .segments parts => parts.reverse
    | .rootless _ => []
  if cs.isEmpty then
    some { base with query := query <|> base.query, fragment }
  else if 2 ≤ slashes then
    readFromAuthority? base.scheme (cs.drop slashes) query fragment
  else if slashes = 1 then
    some { base with path := readRootedPath true cs, query, fragment }
  else
    some { base with
      path := .segments (walk (stack.drop 1) (splitSegments true cs)), query, fragment }

/-- Reads a URL; a reference without a scheme is taken relative to `base`. -/
def read? (base : Option Url) (text : String) : Option Url :=
  let (cs, fragment) := cutFragment (clean text)
  match readScheme? cs with
  | none => do
    let base ← base
    let (cs, query) := cutQuery true cs
    if isSpecial base.scheme then readRelative? base cs query fragment else none
  | some (scheme, cs) =>
    let (cs, query) := cutQuery (usesSlashes scheme) cs
    if scheme = "file" then readFile? cs query fragment
    else if isSpecial scheme then
      let slashes := (cs.takeWhile (isSlash true)).length
      match base with
      | some base =>
        if slashes < 2 ∧ base.scheme = scheme then readRelative? base cs query fragment
        else readFromAuthority? scheme (cs.drop slashes) query fragment
      | none => readFromAuthority? scheme (cs.drop slashes) query fragment
    else
      match cs with
      | '/' :: '/' :: rest => readFromAuthority? scheme rest query fragment
      | '/' :: _ => some ⟨scheme, [], [], none, none, readRootedPath false cs, query, fragment⟩
      | _ =>
        some ⟨scheme, [], [], none, none, .rootless (percentEncode inControlSet cs), query,
          fragment⟩

/-- Reads a URL on its own. -/
def parse? (text : String) : Option Url :=
  read? none text

/-- Reads a reference found in the answer to a request to `base`. -/
def join? (base : Url) (reference : String) : Option Url :=
  read? (some base) reference

end WebhookRelay.Url

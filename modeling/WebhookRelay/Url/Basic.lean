-- SUMMARY: Parsed URLs and their text.
import WebhookRelay.Url.Address

/-!
# URLs

A URL in its parts, every part already escaped. The path is a list of segments,
or a single opaque text for URLs such as `mailto:x`.
-/

namespace WebhookRelay.Url

/-- Where a URL points. -/
inductive Host where
  | name (text : List Char)
  | ipv4 (address : Nat)
  | ipv6 (pieces : List Nat)
  deriving DecidableEq, Repr

/-- The text of a host. -/
def Host.text : Host → String
  | .name cs => String.ofList cs
  | .ipv4 n => ipv4Text n
  | .ipv6 ps => "[" ++ ipv6Text ps ++ "]"

/-- The path of a URL. -/
inductive Path where
  | rootless (text : List Char)
  | segments (parts : List (List Char))
  deriving DecidableEq, Repr

/-- The text of a path. -/
def Path.text : Path → String
  | .rootless cs => String.ofList cs
  | .segments parts => String.ofList (parts.flatMap ('/' :: ·))

end WebhookRelay.Url

namespace WebhookRelay

/-- A parsed URL. A port that is the scheme's own is not kept. -/
structure Url where
  scheme : String
  username : List Char
  password : List Char
  host : Option Url.Host
  port : Option Nat
  path : Url.Path
  query : Option (List Char)
  fragment : Option (List Char)
  deriving DecidableEq, Repr

namespace Url

/-- The port of a special scheme. -/
def defaultPort? (scheme : String) : Option Nat :=
  if scheme = "http" ∨ scheme = "ws" then some 80
  else if scheme = "https" ∨ scheme = "wss" then some 443
  else if scheme = "ftp" then some 21
  else none

/-- Schemes whose URLs always have a host and a path, `file` apart. -/
def isSpecial (scheme : String) : Bool :=
  (defaultPort? scheme).isSome

/-- The port that a connection goes to. -/
def effectivePort (u : Url) : Option Nat :=
  u.port <|> defaultPort? u.scheme

/-- The text of a URL without user info and fragment: what a request is sent to. -/
def target (u : Url) : String :=
  let host := u.host.elim "" fun h => "//" ++ h.text
  let port := u.port.elim "" fun p => ":" ++ toString p
  let query := u.query.elim "" fun q => "?" ++ String.ofList q
  u.scheme ++ ":" ++ host ++ port ++ u.path.text ++ query

/-- Whether two URLs lead to the same host and port. -/
def sameOrigin (a b : Url) : Bool :=
  a.host == b.host && a.effectivePort == b.effectivePort

end Url
end WebhookRelay

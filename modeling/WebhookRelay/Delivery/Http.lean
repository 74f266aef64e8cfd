-- SUMMARY: HTTP as the relay uses it: requests, replies, redirects and the text of a body.
import WebhookRelay.Text.Base64
import WebhookRelay.Text.Utf16
import WebhookRelay.Text.Utf8
import WebhookRelay.Url.Reader

/-!
# HTTP exchanges

A `Network` answers requests, to `https` URLs as to `http` URLs; it is given from
outside. `exchange` sends a request and follows redirects: with a limit of `m`
redirects the `m`-th one fails, and with a limit of zero none is followed, so that
the redirect itself is the response. A redirect with status 301, 302 or 303 goes on
without the body; the authorization is not shown to another host or port.
-/

namespace WebhookRelay

/-- A request as its receiver sees it. -/
structure HttpRequest where
  method : String
  url : String
  contentType : List String
  authorization : List String
  body : String
  deriving DecidableEq, Repr

/-- What comes back for a request. -/
inductive HttpReply where
  /-- A response; without a body when reading it broke off. -/
  | response (status : Nat) (location : Option String) (body : Option ByteArray)
  /-- No response: the connection failed, was dropped or timed out. -/
  | silence

/-- The answer to every request. -/
abbrev Network := HttpRequest → HttpReply

namespace Http

/-- The network that reaches nobody. -/
def unreachable : Network :=
  fun _ => .silence

/-- Whether a text can be the value of a header. -/
def isHeaderValue (s : String) : Bool :=
  s.toList.all fun c => c == '\t' || (0x20 ≤ c.toNat && c.toNat != 0x7F)

/-- A header value as its receiver reads it: without blanks at its ends. -/
def trimHeader (s : String) : String :=
  let drop := fun (cs : List Char) => cs.dropWhile fun c => c == ' ' || c == '\t'
  String.ofList (drop (drop s.toList).reverse).reverse

/-- The header that a user name and a password in a URL stand for. -/
def basicAuthorization? (u : Url) : Option String := do
  let username ← Url.percentDecodeText? u.username
  let password := if u.password.isEmpty then none else Url.percentDecodeText? u.password
  if username.isEmpty ∧ password.isNone then none
  else
    let credentials := username ++ ":" ++ password.getD ""
    some ("Basic " ++ String.ofList (Text.base64 credentials.toUTF8.toList))

/-- Characters of a host that no request line may contain. -/
def isSendable (u : Url) : Bool :=
  match u.host with
  | some (.name cs) => !cs.any fun c => "\"`\x7b\x7d".toList.contains c
  | _ => true

/-- Whether requests are sent to a URL: no other scheme is spoken. Whether a host is there, and
whether it can be reached through TLS, is up to the network. -/
def isReachable (u : Url) : Bool :=
  (u.scheme == "http" || u.scheme == "https") && isSendable u

/-- A reply as its receiver takes it: an informational response is none yet, and a
response with status 101, 204 or 304 has no body. -/
def received : HttpReply → HttpReply
  | .silence => .silence
  | .response status location body =>
    if status = 101 ∨ status = 204 ∨ status = 304 then .response status location (some .empty)
    else if 100 ≤ status ∧ status < 200 then .silence
    else .response status location body

/-- Whether a status asks to go on elsewhere. -/
def isRedirect (status : Nat) : Bool :=
  [301, 302, 303, 307, 308].contains status

/-- The request that follows a redirect. -/
def redirected (request : HttpRequest) (status : Nat) (origin next : Url) : HttpRequest :=
  let authorization := if origin.sameOrigin next then request.authorization else []
  if status = 307 ∨ status = 308 then { request with url := next.target, authorization }
  else ⟨"GET", next.target, [], authorization, ""⟩

/-- Sends a request and follows at most `budget` redirects. A redirect beyond the
budget is an error (`failBeyond`) or the response itself. Gives the reply and the
requests that were sent, in order. -/
def exchange (net : Network) (failBeyond : Bool) : Nat → Url → HttpRequest →
    HttpReply × List HttpRequest
  | budget, url, request =>
    if !isReachable url then (.silence, [])
    else
      let reply := received (net request)
      match reply with
      | .response status (some location) _ =>
        if !isRedirect status then (reply, [request])
        else
          match (url.join? location).filter isSendable with
          | none => (reply, [request])
          | some next =>
            match budget with
            | 0 => (if failBeyond then .silence else reply, [request])
            | budget + 1 =>
              let (last, sent) :=
                exchange net failBeyond budget next (redirected request status url next)
              (last, request :: sent)
      | _ => (reply, [request])

/-- Sends a request under a limit of redirects; zero means that redirects are not followed. -/
def send (net : Network) (maxRedirects : Nat) (url : Url) (request : HttpRequest) :
    HttpReply × List HttpRequest :=
  exchange net (maxRedirects != 0) (maxRedirects - 1) url request

/-- The text of a body, a byte order mark at its start telling how it is encoded;
one that broke off reads as empty. -/
def bodyText (body : Option ByteArray) : String :=
  let bytes := body.getD .empty
  match bytes.toList with
  | 0xEF :: 0xBB :: 0xBF :: rest => Text.lossy rest.toByteArray
  | 0xFF :: 0xFE :: rest => Text.lossyUtf16 (Text.unitsLittle rest)
  | 0xFE :: 0xFF :: rest => Text.lossyUtf16 (Text.unitsBig rest)
  | _ => Text.lossy bytes

end Http
end WebhookRelay

-- SUMMARY: Delivering one event to one webhook and what came of it.
import WebhookRelay.Delivery.Http
import WebhookRelay.Subscription.Basic
import WebhookRelay.Text.Quoted

/-!
# Deliveries

A delivery is one POST of an event's body to a webhook's URL. It succeeds when a
response with a status from 200 to 299 arrives. There are no retries.
-/

namespace WebhookRelay

/-- Why a delivery did not succeed. -/
inductive DeliveryFailure where
  /-- The webhook answered with another status. -/
  | errorResponse (status : Nat) (body : String)
  /-- The request was sent and no response arrived. -/
  | noResponse (detail : String)
  /-- The request could not be made. -/
  | requestNotSent (detail : String)
  deriving DecidableEq, Repr

/-- The text of the failure. -/
def DeliveryFailure.message : DeliveryFailure → String
  | .errorResponse status _ => "Webhook responded with status " ++ toString status
  | .noResponse detail => "Response not received. Error: " ++ detail
  | .requestNotSent detail => "Cannot make request. Error: " ++ detail

/-- A response that counts as success. -/
structure DeliveryResponse where
  status : Nat
  body : String
  deriving DecidableEq, Repr

/-- What became of a delivery. -/
structure Outcome where
  webhookId : WebhookId
  url : String
  result : Except DeliveryFailure DeliveryResponse

/-- Whether the delivery succeeded. -/
def Outcome.isSuccess (o : Outcome) : Bool :=
  match o.result with
  | .ok _ => true
  | .error _ => false

/-- The status, when any response arrived. -/
def Outcome.status? (o : Outcome) : Option Nat :=
  match o.result with
  | .ok response => some response.status
  | .error (.errorResponse status _) => some status
  | .error _ => none

namespace Delivery

/-- The greatest number of characters of a response that is kept. -/
def maxLoggedBody : Nat := 1024

/-- The kept part of a response's text. -/
def truncateBody (text : String) : String :=
  String.ofList (text.toList.take maxLoggedBody)

/-- The request for an event's body, and where it goes; an error when it cannot be made. -/
def prepare (url authorization body : String) : Except DeliveryFailure (Url × HttpRequest) :=
  match Url.parse? url with
  | none => .error (.requestNotSent "the URL cannot be read")
  | some target =>
    if target.host.isNone then .error (.requestNotSent "the URL has no host")
    else if !Http.isHeaderValue authorization then
      .error (.requestNotSent "the authorization cannot be sent")
    else
      let own := if authorization.isEmpty then [] else [Http.trimHeader authorization]
      .ok (target, {
        method := "POST"
        url := target.target
        contentType := ["application/json"]
        authorization := (Http.basicAuthorization? target).toList ++ own
        body })

/-- How a reply is judged. -/
def judge : HttpReply → Except DeliveryFailure DeliveryResponse
  | .silence => .error (.noResponse "no response arrived")
  | .response status _ body =>
    let text := truncateBody (Http.bodyText body)
    if 200 ≤ status ∧ status ≤ 299 then .ok ⟨status, text⟩ else .error (.errorResponse status text)

/-- Sends a body to a URL. Gives the result and the requests that were sent. -/
def post (net : Network) (maxRedirects : Nat) (url authorization body : String) :
    Except DeliveryFailure DeliveryResponse × List HttpRequest :=
  match prepare url authorization body with
  | .error failure => (.error failure, [])
  | .ok (target, request) =>
    let (reply, sent) := Http.send net maxRedirects target request
    (judge reply, sent)

/-- Delivers a body to a webhook. -/
def deliver (net : Network) (maxRedirects : Nat) (s : Subscription) (body : String) :
    Outcome × List HttpRequest :=
  let (result, sent) := post net maxRedirects s.url s.authorization body
  (⟨s.id, s.url, result⟩, sent)

end Delivery
end WebhookRelay

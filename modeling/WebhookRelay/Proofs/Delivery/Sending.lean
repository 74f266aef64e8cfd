-- SUMMARY: When a delivery is sent: to whatever was accepted as an http URL, unless its authorization is no header value.
import WebhookRelay.Proofs.Delivery.Reply
import WebhookRelay.Proofs.Subscription.Registration
import WebhookRelay.Proofs.Url.Special

/-!
# Sending

A request is checked when it is registered, and once more whenever something is sent to
its webhook. The two checks agree on the URL: an http URL that was accepted has a host,
which is all that sending asks for. They do not on the authorization, which is not
checked in advance: with one that is no header value no request is ever made.
-/

namespace WebhookRelay

/-- Whether the request of a delivery could be made. -/
def Outcome.isSent (o : Outcome) : Bool :=
  match o.result with
  | .error (.requestNotSent _) => false
  | _ => true

theorem Outcome.isSent_eq_true_iff (o : Outcome) :
    o.isSent = true ↔ ∀ detail, o.result ≠ .error (.requestNotSent detail) := by
  rw [isSent]
  split
  · simp [*]
  · rename_i hother
    simpa using hother

/-! ## Requests -/

namespace Delivery

/-- A request is made for a URL with a host and an authorization that is a header value. -/
theorem prepare_eq_ok {url : String} {target : Url} (htarget : Url.parse? url = some target)
    (hhost : target.host.isSome = true) {authorization : String}
    (hvalue : Http.isHeaderValue authorization = true) (body : String) :
    ∃ shown, prepare url authorization body
      = .ok (target, ⟨"POST", target.target, ["application/json"], shown, body⟩) :=
  ⟨_, prepare_eq_ok_iff.2 ⟨htarget, hhost, hvalue, rfl⟩⟩

theorem prepare_of_not_isHeaderValue (url : String) {authorization : String}
    (hvalue : Http.isHeaderValue authorization = false) (body : String) :
    ∃ detail, prepare url authorization body = .error (.requestNotSent detail) := by
  cases h : prepare url authorization body with
  | ok prepared =>
    obtain ⟨-, -, hother, -⟩ := prepare_eq_ok_iff.1 h
    rw [hvalue] at hother
    cases hother
  | error failure =>
    obtain ⟨detail, rfl⟩ := prepare_eq_error h
    exact ⟨detail, rfl⟩

/-- A reply is never taken for a request that was not made. -/
theorem judge_ne_requestNotSent (reply : HttpReply) (detail : String) :
    judge reply ≠ .error (.requestNotSent detail) := by
  cases reply with
  | silence => simp [judge]
  | response status location body =>
    rw [judge]
    split <;> simp

end Delivery

/-- What is sent first is the request itself. -/
theorem Http.head?_exchange (net : Network) (failBeyond : Bool) (budget : Nat) {url : Url}
    (h : isReachable url = true) (request : HttpRequest) :
    (exchange net failBeyond budget url request).2.head? = some request := by
  unfold exchange
  simp only [h, Bool.not_true, Bool.false_eq_true, if_false]
  repeat' split
  all_goals rfl

namespace Outlet

variable (outlet : Outlet) {s : Subscription} {body : String}

theorem deliver_of_prepare {target : Url} {request : HttpRequest}
    (hprepare : Delivery.prepare s.url s.authorization body = .ok (target, request)) :
    let answered := Http.send outlet.network outlet.maxRedirects target request
    outlet.deliver s body = (⟨s.id, s.url, Delivery.judge answered.1⟩, answered.2) := by
  rw [deliver, Delivery.deliver, Delivery.post, hprepare]

/-- With an authorization that is no header value nothing is sent. -/
theorem deliver_of_not_isHeaderValue (hvalue : Http.isHeaderValue s.authorization = false)
    (body : String) :
    ∃ detail, outlet.deliver s body = (⟨s.id, s.url, .error (.requestNotSent detail)⟩, []) := by
  obtain ⟨detail, hprepare⟩ := Delivery.prepare_of_not_isHeaderValue s.url hvalue body
  refine ⟨detail, ?_⟩
  rw [deliver, Delivery.deliver, Delivery.post, hprepare]

end Outlet

/-! ## Accepted requests -/

namespace Registration

/-- The URL of an accepted request for an http URL. -/
theorem exists_target {r : Registration} (haccepted : r.validate = .ok ())
    (hhttp : "http://".isPrefixOf r.url = true) :
    ∃ target, Url.parse? r.url = some target ∧ target.scheme = "http" ∧
      target.host.isSome = true := by
  have hurl := ((validate_eq_ok_iff r).1 haccepted).url
  obtain ⟨target, htarget⟩ := Option.isSome_iff_exists.1 (Bool.and_eq_true_iff.1 hurl).2
  obtain ⟨rest, hrest⟩ := String.startsWith_string_iff.1 hhttp
  have htext : r.url.toList = "http".toList ++ ':' :: ('/' :: '/' :: rest) := hrest.symm
  exact ⟨target, htarget, Url.scheme_host_of_parse? (.inl rfl) htext htarget⟩

/-- What happens at every delivery to the webhook of an accepted request for an http URL.
Its request is made exactly when the authorization is a header value, which accepting it
did not ask for: then the outcome is a response, or none, and the request is sent if the
network can be asked for the host. With any other authorization nothing is ever sent. -/
theorem isSent_iff {r : Registration} (haccepted : r.validate = .ok ())
    (hhttp : "http://".isPrefixOf r.url = true) (id : WebhookId) :
    ∃ s target, r.toSubscription id = .ok s ∧ Url.parse? r.url = some target ∧
      ∀ (relay : Relay) (outlet : Outlet) (e : Event), s ∈ relay.registry.subscriptions →
        s.isRelevant e = true →
        let delivered := outlet.deliver s e.body
        delivered.1 ∈ (relay.post outlet e).2.outcomes ∧ delivered.1.webhookId = id ∧
        (delivered.1.isSent = true ↔ Http.isHeaderValue r.authorization = true) ∧
        (Http.isHeaderValue r.authorization = true → Http.isSendable target = true →
          ∃ shown, delivered.2.head?
            = some ⟨"POST", target.target, ["application/json"], shown, e.body⟩) ∧
        (Http.isHeaderValue r.authorization = false → delivered.2 = []) := by
  obtain ⟨groups, -, hs⟩ := toSubscription_of_accepted haccepted id
  obtain ⟨target, htarget, hscheme, hhost⟩ := exists_target haccepted hhttp
  refine ⟨_, target, hs, htarget, ?_⟩
  intro relay outlet e hs hrelevant delivered
  have hdelivered : delivered.1 ∈ (relay.post outlet e).2.outcomes := by
    rw [Relay.outcomes_post]
    exact List.mem_map.2 ⟨_, List.mem_filter.2 ⟨hs, hrelevant⟩, rfl⟩
  refine ⟨hdelivered, rfl, ?_⟩
  cases hvalue : Http.isHeaderValue r.authorization with
  | true =>
    obtain ⟨shown, hprepare⟩ := Delivery.prepare_eq_ok htarget hhost hvalue e.body
    have hdeliver : delivered = _ := outlet.deliver_of_prepare hprepare
    have hsent : delivered.1.isSent = true := by
      rw [Outcome.isSent_eq_true_iff, hdeliver]
      exact Delivery.judge_ne_requestNotSent _
    refine ⟨by simp [hsent], ?_, nofun⟩
    intro _ hsendable
    have hreachable : Http.isReachable target = true :=
      Http.isReachable_iff.2 ⟨.inl hscheme, hsendable⟩
    refine ⟨shown, ?_⟩
    rw [hdeliver]
    exact Http.head?_exchange _ _ _ hreachable _
  | false =>
    obtain ⟨detail, hdeliver⟩ :
        ∃ detail, delivered = (⟨_, _, .error (.requestNotSent detail)⟩, []) :=
      outlet.deliver_of_not_isHeaderValue hvalue e.body
    have hsent : delivered.1.isSent = false := by
      rw [hdeliver, Outcome.isSent]
    refine ⟨by simp [hsent], nofun, ?_⟩
    intro _
    rw [hdeliver]

/-- A request for all that happens at the creation of safes. -/
def ofSafeCreations (authorization : String) : Registration :=
  ⟨"d", "http://[::1]/", true, authorization, [], [], ["SEND_SAFE_CREATIONS"]⟩

theorem validate_ofSafeCreations (authorization : String) :
    (ofSafeCreations authorization).validate = .ok () := by
  rw [validate_eq_ok_iff]
  constructor <;> simp only [ofSafeCreations]
  case url => exact isWebhookUrl_loopback
  case groups => exact ⟨[.safeCreations], rfl⟩
  all_goals decide

theorem toSubscription_ofSafeCreations (authorization : String) (id : WebhookId) :
    (ofSafeCreations authorization).toSubscription id
      = .ok ((ofSafeCreations authorization).subscriptionWith id [.safeCreations]) := by
  rw [toSubscription, applyTo, validate_ofSafeCreations]
  rfl

/-- A request with a secret: a delivery to its webhook is sent. -/
theorem isSent_iff_of_secret :
    let r := ofSafeCreations "Bearer secret"
    let s := r.subscriptionWith ⟨1⟩ [.safeCreations]
    let relay : Relay := { Relay.ofRepository .default 1 (.ofStore .empty) with
      registry := ⟨[⟨s, 0⟩], List.pairwise_singleton ..⟩ }
    let e := Event.new "1" "SAFE_CREATED" ""
    let outlet : Outlet := ⟨Http.unreachable, 10⟩
    r.validate = .ok () ∧ r.toSubscription ⟨1⟩ = .ok s ∧ s.isRelevant e = true ∧
    ∃ o ∈ (relay.post outlet e).2.outcomes, o.webhookId = ⟨1⟩ ∧ o.isSent = true := by
  intro r s relay e outlet
  have haccepted : r.validate = .ok () := validate_ofSafeCreations ..
  have hs : r.toSubscription ⟨1⟩ = .ok s := toSubscription_ofSafeCreations ..
  have hrelevant : s.isRelevant e = true := by
    cbv
  obtain ⟨s', target, hs', -, hsent⟩ := isSent_iff haccepted (by cbv) ⟨1⟩
  cases hs.symm.trans hs'
  obtain ⟨hmem, hid, hiff, -⟩ := hsent relay outlet e List.mem_cons_self hrelevant
  exact ⟨haccepted, hs, hrelevant, _, hmem, hid, hiff.2 (by decide)⟩

/-- A request whose authorization has a line end is accepted, and nothing is ever sent to
its webhook. -/
theorem accepted_not_sent :
    let r := ofSafeCreations "Bearer a\nb"
    let s := r.subscriptionWith ⟨1⟩ [.safeCreations]
    let e := Event.new "1" "SAFE_CREATED" ""
    r.validate = .ok () ∧ "http://".isPrefixOf r.url = true ∧ r.toSubscription ⟨1⟩ = .ok s ∧
    s.isRelevant e = true ∧ ∀ outlet : Outlet,
      (∃ detail, (outlet.deliver s e.body).1.result = .error (.requestNotSent detail)) ∧
      (outlet.deliver s e.body).2 = [] := by
  intro r s e
  refine ⟨validate_ofSafeCreations .., by cbv, toSubscription_ofSafeCreations .., by cbv, ?_⟩
  intro outlet
  have hvalue : Http.isHeaderValue s.authorization = false := by
    decide
  obtain ⟨detail, hdeliver⟩ := outlet.deliver_of_not_isHeaderValue hvalue e.body
  rw [hdeliver]
  exact ⟨⟨detail, rfl⟩, rfl⟩

end Registration
end WebhookRelay

-- SUMMARY: Deliveries without redirects: the one request, and the outcome told by its reply.
import WebhookRelay.Proofs.Relay.Posting
import Mathlib

/-!
# Replies

When redirects are not followed, a delivery sends one request (`Delivery.request?`) or none, and
gets one reply (`Outlet.reply`) or silence. The outcome reports that reply (`reports_deliver`), so
deliveries to a webhook have the same outcome on any two networks that reply to it alike
(`deliver_congr`).
-/

namespace WebhookRelay

/-! ## Requests -/

namespace Http

/-- Without redirects a request is sent once, if its receiver can be reached. -/
theorem exchange_zero (net : Network) (url : Url) (request : HttpRequest) :
    exchange net false 0 url request =
      if isReachable url then (received (net request), [request]) else (.silence, []) := by
  unfold exchange
  cases isReachable url with
  | false => rfl
  | true =>
    simp only [Bool.not_true, Bool.false_eq_true, if_false, if_true]
    repeat' split
    all_goals rfl

theorem isReachable_iff {url : Url} : isReachable url = true ↔
    (url.scheme = "http" ∨ url.scheme = "https") ∧ isSendable url = true := by
  simp [isReachable]

/-- A URL without a user name and a password shows no authorization. -/
theorem basicAuthorization?_eq_none {url : Url} (hname : url.username = [])
    (hpassword : url.password = []) : basicAuthorization? url = none := by
  unfold basicAuthorization?
  rw [hname, hpassword]
  rfl

end Http

namespace Delivery

/-- The request of a delivery, if there is someone to send it to. -/
def request? (s : Subscription) (body : String) : Option HttpRequest :=
  match prepare s.url s.authorization body with
  | .ok (target, request) => if Http.isReachable target then some request else none
  | .error _ => none

theorem prepare_eq_ok_iff {url authorization body : String} {target : Url}
    {request : HttpRequest} : prepare url authorization body = .ok (target, request) ↔
      Url.parse? url = some target ∧ target.host.isSome = true ∧
      Http.isHeaderValue authorization = true ∧
      request = ⟨"POST", target.target, ["application/json"],
        (Http.basicAuthorization? target).toList ++
          if authorization.isEmpty then [] else [Http.trimHeader authorization], body⟩ := by
  constructor
  · intro h
    unfold prepare at h
    split at h
    · cases h
    next read hread =>
    split at h
    · cases h
    next hhost =>
    split at h
    · cases h
    next hvalue =>
    cases h
    exact ⟨hread, by simpa [Option.isSome_iff_ne_none] using hhost, by simpa using hvalue, rfl⟩
  · rintro ⟨hread, hhost, hvalue, rfl⟩
    obtain ⟨host, hhost⟩ := Option.isSome_iff_exists.1 hhost
    simp [prepare, hread, hhost, hvalue]

/-- A request that cannot be made is not sent. -/
theorem prepare_eq_error {url authorization body : String} {failure : DeliveryFailure}
    (h : prepare url authorization body = .error failure) :
    ∃ detail, failure = .requestNotSent detail := by
  unfold prepare at h
  repeat' split at h
  all_goals cases h
  all_goals exact ⟨_, rfl⟩

/-- What is sent to a webhook that can be reached. -/
theorem request?_eq_some_iff {s : Subscription} {body : String} {request : HttpRequest} :
    request? s body = some request ↔ ∃ target, Url.parse? s.url = some target ∧
      target.host.isSome = true ∧ Http.isReachable target = true ∧
      Http.isHeaderValue s.authorization = true ∧
      request = ⟨"POST", target.target, ["application/json"],
        (Http.basicAuthorization? target).toList ++
          if s.authorization.isEmpty then [] else [Http.trimHeader s.authorization], body⟩ := by
  constructor
  · intro h
    unfold request? at h
    split at h
    · next target made hmade =>
      obtain ⟨hread, hhost, hvalue, rfl⟩ := prepare_eq_ok_iff.1 hmade
      split at h
      · next hreachable =>
        cases h
        exact ⟨target, hread, hhost, hreachable, hvalue, rfl⟩
      · cases h
    · cases h
  · rintro ⟨target, hread, hhost, hreachable, hvalue, rfl⟩
    rw [request?, prepare_eq_ok_iff.2 ⟨hread, hhost, hvalue, rfl⟩]
    exact if_pos hreachable

/-- Which webhooks something is sent to: the host of an `https` URL is asked like that of an `http`
URL. -/
theorem isSome_request?_iff {s : Subscription} {body : String} :
    (request? s body).isSome ↔ ∃ target, Url.parse? s.url = some target ∧
      target.host.isSome = true ∧ (target.scheme = "http" ∨ target.scheme = "https") ∧
      Http.isSendable target = true ∧ Http.isHeaderValue s.authorization = true := by
  simp only [Option.isSome_iff_exists, request?_eq_some_iff, Http.isReachable_iff, and_assoc]
  constructor
  · rintro ⟨_, target, hread, hhost, hscheme, hsendable, hvalue, -⟩
    exact ⟨target, hread, hhost, hscheme, hsendable, hvalue⟩
  · rintro ⟨target, hread, hhost, hscheme, hsendable, hvalue⟩
    exact ⟨_, target, hread, hhost, hscheme, hsendable, hvalue, rfl⟩

end Delivery

/-! ## Replies -/

namespace Outlet

/-- The reply that a delivery gets: silence when nothing is sent. -/
def reply (outlet : Outlet) (s : Subscription) (body : String) : HttpReply :=
  ((Delivery.request? s body).map fun request => Http.received (outlet.network request)).getD
    .silence

variable {outlet : Outlet}

/-- What is sent to a webhook is replied to by the network. -/
theorem reply_of_request? (outlet : Outlet) {s : Subscription} {body : String} {request : HttpRequest}
    (h : Delivery.request? s body = some request) :
    outlet.reply s body = Http.received (outlet.network request) := by
  rw [reply, h, Option.map_some, Option.getD_some]

/-- Without redirects a delivery is told by its request and the reply to it. -/
theorem deliver_eq (hredirects : outlet.maxRedirects = 0) (s : Subscription) (body : String) :
    outlet.deliver s body =
      (⟨s.id, s.url, (Delivery.prepare s.url s.authorization body).bind fun _ =>
        Delivery.judge (outlet.reply s body)⟩, (Delivery.request? s body).toList) := by
  unfold deliver Delivery.deliver Delivery.post reply Delivery.request?
  rw [hredirects]
  cases Delivery.prepare s.url s.authorization body with
  | error failure => rfl
  | ok prepared =>
    obtain ⟨target, request⟩ := prepared
    have hsend : Http.send outlet.network 0 target request = _ := Http.exchange_zero ..
    simp only [hsend]
    split <;> rfl

/-- Networks that reply to a webhook alike lead to the same outcome. -/
theorem deliver_congr {outlet' : Outlet} (hredirects : outlet.maxRedirects = 0)
    (hredirects' : outlet'.maxRedirects = 0) {s : Subscription} {body : String}
    (hreply : outlet'.reply s body = outlet.reply s body) :
    outlet'.deliver s body = outlet.deliver s body := by
  rw [deliver_eq hredirects, deliver_eq hredirects', hreply]

end Outlet

/-! ## Outcomes -/

/-- What is kept of a response's body: the first characters of its text, and of a body that cannot
be read nothing. -/
def IsKept : Option ByteArray → String → Prop
  | none, kept => kept = ""
  | some bytes, kept =>
    let text := Http.bodyText (some bytes)
    kept.toList = text.toList.take (min 1024 text.length)

theorem isKept_iff {body : Option ByteArray} {kept : String} :
    IsKept body kept ↔ kept = Delivery.truncateBody (Http.bodyText body) := by
  cases body with
  | none =>
    have hempty : Delivery.truncateBody (Http.bodyText none) = "" := by cbv
    rw [hempty]
    rfl
  | some bytes =>
    rw [IsKept, Delivery.truncateBody, ← String.toList_inj, String.toList_ofList, String.length,
      List.take_eq_take_min (i := Delivery.maxLoggedBody)]
    rfl

/-- What an outcome says of the reply. -/
structure Outcome.Reports (o : Outcome) (reply : HttpReply) : Prop where
  ok : ∀ response, o.result = .ok response ↔ ∃ location body,
    reply = .response response.status location body ∧
    (200 ≤ response.status ∧ response.status ≤ 299) ∧ IsKept body response.body
  errorResponse : ∀ status kept, o.result = .error (.errorResponse status kept) ↔
    ∃ location body, reply = .response status location body ∧
      ¬ (200 ≤ status ∧ status ≤ 299) ∧ IsKept body kept
  silence : (∃ detail, o.result = .error (.noResponse detail) ∨
    o.result = .error (.requestNotSent detail)) ↔ reply = .silence

theorem Delivery.reports_judge (id : WebhookId) (url : String) (reply : HttpReply) :
    Outcome.Reports ⟨id, url, judge reply⟩ reply := by
  cases reply with
  | silence => constructor <;> simp [judge]
  | response status location body =>
    by_cases hsuccess : 200 ≤ status ∧ status ≤ 299
    · have hjudge : judge (.response status location body)
          = .ok ⟨status, truncateBody (Http.bodyText body)⟩ := if_pos hsuccess
      rw [hjudge]
      refine ⟨?ok, ?errorResponse, by simp⟩
      case ok =>
        rintro ⟨status', kept⟩
        constructor
        · rintro ⟨⟩
          exact ⟨location, body, rfl, hsuccess, isKept_iff.2 rfl⟩
        · rintro ⟨location', body', ⟨⟩, -, hkept⟩
          obtain rfl : kept = _ := isKept_iff.1 hkept
          rfl
      case errorResponse =>
        intro status' kept
        refine iff_of_false nofun ?_
        rintro ⟨location', body', ⟨⟩, hother, -⟩
        exact hother hsuccess
    · have hjudge : judge (.response status location body)
          = .error (.errorResponse status (truncateBody (Http.bodyText body))) := if_neg hsuccess
      rw [hjudge]
      refine ⟨?ok, ?errorResponse, by simp⟩
      case ok =>
        rintro ⟨status', kept⟩
        refine iff_of_false nofun ?_
        rintro ⟨location', body', ⟨⟩, hsuccess', -⟩
        exact hsuccess hsuccess'
      case errorResponse =>
        intro status' kept
        constructor
        · rintro ⟨⟩
          exact ⟨location, body, rfl, hsuccess, isKept_iff.2 rfl⟩
        · rintro ⟨location', body', ⟨⟩, -, hkept⟩
          rw [isKept_iff.1 hkept]

/-- The outcome of a delivery without redirects reports the reply. -/
theorem Outlet.reports_deliver {outlet : Outlet} (hredirects : outlet.maxRedirects = 0)
    (s : Subscription) (body : String) :
    (outlet.deliver s body).1.Reports (outlet.reply s body) := by
  rw [deliver_eq hredirects]
  cases hprepare : Delivery.prepare s.url s.authorization body with
  | ok prepared => exact Delivery.reports_judge s.id s.url _
  | error failure =>
    obtain ⟨detail, rfl⟩ := Delivery.prepare_eq_error hprepare
    have hsilence : outlet.reply s body = .silence := by
      rw [reply, Delivery.request?, hprepare]
      rfl
    rw [hsilence]
    constructor <;> simp [Except.bind]

/-- A delivery succeeds when a response with a status from 200 to 299 arrives. -/
theorem Outcome.Reports.isSuccess_iff {o : Outcome} {reply : HttpReply} (h : o.Reports reply) :
    o.isSuccess = true ↔ ∃ status location body,
      reply = .response status location body ∧ 200 ≤ status ∧ status ≤ 299 := by
  have hok : o.isSuccess = true ↔ ∃ response, o.result = .ok response := by
    unfold Outcome.isSuccess
    split <;> simp [*]
  rw [hok]
  constructor
  · rintro ⟨response, hresponse⟩
    obtain ⟨location, body, hreply, hsuccess, -⟩ := (h.ok response).1 hresponse
    exact ⟨response.status, location, body, hreply, hsuccess⟩
  · rintro ⟨status, location, body, hreply, hsuccess⟩
    exact ⟨⟨status, _⟩, (h.ok _).2 ⟨location, body, hreply, hsuccess, isKept_iff.2 rfl⟩⟩

end WebhookRelay

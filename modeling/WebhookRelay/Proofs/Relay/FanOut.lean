-- SUMMARY: Posting an event to many webhooks: what it comes to for each of them, whatever the others do.
import WebhookRelay.Proofs.Delivery.Reply
import WebhookRelay.Proofs.Lists
import WebhookRelay.Proofs.Relay.Step

/-!
# Fan-out

The deliveries of an event are under way at the same time and come to their ends in any order
(`Relay.Settles`). For each webhook there is one outcome, and it is that of a delivery to this
webhook alone (`Settles.outcomes_of`). It is counted on the record of this webhook and on no other
(`Settles.get_of`, `Settles.get_other`).
-/

namespace WebhookRelay

namespace Relay

/-- Whether an event was posted: its deliveries came to their ends, in any order. -/
def Settles (outlet : Outlet) (r : Relay) (e : Event) (done : Relay × Posted) : Prop :=
  ∃ ds, ds.Perm (r.capture e) ∧ settleAll outlet r ds = done

theorem settles_post (outlet : Outlet) (r : Relay) (e : Event) :
    r.Settles outlet e (r.post outlet e) :=
  ⟨r.capture e, .refl _, rfl⟩

variable {outlet : Outlet} {r : Relay} {e : Event} {done : Relay × Posted}

/-- There is one delivery to each webhook that the event is relevant to. -/
theorem filter_capture_eq (hsep : r.Separated) {x : Entry} (hx : x ∈ r.registry.entries)
    (hrelevant : x.subscription.isRelevant e = true) :
    (r.capture e).filter (·.entry.stats = x.stats) = [⟨x, e.body⟩] := by
  have hmem : x ∈ r.registry.entries.filter (·.subscription.isRelevant e) :=
    List.mem_filter.2 ⟨hx, hrelevant⟩
  have hnodup : ((r.registry.entries.filter (·.subscription.isRelevant e)).map (·.stats)).Nodup :=
    hsep.distinct.sublist (List.filter_sublist.map _)
  rw [capture, List.filter_map]
  exact congrArg (List.map _) (filter_key_eq_singleton hnodup hmem)

namespace Settles

theorem outcomes_perm (h : r.Settles outlet e done) :
    done.2.outcomes.Perm ((r.targets e).map fun s => (outlet.deliver s e.body).1) := by
  obtain ⟨ds, hperm, rfl⟩ := h
  rw [← outcomes_post, post, outcomes_settleAll, outcomes_settleAll]
  exact hperm.map _

theorem requests_perm (h : r.Settles outlet e done) :
    done.2.requests.Perm ((r.targets e).flatMap fun s => (outlet.deliver s e.body).2) := by
  obtain ⟨ds, hperm, rfl⟩ := h
  rw [← requests_post, post, requests_settleAll, requests_settleAll]
  exact hperm.flatMap_right _

/-- The one outcome of a webhook is that of the delivery to it. -/
theorem outcomes_of (h : r.Settles outlet e done) {x : Entry} (hx : x ∈ r.registry.entries)
    (hrelevant : x.subscription.isRelevant e = true) :
    done.2.outcomes.filter (·.webhookId = x.id)
      = [(outlet.deliver x.subscription e.body).1] := by
  have hmem : x.subscription ∈ r.targets e :=
    List.mem_filter.2 ⟨List.mem_map_of_mem hx, hrelevant⟩
  have hnodup : ((r.targets e).map (·.id)).Nodup := by
    refine List.Nodup.sublist (List.filter_sublist.map _) ?_
    rw [Registry.subscriptions, List.map_map]
    exact r.registry.ids_nodup
  have honly : (r.targets e).filter (·.id = x.id) = [x.subscription] :=
    filter_key_eq_singleton hnodup hmem
  have hperm := h.outcomes_perm.filter (·.webhookId = x.id)
  rw [List.filter_map] at hperm
  refine List.perm_singleton.1 (hperm.trans ?_)
  exact .of_eq (congrArg (List.map _) honly)

/-- A record counts the deliveries that were captured on it, in whatever order they ended. -/
theorem get (hsep : r.Separated) (h : r.Settles outlet e done) (key : StatsKey) :
    ∃ ds : List InFlight, ds.Perm ((r.capture e).filter (·.entry.stats = key)) ∧
      done.1.ledger.get key = (r.ledger.get key).tally (ds.map (·.outcome outlet)) := by
  obtain ⟨ds, hperm, rfl⟩ := h
  have hlt : ∀ d ∈ ds, d.entry.stats < r.ledger.records.length := by
    intro d hd
    exact hsep.lt_length d.entry (entry_of_mem_capture (hperm.mem_iff.1 hd))
  exact ⟨_, hperm.filter _, get_settleAll outlet hlt key⟩

/-- The outcome of a webhook is counted on its record. -/
theorem get_of (hsep : r.Separated) (h : r.Settles outlet e done) {x : Entry}
    (hx : x ∈ r.registry.entries) (hrelevant : x.subscription.isRelevant e = true) :
    done.1.ledger.get x.stats
      = (r.ledger.get x.stats).record (outlet.deliver x.subscription e.body).1.isSuccess := by
  obtain ⟨ds, hperm, hget⟩ := h.get hsep x.stats
  rw [filter_capture_eq hsep hx hrelevant, List.perm_singleton] at hperm
  rw [hget, hperm]
  rfl

/-- Nothing is counted on a record that is none of a webhook the event is relevant to. -/
theorem get_other (hsep : r.Separated) (h : r.Settles outlet e done) {key : StatsKey}
    (hkey : ∀ x ∈ r.registry.entries, x.subscription.isRelevant e = true → x.stats ≠ key) :
    done.1.ledger.get key = r.ledger.get key := by
  obtain ⟨ds, hperm, hget⟩ := h.get hsep key
  have hnone : (r.capture e).filter (·.entry.stats = key) = [] := by
    rw [List.filter_eq_nil_iff]
    intro d hd
    simpa using hkey d.entry (entry_of_mem_capture hd) (isRelevant_of_mem_capture hd)
  rw [hnone, List.perm_nil] at hperm
  rw [hget, hperm]
  rfl

/-- Every outcome is that of a webhook the event is relevant to. -/
theorem exists_entry (h : r.Settles outlet e done) {o : Outcome} (ho : o ∈ done.2.outcomes) :
    ∃ x ∈ r.registry.entries, x.subscription.isRelevant e = true ∧ x.id = o.webhookId := by
  obtain ⟨s, hs, rfl⟩ := List.mem_map.1 (h.outcomes_perm.mem_iff.1 ho)
  obtain ⟨hmem, hrelevant⟩ := List.mem_filter.1 hs
  obtain ⟨x, hx, rfl⟩ := List.mem_map.1 hmem
  exact ⟨x, hx, hrelevant, rfl⟩

end Settles

/-- Whether a webhook has one outcome, which is counted on its record. -/
structure Receives (r : Relay) (done : Relay × Posted) (x : Entry) (o : Outcome) : Prop where
  outcome : done.2.outcomes.filter (·.webhookId = x.id) = [o]
  url : o.url = x.subscription.url
  success : o.isSuccess = true → done.1.ledger.get x.stats
    = { r.ledger.get x.stats with successes := (r.ledger.get x.stats).successes + 1 }
  failure : o.isSuccess = false → done.1.ledger.get x.stats
    = { r.ledger.get x.stats with failures := (r.ledger.get x.stats).failures + 1 }

theorem Settles.receives (hsep : r.Separated) (h : r.Settles outlet e done) {x : Entry}
    (hx : x ∈ r.registry.entries) (hrelevant : x.subscription.isRelevant e = true) :
    r.Receives done x (outlet.deliver x.subscription e.body).1 where
  outcome := h.outcomes_of hx hrelevant
  url := rfl
  success := by
    intro hsuccess
    rw [h.get_of hsep hx hrelevant, hsuccess]
    rfl
  failure := by
    intro hfailure
    rw [h.get_of hsep hx hrelevant, hfailure]
    rfl

/-- Without redirects the webhooks that an event is posted to are isolated from each other. Each has
one outcome, which reports the reply to its own request and is counted on its own record; it is the
same wherever else the same body is posted to the same subscription and replied to alike, whatever
other webhooks there are. There are no other outcomes or changes. The requests carry the body and
are replied to by the network, whether they go to an `http` or to an `https` URL.

The entries of a relay have records of their own in every course. -/
theorem fan_out_isolates :
    (∀ (policy : HealthPolicy) (streamCapacity : Nat) (repository : Repository)
      (course : List Action),
      ((ofRepository policy streamCapacity repository).run course).Separated) ∧
    ∀ (outlet : Outlet) (r : Relay) (e : Event) (done : Relay × Posted),
      outlet.maxRedirects = 0 → r.Separated → r.Settles outlet e done →
      (∀ x ∈ r.registry.entries, x.subscription.isRelevant e = true →
        ∃ o, r.Receives done x o ∧ o.Reports (outlet.reply x.subscription e.body) ∧
          ∀ (outlet' : Outlet) (r' : Relay) (e' : Event) (done' : Relay × Posted) (x' : Entry),
            outlet'.maxRedirects = 0 → r'.Separated → r'.Settles outlet' e' done' →
            x' ∈ r'.registry.entries → x'.subscription = x.subscription →
            x'.subscription.isRelevant e' = true → e'.body = e.body →
            outlet'.reply x.subscription e.body = outlet.reply x.subscription e.body →
            r'.Receives done' x' o) ∧
      (∀ o ∈ done.2.outcomes, ∃ x ∈ r.registry.entries,
        x.subscription.isRelevant e = true ∧ x.id = o.webhookId) ∧
      (∃ ledger : Ledger, done.1 = { r with ledger } ∧
        ledger.records.length = r.ledger.records.length ∧
        ∀ key, (∀ x ∈ r.registry.entries, x.subscription.isRelevant e = true → x.stats ≠ key) →
          ledger.get key = r.ledger.get key) ∧
      done.2.requests.Perm
        ((r.targets e).flatMap fun s => (Delivery.request? s e.body).toList) ∧
      (∀ s, (Delivery.request? s e.body).isSome ↔ ∃ target, Url.parse? s.url = some target ∧
        target.host.isSome = true ∧ (target.scheme = "http" ∨ target.scheme = "https") ∧
        Http.isSendable target = true ∧ Http.isHeaderValue s.authorization = true) ∧
      ∀ s request, Delivery.request? s e.body = some request →
        outlet.reply s e.body = Http.received (outlet.network request) ∧
        request.body = e.body ∧ request.contentType = ["application/json"] ∧
        request.method = "POST" ∧ ∃ target, Url.parse? s.url = some target ∧
          request.url = target.target ∧
          (target.username = [] → target.password = [] →
            (request.authorization ≠ [] ↔ s.authorization ≠ "")) := by
  refine ⟨fun policy streamCapacity repository course =>
    separated_run (separated_ofRepository policy streamCapacity repository) course, ?_⟩
  intro outlet r e done hredirects hsep hdone
  refine ⟨?each, fun o => hdone.exists_entry, ?frame, ?requests,
    fun s => Delivery.isSome_request?_iff, ?request⟩
  case each =>
    intro x hx hrelevant
    refine ⟨_, hdone.receives hsep hx hrelevant, Outlet.reports_deliver hredirects _ _, ?_⟩
    intro outlet' r' e' done' x' hredirects' hsep' hdone' hx' hsame hrelevant' hbody hreply
    have hreceives := hdone'.receives hsep' hx' hrelevant'
    rwa [hsame, hbody, Outlet.deliver_congr hredirects hredirects' hreply] at hreceives
  case frame =>
    have hother : ∀ key, (∀ x ∈ r.registry.entries, x.subscription.isRelevant e = true →
        x.stats ≠ key) → done.1.ledger.get key = r.ledger.get key :=
      fun key => hdone.get_other hsep
    obtain ⟨ds, -, rfl⟩ := hdone
    obtain ⟨ledger, hledger, hlength⟩ := settleAll_frame outlet r ds
    rw [hledger] at hother ⊢
    exact ⟨ledger, rfl, hlength, hother⟩
  case requests =>
    have hrequests := hdone.requests_perm
    simpa only [Outlet.deliver_eq hredirects] using hrequests
  case request =>
    intro s request hrequest
    have hreply := outlet.reply_of_request? hrequest
    obtain ⟨target, hread, -, -, -, rfl⟩ := Delivery.request?_eq_some_iff.1 hrequest
    refine ⟨hreply, rfl, rfl, rfl, target, hread, rfl, ?_⟩
    intro hname hpassword
    rw [Http.basicAuthorization?_eq_none hname hpassword]
    by_cases hempty : s.authorization = "" <;> simp [hempty]

/-- One webhook answers through TLS, another has a URL that cannot be read. Without the second and
with another record the first has the same outcome. -/
theorem fan_out_isolates_of_broken :
    let s := Subscription.new ⟨1⟩ "https://[::1]/"
    let broken := Subscription.new ⟨2⟩ "no url"
    let e := Event.new "1" "SAFE_CREATED" ""
    let outlet : Outlet := ⟨fun _ => .response 200 none none, 0⟩
    let r : Relay := { ofRepository .default 1 (.ofStore .empty) with
      ledger := ⟨[⟨4, 0, 7⟩, ⟨0, 2, 7⟩]⟩
      registry := ⟨[⟨s, 0⟩, ⟨broken, 1⟩], by decide⟩ }
    let r' : Relay := { ofRepository .default 1 (.ofStore .empty) with
      ledger := ⟨[⟨0, 0, 9⟩]⟩
      registry := ⟨[⟨s, 0⟩], by decide⟩ }
    outlet.reply s e.body = .response 200 none none ∧
    ∃ o, o.result = .ok ⟨200, ""⟩ ∧ r.Receives (r.post outlet e) ⟨s, 0⟩ o ∧
      r'.Receives (r'.post outlet e) ⟨s, 0⟩ o ∧
      (r.post outlet e).1.ledger.get 0 = ⟨5, 0, 7⟩ ∧
      (r'.post outlet e).1.ledger.get 0 = ⟨1, 0, 9⟩ := by
  intro s broken e outlet r r'
  have hreply : outlet.reply s e.body = .response 200 none none := by
    cbv
  have hsep : r.Separated := ⟨by decide, by decide⟩
  have hsep' : r'.Separated := ⟨by decide, by decide⟩
  have hrelevant : s.isRelevant e = true := by
    cbv
  obtain ⟨hall, -⟩ := fan_out_isolates.2 outlet r e _ rfl hsep (settles_post ..)
  obtain ⟨o, hreceives, hreports, hsame⟩ := hall ⟨s, 0⟩ (by simp [r]) hrelevant
  have hreceives' : r'.Receives (r'.post outlet e) ⟨s, 0⟩ o :=
    hsame outlet r' e _ ⟨s, 0⟩ rfl hsep' (settles_post ..) (by simp [r']) rfl hrelevant rfl rfl
  have hok : o.result = .ok ⟨200, ""⟩ :=
    (hreports.ok _).2 ⟨none, none, hreply, by decide, rfl⟩
  have hsuccess : o.isSuccess = true :=
    hreports.isSuccess_iff.2 ⟨200, none, none, hreply, by decide⟩
  exact ⟨hreply, o, hok, hreceives, hreceives', hreceives.success hsuccess,
    hreceives'.success hsuccess⟩

end Relay
end WebhookRelay

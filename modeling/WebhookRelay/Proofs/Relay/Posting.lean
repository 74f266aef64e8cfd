-- SUMMARY: Posting an event: its outcomes and requests in order, and where they are counted.
import WebhookRelay.Relay
import WebhookRelay.Proofs.Registry.Entries

/-!
# Posting

Posting carries out the deliveries of an event one after the other. What each one
comes to depends on the subscription and the body alone, so the outcomes and the
requests of all of them can be told beforehand. Only the ledger is changed: the
record of an entry tallies the outcomes that name its webhook.
-/

namespace WebhookRelay

/-! ## Tallies -/

namespace Stats

/-- The record after the outcomes of some deliveries were counted on it. -/
def tally (s : Stats) (outcomes : List Outcome) : Stats :=
  outcomes.foldl (fun s o => s.record o.isSuccess) s

@[simp] theorem tally_cons (s : Stats) (o : Outcome) (os : List Outcome) :
    s.tally (o :: os) = (s.record o.isSuccess).tally os := rfl

theorem tally_append (s : Stats) (os ps : List Outcome) :
    s.tally (os ++ ps) = (s.tally os).tally ps :=
  List.foldl_append

theorem successes_tally (s : Stats) (os : List Outcome) :
    (s.tally os).successes = s.successes + os.countP (·.isSuccess) := by
  induction os generalizing s with
  | nil => rfl
  | cons o os ih =>
    rw [tally_cons, ih]
    cases h : o.isSuccess with
    | false => simp [record, addFailures, h]
    | true =>
      simp only [record, addSuccesses, if_true, List.countP_cons, h]
      omega

theorem failures_tally (s : Stats) (os : List Outcome) :
    (s.tally os).failures = s.failures + os.countP (!·.isSuccess) := by
  induction os generalizing s with
  | nil => rfl
  | cons o os ih =>
    rw [tally_cons, ih]
    cases h : o.isSuccess with
    | true => simp [record, addSuccesses, h]
    | false =>
      simp only [record, addFailures, Bool.false_eq_true, if_false, List.countP_cons, h,
        Bool.not_false, if_true]
      omega

theorem windowStart_tally (s : Stats) (os : List Outcome) :
    (s.tally os).windowStart = s.windowStart := by
  induction os generalizing s with
  | nil => rfl
  | cons o os ih =>
    rw [tally_cons, ih]
    cases h : o.isSuccess <;> rfl

/-- The record after the deliveries of a window. -/
theorem tally_startingAt (time : Time) (os : List Outcome) :
    (startingAt time).tally os = ⟨os.countP (·.isSuccess), os.countP (!·.isSuccess), time⟩ := by
  have hsuccesses := successes_tally (startingAt time) os
  have hfailures := failures_tally (startingAt time) os
  have hwindow := windowStart_tally (startingAt time) os
  cases htally : (startingAt time).tally os
  simp_all [startingAt]

end Stats

/-! ## Deliveries -/

/-- What a delivery comes to: its outcome, and the requests that were sent for it. -/
def Outlet.deliver (outlet : Outlet) (s : Subscription) (body : String) :
    Outcome × List HttpRequest :=
  Delivery.deliver outlet.network outlet.maxRedirects s body

@[simp] theorem Outlet.webhookId_deliver (outlet : Outlet) (s : Subscription) (body : String) :
    (outlet.deliver s body).1.webhookId = s.id := rfl

@[simp] theorem Outlet.url_deliver (outlet : Outlet) (s : Subscription) (body : String) :
    (outlet.deliver s body).1.url = s.url := rfl

/-- The outcome of a delivery that has begun. -/
def InFlight.outcome (outlet : Outlet) (d : InFlight) : Outcome :=
  (outlet.deliver d.entry.subscription d.body).1

namespace Relay

theorem settleAll_cons (outlet : Outlet) (r : Relay) (d : InFlight) (ds : List InFlight) :
    (settleAll outlet r (d :: ds)).1 = (settleAll outlet (r.settle d (d.outcome outlet)) ds).1 :=
  rfl

/-- Deliveries change nothing but the ledger. -/
theorem settleAll_frame (outlet : Outlet) (r : Relay) (ds : List InFlight) :
    ∃ l, (settleAll outlet r ds).1 = { r with ledger := l } ∧
      l.records.length = r.ledger.records.length := by
  induction ds generalizing r with
  | nil => exact ⟨r.ledger, rfl, rfl⟩
  | cons d ds ih =>
    obtain ⟨l, heq, hlen⟩ := ih (r.settle d (d.outcome outlet))
    refine ⟨l, ?_, ?_⟩
    · rw [settleAll_cons, heq, settle]
    · rw [hlen, settle, Ledger.length_records_modify]

theorem outcomes_settleAll (outlet : Outlet) (r : Relay) (ds : List InFlight) :
    (settleAll outlet r ds).2.outcomes = ds.map (·.outcome outlet) := by
  induction ds generalizing r with
  | nil => rfl
  | cons d ds ih =>
    rw [List.map_cons, ← ih (r.settle d (d.outcome outlet))]
    rfl

theorem requests_settleAll (outlet : Outlet) (r : Relay) (ds : List InFlight) :
    (settleAll outlet r ds).2.requests
      = ds.flatMap fun d => (outlet.deliver d.entry.subscription d.body).2 := by
  induction ds generalizing r with
  | nil => rfl
  | cons d ds ih =>
    rw [List.flatMap_cons, ← ih (r.settle d (d.outcome outlet))]
    rfl

/-- A record counts the deliveries that were captured on it. -/
theorem get_settleAll (outlet : Outlet) {r : Relay} {ds : List InFlight}
    (hlt : ∀ d ∈ ds, d.entry.stats < r.ledger.records.length) (key : StatsKey) :
    (settleAll outlet r ds).1.ledger.get key
      = (r.ledger.get key).tally ((ds.filter (·.entry.stats = key)).map (·.outcome outlet)) := by
  induction ds generalizing r with
  | nil => rfl
  | cons d ds ih =>
    have hlt' : ∀ x ∈ ds,
        x.entry.stats < (r.settle d (d.outcome outlet)).ledger.records.length := by
      intro x hx
      rw [settle, Ledger.length_records_modify]
      exact hlt x (List.mem_cons_of_mem _ hx)
    rw [settleAll_cons, ih hlt', settle, Ledger.get_modify _ _ (hlt d List.mem_cons_self)]
    by_cases hkey : key = d.entry.stats
    · subst hkey
      simp
    · simp [hkey, Ne.symm hkey]

/-! ## Events -/

/-- The subscriptions that an event is posted to. -/
def targets (r : Relay) (e : Event) : List Subscription :=
  r.registry.subscriptions.filter (·.isRelevant e)

theorem map_subscription_capture (r : Relay) (e : Event) :
    (r.capture e).map (·.entry.subscription) = r.targets e := by
  simp [capture, targets, Registry.subscriptions, List.filter_map, Function.comp_def]

theorem body_of_mem_capture {r : Relay} {e : Event} {d : InFlight} (h : d ∈ r.capture e) :
    d.body = e.body := by
  obtain ⟨x, -, rfl⟩ := List.mem_map.1 h
  rfl

theorem entry_of_mem_capture {r : Relay} {e : Event} {d : InFlight} (h : d ∈ r.capture e) :
    d.entry ∈ r.registry.entries := by
  obtain ⟨x, hx, rfl⟩ := List.mem_map.1 h
  exact List.mem_of_mem_filter hx

theorem isRelevant_of_mem_capture {r : Relay} {e : Event} {d : InFlight} (h : d ∈ r.capture e) :
    d.entry.subscription.isRelevant e = true := by
  obtain ⟨x, hx, rfl⟩ := List.mem_map.1 h
  exact (List.mem_filter.1 hx).2

/-- Posting changes nothing but the ledger. -/
theorem post_frame (outlet : Outlet) (r : Relay) (e : Event) :
    ∃ l, (r.post outlet e).1 = { r with ledger := l } ∧
      l.records.length = r.ledger.records.length :=
  settleAll_frame outlet r (r.capture e)

/-- There is one outcome for every target. -/
theorem outcomes_post (outlet : Outlet) (r : Relay) (e : Event) :
    (r.post outlet e).2.outcomes = (r.targets e).map fun s => (outlet.deliver s e.body).1 := by
  rw [post, outcomes_settleAll, ← map_subscription_capture, List.map_map]
  refine List.map_congr_left ?_
  intro d hd
  rw [InFlight.outcome, body_of_mem_capture hd, Function.comp]

theorem requests_post (outlet : Outlet) (r : Relay) (e : Event) :
    (r.post outlet e).2.requests = (r.targets e).flatMap fun s => (outlet.deliver s e.body).2 := by
  rw [post, requests_settleAll, ← map_subscription_capture, List.flatMap_map]
  refine List.flatMap_congr ?_
  intro d hd
  rw [body_of_mem_capture hd]

/-- The record of an entry tallies the outcomes that name its webhook. -/
theorem get_post (outlet : Outlet) {r : Relay} (hsep : r.registry.Separated r.ledger) (e : Event)
    {x : Entry} (hx : x ∈ r.registry.entries) :
    (r.post outlet e).1.ledger.get x.stats
      = (r.ledger.get x.stats).tally
          ((r.post outlet e).2.outcomes.filter (·.webhookId = x.id)) := by
  have hlt : ∀ d ∈ r.capture e, d.entry.stats < r.ledger.records.length := by
    intro d hd
    exact hsep.lt_length d.entry (entry_of_mem_capture hd)
  -- A delivery counts on the record of `x` exactly when it goes to the webhook of `x`.
  have hnames : (r.capture e).filter (·.entry.stats = x.stats)
      = (r.capture e).filter fun d => (d.outcome outlet).webhookId = x.id := by
    refine List.filter_congr ?_
    intro d hd
    simp only [hsep.stats_eq_iff_id_eq (entry_of_mem_capture hd) hx]
    rfl
  rw [post, get_settleAll outlet hlt, outcomes_settleAll, hnames, List.filter_map]
  rfl

end Relay
end WebhookRelay

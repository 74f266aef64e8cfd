-- SUMMARY: Relevance of events: from the chains and the group names of a request to what is delivered.
import WebhookRelay.Proofs.Event.ChainId
import WebhookRelay.Proofs.Subscription.Registration

/-!
# Relevance

An event is relevant to a subscription when its chain is wanted and its category is known
and of a group that is on. For a subscription made by a request both can be said in the
words of the request: its numbers of chains and its names of groups.
-/

namespace WebhookRelay

namespace Subscription

theorem wantsChain_iff (s : Subscription) (chainId : String) :
    s.wantsChain chainId = true ↔ s.chains = [] ∨ chainId ∈ s.chains := by
  unfold wantsChain
  simp

theorem wantsCategory_iff (s : Subscription) (name : String) :
    s.wantsCategory (Category.ofName? name) = true
      ↔ ∃ c : Category, c.name = name ∧ s.sends.get c.group = true := by
  cases hname : Category.ofName? name with
  | some c =>
    have hc := Category.ofName?_eq_some_iff.1 hname
    constructor
    · intro h
      exact ⟨c, hc, h⟩
    · rintro ⟨d, hd, h⟩
      have hd := Category.ofName?_eq_some_iff.2 hd
      rw [hname] at hd
      cases hd
      exact h
  | none =>
    constructor
    · intro h
      cases h
    · rintro ⟨d, hd, -⟩
      have hd := Category.ofName?_eq_some_iff.2 hd
      rw [hname] at hd
      cases hd

theorem isRelevant_iff (s : Subscription) (e : Event) :
    s.isRelevant e = true ↔ (s.chains = [] ∨ e.chainId ∈ s.chains) ∧
      ∃ c : Category, c.name = e.type ∧ s.sends.get c.group = true := by
  unfold isRelevant Event.category
  rw [Bool.and_eq_true, wantsChain_iff, wantsCategory_iff]

/-- An event of an unknown category is relevant to no subscription. -/
theorem isRelevant_of_unknown {e : Event} (h : e.type ∉ Category.all.map (·.name))
    (s : Subscription) : s.isRelevant e = false := by
  rw [← Bool.not_eq_true, isRelevant_iff]
  rintro ⟨-, c, hc, -⟩
  exact h (List.mem_map.2 ⟨c, Category.mem_all c, hc⟩)

/-- Texts that decode alike are relevant to the same subscriptions. -/
theorem isRelevant_ofText_congr {text₁ text₂ : String}
    (h : Event.decode text₁ = Event.decode text₂) (s : Subscription) :
    (Event.ofText text₁).map s.isRelevant = (Event.ofText text₂).map s.isRelevant := by
  unfold Event.ofText
  rw [h]
  cases Event.decode text₂ with
  | error fault => rfl
  | ok e =>
    cases hvalid : e.validate with
    | error fault => simp [bind, Except.bind, Except.map, hvalid]
    | ok u =>
      simp only [bind, Except.bind, Except.map, hvalid, pure, Except.pure]
      rfl

end Subscription

namespace Registration

theorem validate_of_toSubscription {r : Registration} {id : WebhookId} {s : Subscription}
    (h : r.toSubscription id = .ok s) : r.validate = .ok () := by
  unfold toSubscription applyTo at h
  cases hvalid : r.validate with
  | ok u => rfl
  | error violation =>
    rw [hvalid] at h
    cases h

/-- Relevance to the subscription of a request, in the words of the request. -/
theorem isRelevant_iff {r : Registration} {id : WebhookId} {s : Subscription}
    (hs : r.toSubscription id = .ok s) (e : Event) :
    s.isRelevant e = true ↔
      (r.chains = [] ∨ ∃ n ∈ r.chains, e.chainId = toString n.toNat) ∧
      ∃ name ∈ r.events, ∃ g : Group, g.name = name ∧ ∃ c ∈ g.categories, e.type = c.name := by
  obtain ⟨groups, hnames, hmade⟩ := toSubscription_of_accepted (validate_of_toSubscription hs) id
  rw [hs] at hmade
  cases hmade
  rw [Subscription.isRelevant_iff]
  have hchain : ((r.subscriptionWith id groups).chains = [] ∨
      e.chainId ∈ (r.subscriptionWith id groups).chains)
      ↔ (r.chains = [] ∨ ∃ n ∈ r.chains, e.chainId = toString n.toNat) := by
    simp only [subscriptionWith, List.map_eq_nil_iff, List.mem_map, eq_comm (a := e.chainId)]
  have hcategory : (∃ c : Category, c.name = e.type ∧
      (r.subscriptionWith id groups).sends.get c.group = true)
      ↔ ∃ name ∈ r.events, ∃ g : Group, g.name = name ∧ ∃ c ∈ g.categories, e.type = c.name := by
    constructor
    · rintro ⟨c, hc, hon⟩
      have hgroup : c.group ∈ groups := by
        simpa [subscriptionWith] using hon
      refine ⟨c.group.name, ?_, c.group, rfl, c, ?_, hc.symm⟩
      · rw [← hnames]
        exact List.mem_map_of_mem hgroup
      · exact (Group.mem_categories_iff _ _).2 rfl
    · rintro ⟨name, hname, g, hg, c, hc, htype⟩
      rw [← hnames] at hname
      obtain ⟨x, hx, hxname⟩ := List.mem_map.1 hname
      -- Names tell groups apart, so `g` is among the groups of the request.
      have hxg : x = g := Group.name_injective (hxname.trans hg.symm)
      refine ⟨c, htype.symm, ?_⟩
      rw [(Group.mem_categories_iff g c).1 hc, ← hxg]
      simpa [subscriptionWith] using hx
  rw [hchain, hcategory]

/-- From the names of a request to delivery: which events are relevant to the subscription
of an accepted request, and what makes no difference to it. -/
theorem relevance {r : Registration} (haccepted : r.validate = .ok ()) (id : WebhookId) :
    (∃ s, r.toSubscription id = .ok s ∧
      (∀ e : Event, s.isRelevant e = true ↔
        (r.chains = [] ∨ ∃ n ∈ r.chains, e.chainId = toString n.toNat) ∧
        ∃ name ∈ r.events, ∃ g : Group, g.name = name ∧ ∃ c ∈ g.categories, e.type = c.name) ∧
      (∀ (r' : Registration) (id' : WebhookId) (s' : Subscription),
        r'.toSubscription id' = .ok s' → (∀ n, n ∈ r'.chains ↔ n ∈ r.chains) →
        (∀ name, name ∈ r'.events ↔ name ∈ r.events) →
        ∀ e : Event, s'.isRelevant e = s.isRelevant e)) ∧
    (∀ (e : Event) (s : Subscription), e.type ∉ Category.all.map (·.name) →
      s.isRelevant e = false) ∧
    (∀ n : UInt64, ∃ bare quoted,
      Json.termOf? (toString n.toNat) = some bare ∧
      Json.termOf? ("\"" ++ toString n.toNat ++ "\"") = some quoted ∧
      ∀ text₁ text₂ front key rest complete, Json.textOf? key = some "chainId" →
        Json.scanObject? text₁ = some (front ++ (key, bare) :: rest, complete) →
        Json.scanObject? text₂ = some (front ++ (key, quoted) :: rest, complete) →
        Event.decode text₁ = Event.decode text₂ ∧
        ∀ s : Subscription,
          (Event.ofText text₁).map s.isRelevant = (Event.ofText text₂).map s.isRelevant) ∧
    (∀ (n : UInt64) (rest : String), Json.EndsNumber rest.toList →
      let bare := "\x7b\"chainId\":" ++ toString n.toNat ++ rest
      let quoted := "\x7b\"chainId\":\"" ++ toString n.toNat ++ "\"" ++ rest
      Event.decode bare = Event.decode quoted ∧
      ∀ s : Subscription,
        (Event.ofText bare).map s.isRelevant = (Event.ofText quoted).map s.isRelevant) := by
  have hword : ∀ n : UInt64, n.toNat ≤ Json.significandMax :=
    fun n => Nat.le_of_lt_succ n.toNat_lt
  refine ⟨?_, ?_, ?_, ?_⟩
  · obtain ⟨groups, -, hs⟩ := toSubscription_of_accepted haccepted id
    refine ⟨_, hs, isRelevant_iff hs, ?_⟩
    intro r' id' s' hs' hchains hevents e
    rw [Bool.eq_iff_iff, isRelevant_iff hs', isRelevant_iff hs]
    have hnil : r'.chains = [] ↔ r.chains = [] := by
      simp only [List.eq_nil_iff_forall_not_mem, hchains]
    simp only [hnil, hchains, hevents]
  · intro e s h
    exact Subscription.isRelevant_of_unknown h s
  · intro n
    refine ⟨_, _, Json.termOf?_toString n.toNat, Json.termOf?_quote_toString n.toNat, ?_⟩
    intro text₁ text₂ front key rest complete hkey h₁ h₂
    have hdecode := Event.decode_congr h₁ h₂ (Event.Draft.add_numeral hkey (hword n))
    exact ⟨hdecode, Subscription.isRelevant_ofText_congr hdecode⟩
  · intro n rest hrest
    have hdecode := Event.decode_first_chainId (hword n) hrest
    exact ⟨hdecode, Subscription.isRelevant_ofText_congr hdecode⟩

/-- A request for reorganisations on two chains, and what makes no difference to it. -/
theorem relevance_of_reorgs :
    let r : Registration := ⟨"d", "http://[::1]/", true, "", [1, 18446744073709551615], [],
      ["SEND_REORGS"]⟩
    let r' : Registration := ⟨"d", "http://[::1]/", true, "",
      [18446744073709551615, 1, 18446744073709551615], [], ["SEND_REORGS", "SEND_REORGS"]⟩
    r.validate = .ok () ∧
    ∃ s s', r.toSubscription ⟨1⟩ = .ok s ∧ r'.toSubscription ⟨2⟩ = .ok s' ∧
      s.isRelevant (.new "18446744073709551615" "REORG_DETECTED" "") = true ∧
      (∀ e : Event, s'.isRelevant e = s.isRelevant e) ∧
      s.isRelevant (.new "1" "REORG_UNDONE" "") = false ∧
      Event.decode "\x7b\"type\":\"A\",\"chainId\":7\x7d"
        = Event.decode "\x7b\"type\":\"A\",\"chainId\":\"7\"\x7d" ∧
      Event.decode "\x7b\"chainId\":7\x7d" = Event.decode "\x7b\"chainId\":\"7\"\x7d" := by
  intro r r'
  have haccepted : r.validate = .ok () := (validate_eq_ok_iff r).2
    ⟨by decide, by decide, by decide, isWebhookUrl_loopback, by decide, by decide, by decide,
      [.reorgs], rfl⟩
  have haccepted' : r'.validate = .ok () := (validate_eq_ok_iff r').2
    ⟨by decide, by decide, by decide, isWebhookUrl_loopback, by decide, by decide, by decide,
      [.reorgs, .reorgs], rfl⟩
  obtain ⟨groups, -, hs'⟩ := toSubscription_of_accepted haccepted' ⟨2⟩
  obtain ⟨⟨s, hs, hrelevant, hsame⟩, hunknown, hmember, hfirst⟩ := relevance haccepted ⟨1⟩
  obtain ⟨bare, quoted, hbare, hquoted, hdecode⟩ := hmember 7
  refine ⟨haccepted, s, r'.subscriptionWith ⟨2⟩ groups, hs, hs', ?_, ?_, ?_, ?_, ?_⟩
  · refine (hrelevant _).2 ⟨.inr ⟨18446744073709551615, by decide, rfl⟩, "SEND_REORGS", by decide,
      .reorgs, rfl, .reorgDetected, by decide, rfl⟩
  · exact hsame r' ⟨2⟩ _ hs' (by simp [r, r']) (by simp [r, r'])
  · exact hunknown _ s (by decide)
  · have hb := hbare.symm.trans (Json.termOf?_toString 7)
    have hq := hquoted.symm.trans (Json.termOf?_quote_toString 7)
    cases hb
    cases hq
    exact (hdecode _ _ [(['t', 'y', 'p', 'e'].map .char, .string [.char 'A'])] Event.chainIdKey []
      true Event.textOf?_chainIdKey (by cbv) (by cbv)).1
  · exact (hfirst 7 "\x7d" (by simp [Json.EndsNumber]; decide)).1

end Registration
end WebhookRelay

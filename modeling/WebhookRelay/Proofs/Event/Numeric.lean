-- SUMMARY: Integer chain ids keep their digits when they fit 64 bits, and become the text of a double when they do not.
import WebhookRelay.Proofs.Event.Acceptance
import WebhookRelay.Proofs.Json.Integer
import WebhookRelay.Proofs.Subscription.Relevance

/-!
# Numeric chain ids

A message may name its chain by a number. A literal that writes an integer of 64 bits is taken
up as its own text. A longer one, and minus zero, is read as a double, and the chain id is the
text of the double, which is never that of an integer (`chainId_eq_literal_iff`). So long chain
ids are not found by subscriptions that list them, and different ones can become one.
-/

namespace WebhookRelay

namespace Event

open Json

/-! ## Chain ids -/

/-- Whether an event was decoded from a message that names its chain by an integer literal,
which stands in it as some characters. -/
structure NamesChain (e : Event) (l : Literal) (cs : List Char) : Prop where
  accepted : ∃ payload, ofPayload payload = .ok e
  named : ∃ members, Document e.body (.object members) ∧
    .number l ∈ occurrences "chainId" members
  isInteger : l.IsInteger cs

namespace NamesChain

variable {e : Event} {l : Literal} {cs : List Char}

/-- The chain id is the text of what the literal is read as. -/
theorem exists_number? (h : e.NamesChain l cs) : ∃ n, l.number? = some n ∧ e.chainId = n.text := by
  obtain ⟨payload, he⟩ := h.accepted
  obtain ⟨members, hdocument, hmem⟩ := h.named
  obtain ⟨-, members', pairs, hdocument', hpairs, hshows, -⟩ := ofPayload_shows he
  cases hdocument.unique hdocument'
  obtain ⟨v, hvalues, hnames⟩ := hshows.chainId
  have hvalue := List.mem_map_of_mem (f := Term.valueWith? nothingSpecial (maxDepth - 1)) hmem
  rw [map_valueWith?_occurrences hpairs, hvalues, List.map_singleton, List.mem_singleton] at hvalue
  obtain ⟨n, hn, rfl⟩ := Option.map_eq_some_iff.1 hvalue
  rcases hnames with hs | ⟨m, hm, htext⟩ | ⟨_, _, hobject, -⟩
  · cases hs
  · cases hm
    exact ⟨n, hn, htext⟩
  · cases hobject

theorem chainId_of_fits (h : e.NamesChain l cs) (hfits : l.Fits) :
    e.chainId = (Number.integer l.integer).text := by
  obtain ⟨n, hn, htext⟩ := h.exists_number?
  obtain ⟨-, hinteger⟩ | ⟨hnot, -⟩ := h.isInteger.number?_cases
  · rw [hinteger] at hn
    cases hn
    exact htext
  · exact absurd hfits hnot

theorem chainId_of_not_fits (h : e.NamesChain l cs) (hfits : ¬ l.Fits) :
    e.chainId ≠ String.ofList cs ∧ ∀ m, e.chainId ≠ (Number.integer m).text := by
  obtain ⟨n, hn, htext⟩ := h.exists_number?
  rw [htext]
  exact h.isInteger.text_of_not_fits hfits hn

theorem chainId_eq_ofList_iff (h : e.NamesChain l cs) : e.chainId = String.ofList cs ↔ l.Fits := by
  constructor
  · intro heq
    by_contra hfits
    exact (h.chainId_of_not_fits hfits).1 heq
  · exact fun hfits => (h.chainId_of_fits hfits).trans (h.isInteger.text_of_fits hfits)

/-- The chain ids of different integers differ if one of them fits. -/
theorem chainId_ne {e' : Event} {l' : Literal} {cs' : List Char} (h : e.NamesChain l cs)
    (h' : e'.NamesChain l' cs') (hfits : l.Fits) (hne : l'.integer ≠ l.integer) :
    e'.chainId ≠ e.chainId := by
  rw [h.chainId_of_fits hfits]
  by_cases hfits' : l'.Fits
  · rw [h'.chainId_of_fits hfits']
    exact fun heq => hne (Number.text_integer_inj.1 heq)
  · exact (h'.chainId_of_not_fits hfits').2 _

end NamesChain

/-- What a message with an integer chain id is matched by. The chain id is the text of the
literal exactly when the literal fits 64 bits, and only then does a subscription to just this
chain hear of the event. As long as one of two different integers fits, the chain ids differ. -/
theorem chainId_eq_literal_iff {e : Event} {l : Literal} {cs : List Char}
    (h : e.NamesChain l cs) :
    (e.chainId = String.ofList cs ↔ l.Fits) ∧
    (∀ s : Subscription, l.Fits → String.ofList cs ∈ s.chains →
      s.isRelevant e = s.wantsCategory e.category) ∧
    (∀ s : Subscription, s.chains = [String.ofList cs] →
      (s.isRelevant e = true ↔ l.Fits ∧ s.wantsCategory e.category = true)) ∧
    ∀ (e' : Event) (l' : Literal) (cs' : List Char), e'.NamesChain l' cs' →
      l'.integer ≠ l.integer → l.Fits ∨ l'.Fits → e'.chainId ≠ e.chainId := by
  have hiff := h.chainId_eq_ofList_iff
  refine ⟨hiff, ?listed, ?only, ?different⟩
  case listed =>
    intro s hfits hlisted
    have hwants : s.wantsChain e.chainId = true := by
      rw [hiff.2 hfits, Subscription.wantsChain_iff]
      exact .inr hlisted
    rw [Subscription.isRelevant, hwants, Bool.true_and]
  case only =>
    intro s hchains
    rw [Subscription.isRelevant, Bool.and_eq_true, Subscription.wantsChain_iff, hchains,
      List.mem_singleton, hiff]
    simp
  case different =>
    intro e' l' cs' h' hne hfits
    rcases hfits with hfits | hfits
    · exact h.chainId_ne h' hfits hne
    · exact (h'.chainId_ne h hfits (Ne.symm hne)).symm

/-- A message of a chain, as the chain id stands in it. -/
def chainText (chain : String) : String :=
  "\x7b\"chainId\":" ++ chain ++ ",\"type\":\"SAFE_CREATED\"\x7d"

/-- The greatest chain id that fits is kept, and a subscription to it hears of the event. -/
theorem chainId_eq_literal_iff_of_greatest :
    ∃ e l, e.NamesChain l "18446744073709551615".toList ∧
      e.chainId = "18446744073709551615" ∧
      ∀ s : Subscription, s.chains = ["18446744073709551615"] → s.sends.get .safeCreations = true →
        s.isRelevant e = true := by
  let text := chainText "18446744073709551615"
  let e : Event := ⟨"18446744073709551615", "", "SAFE_CREATED", [], some text⟩
  let l : Literal :=
    ⟨false, [1, 8, 4, 4, 6, 7, 4, 4, 0, 7, 3, 7, 0, 9, 5, 5, 1, 6, 1, 5], none, none⟩
  have hevent : ofPayload text.toUTF8 = .ok e := ofPayload_eq_ok_iff.2 ⟨text, rfl, by cbv⟩
  obtain ⟨members, hscan, hmem⟩ : ∃ ms, scanObject? text = some (ms, true) ∧
      occurrences "chainId" ms = [.number l] :=
    ⟨_, by cbv, by cbv⟩
  have hnames : e.NamesChain l "18446744073709551615".toList := {
    accepted := ⟨_, hevent⟩
    named := ⟨members, scanObject?_eq_some_iff.1 hscan, hmem ▸ List.mem_singleton_self _⟩
    isInteger := ⟨writesNumber_of_readLiteral (by cbv), rfl, rfl⟩ }
  obtain ⟨hiff, -, honly, -⟩ := chainId_eq_literal_iff hnames
  have hfits : l.Fits := hiff.1 (by cbv)
  exact ⟨e, l, hnames, rfl, fun s hchains hsends => (honly s hchains).2 ⟨hfits, hsends⟩⟩

/-- The next integers are two chains with one chain id, which is that of neither. -/
theorem chains_collapse :
    let chainOf := fun chain => (ofPayload (chainText chain).toUTF8).toOption.map (·.chainId)
    chainOf "18446744073709551616" = some "1.8446744073709552e+19" ∧
    chainOf "18446744073709551617" = some "1.8446744073709552e+19" ∧
    chainOf "-0" = some "-0.0" := by
  decide +kernel

end Event
end WebhookRelay

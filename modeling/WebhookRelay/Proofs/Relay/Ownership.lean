-- SUMMARY: Whose record is whose while deliveries and refreshes come between each other.
import WebhookRelay.Proofs.Relay.Traffic

/-!
# Ownership of records

A delivery under way counts on the record of the entry that it was captured with, even
when a refresh has replaced that entry meanwhile. `Traffic.Sound` says that this record
never becomes that of another webhook: entries have records of their own, and an entry
that shares the record of a delivery has its id. Every step preserves it
(`sound_step`).
-/

namespace WebhookRelay
namespace Traffic

/-- What holds at any time of the entries, the deliveries and the refresh under way. -/
structure Sound (t : Traffic) : Prop where
  separated : t.relay.Separated
  /-- A refresh works on the registry that is there, and evaluates entries of it. -/
  refreshing : ∀ f, t.refreshing = some f →
    f.current = t.relay.registry ∧ ∀ e ∈ f.pending, e ∈ t.relay.registry.entries
  begun : ∀ d ∈ t.begun, d.entry.stats < t.relay.ledger.records.length
  owned : ∀ d ∈ t.begun, ∀ x ∈ t.relay.registry.entries, x.stats = d.entry.stats →
    x.id = d.entry.id
  settled : ∀ s ∈ t.settled, t.begun[s.number]? = some s.delivery
  named : ∀ s ∈ t.settled, s.outcome.webhookId = s.delivery.entry.id
  /-- No delivery comes to its end twice. -/
  once : (t.settled.map (·.number)).Nodup

theorem sound_start {r : Relay} (h : r.Separated) : (start r).Sound where
  separated := h
  refreshing := by simp [start]
  begun := by simp [start]
  owned := by simp [start]
  settled := by simp [start]
  named := by simp [start]
  once := List.nodup_nil

variable {t u : Traffic} {e : TrafficEvent}

/-- Nothing but the deliveries, the registry and the number of records matters. -/
theorem Sound.of_eq (h : t.Sound) (hregistry : u.relay.registry = t.relay.registry)
    (hledger : u.relay.ledger.records.length = t.relay.ledger.records.length)
    (hbegun : u.begun = t.begun) (hsettled : u.settled = t.settled)
    (hrefreshing : ∀ f, u.refreshing = some f →
      f.current = t.relay.registry ∧ ∀ e ∈ f.pending, e ∈ t.relay.registry.entries) : u.Sound where
  separated := by
    rw [Relay.Separated, hregistry]
    exact h.separated.of_length_le (Nat.le_of_eq hledger.symm)
  refreshing := by
    rw [hregistry]
    exact hrefreshing
  begun := by
    rw [hbegun, hledger]
    exact h.begun
  owned := by
    rw [hbegun, hregistry]
    exact h.owned
  settled := by
    rw [hsettled, hbegun]
    exact h.settled
  named := by
    rw [hsettled]
    exact h.named
  once := by
    rw [hsettled]
    exact h.once

theorem Sound.begin (h : t.Sound) (feed : Feed) (event : Event) :
    Sound { t with relay := { t.relay with feed }, begun := t.begun ++ t.relay.capture event } where
  separated := h.separated
  refreshing := h.refreshing
  begun := by
    intro d hd
    rcases List.mem_append.1 hd with hd | hd
    · exact h.begun d hd
    · exact h.separated.lt_length _ (Relay.entry_of_mem_capture hd)
  owned := by
    intro d hd x hx hstats
    rcases List.mem_append.1 hd with hd | hd
    · exact h.owned d hd x hx hstats
    · exact (h.separated.stats_eq_iff_id_eq hx (Relay.entry_of_mem_capture hd)).1 hstats
  settled := by
    intro s hs
    have hbegun := h.settled s hs
    obtain ⟨hlt, -⟩ := List.getElem?_eq_some_iff.1 hbegun
    rw [List.getElem?_append_left hlt]
    exact hbegun
  named := h.named
  once := h.once

theorem Sound.settle (h : t.Sound) {number : Nat} {d : InFlight} (hd : t.begun[number]? = some d)
    (hopen : number ∉ t.settled.map (·.number)) {o : Outcome} (ho : o.webhookId = d.entry.id)
    (requests : List HttpRequest) :
    Sound { t with
      relay := t.relay.settle d o
      settled := t.settled ++ [⟨number, d, o, requests⟩] } where
  separated := h.separated.of_length_le (Nat.le_of_eq (Ledger.length_records_modify ..).symm)
  refreshing := h.refreshing
  begun := by
    intro x hx
    rw [Relay.settle, Ledger.length_records_modify]
    exact h.begun x hx
  owned := h.owned
  settled := by
    intro s hs
    rcases List.mem_append.1 hs with hs | hs
    · exact h.settled s hs
    · cases List.mem_singleton.1 hs
      exact hd
  named := by
    intro s hs
    rcases List.mem_append.1 hs with hs | hs
    · exact h.named s hs
    · cases List.mem_singleton.1 hs
      exact ho
  once := by
    rw [List.map_append]
    refine List.nodup_append.2 ⟨h.once, List.nodup_singleton _, ?_⟩
    intro a ha b hb heq
    subst heq
    cases List.mem_singleton.1 hb
    exact hopen ha

theorem Sound.swap (h : t.Sound) {f : Refreshing} (hf : t.refreshing = some f) (loaded : Time)
    (store : Store) :
    Sound { t with
      relay := { t.relay with
        registry := (f.current.reload loaded t.relay.ledger store f.verdicts).1
        ledger := (f.current.reload loaded t.relay.ledger store f.verdicts).2.1 }
      refreshing := none } := by
  obtain ⟨hcurrent, -⟩ := h.refreshing f hf
  rw [hcurrent]
  have hgrow := Registry.length_le_entriesFor t.relay.registry loaded t.relay.ledger store.active
  refine ⟨?separated, nofun, ?begun, ?owned, h.settled, h.named, h.once⟩
  case separated => exact h.separated.entriesFor (Store.nodup_ids_active store) rfl
  case begun =>
    intro d hd
    exact Nat.lt_of_lt_of_le (h.begun d hd) hgrow
  case owned =>
    intro d hd x hx hstats
    rcases Registry.placed_of_mem_entriesFor _ _ hx with ⟨y, hy, hxy⟩ | ⟨-, hle, -, -⟩
    · obtain ⟨hmem, hid⟩ := (Registry.find?_eq_some_iff _).1 hy
      rw [← hid]
      exact h.owned d hd y hmem (hxy.symm.trans hstats)
    · exact absurd (hstats ▸ h.begun d hd) (Nat.not_lt.2 hle)

theorem sound_step (h : t.Sound) (hstep : t.Step e u) : u.Sound := by
  cases hstep with
  | edited edit => exact h.of_eq rfl rfl rfl rfl h.refreshing
  | dropped => exact h
  | begun _ feed event => exact h.begin feed event
  | settled number outlet d hd hopen => exact h.settle hd hopen rfl _
  | refreshBegan checked =>
    refine h.of_eq rfl rfl rfl rfl ?_
    rintro f ⟨⟩
    exact ⟨rfl, fun e he => he⟩
  | evaluated x f hf =>
    obtain ⟨hcurrent, hpending⟩ := h.refreshing f hf
    refine h.of_eq rfl (Checkup.length_records_visit ..) rfl rfl ?_
    rintro g ⟨⟩
    exact ⟨hcurrent, fun y hy => hpending y (List.mem_of_mem_erase hy)⟩
  | readFailed => exact h.of_eq rfl rfl rfl rfl nofun
  | storeRead f hf =>
    refine h.of_eq rfl rfl rfl rfl ?_
    rintro g ⟨⟩
    exact h.refreshing f hf
  | swapped loaded f store hf => exact h.swap hf loaded store

theorem sound_run (h : t.Sound) {events : List TrafficEvent} (hrun : t.run? events = some u) :
    u.Sound :=
  Run.induction_on (motive := fun _ m => m.Sound) h
    (fun _ _ _ _ _ hm hstep => sound_step hm (step_of_step? hstep)) hrun

end Traffic
end WebhookRelay

-- SUMMARY: Accepted registration requests: what they satisfy and which subscription they make.
import WebhookRelay.Subscription.Registration
import Mathlib

/-!
# Accepted requests

`Registration.Valid` says what a request is checked for, and a request is accepted
exactly when it has all of it. The group names of an accepted request then name
groups, one each, and the request makes a subscription.
-/

namespace WebhookRelay

/-! ## Group names -/

theorem Group.name_injective : Function.Injective Group.name := by
  intro g h heq
  have hlookup := ofName?_name g
  rw [heq, ofName?_name] at hlookup
  exact (Option.some.inj hlookup).symm

/-- A list of names stands for groups exactly when each name does. -/
theorem Group.exists_map_name_eq_iff {names : List String} :
    (∃ groups : List Group, groups.map (·.name) = names) ↔
      ∀ name ∈ names, ∃ g : Group, g.name = name := by
  simpa using Set.ext_iff.1 (Set.range_list_map Group.name) names

namespace Registration

theorem groupsOf_map_name (groups : List Group) :
    groupsOf (groups.map (·.name)) = .ok groups := by
  induction groups with
  | nil => rfl
  | cons g groups ih =>
    simp only [List.map_cons, groupsOf, Group.ofName?_name, ih]
    rfl

theorem map_name_of_groupsOf {names : List String} {groups : List Group}
    (h : groupsOf names = .ok groups) : groups.map (·.name) = names := by
  induction names generalizing groups with
  | nil =>
    cases h
    rfl
  | cons name names ih =>
    unfold groupsOf at h
    cases hname : Group.ofName? name with
    | none => simp [hname] at h
    | some g =>
      rw [hname] at h
      cases hrest : groupsOf names with
      | error violation => simp [hrest, Except.map] at h
      | ok rest =>
        rw [hrest] at h
        cases h
        rw [List.map_cons, Group.ofName?_eq_some_iff.1 hname, ih hrest]

/-- Names are read as groups exactly when each is the name of one. -/
theorem groupsOf_eq_ok_iff {names : List String} {groups : List Group} :
    groupsOf names = .ok groups ↔ groups.map (·.name) = names := by
  constructor
  · exact map_name_of_groupsOf
  · rintro rfl
    exact groupsOf_map_name groups

/-! ## Checks -/

/-- What a request is checked for. -/
structure Valid (r : Registration) : Prop where
  described : r.description ≠ ""
  description_le : r.description.length ≤ maxFieldLength
  url_le : r.url.length ≤ maxFieldLength
  url : isWebhookUrl r.url = true
  addresses_le : r.addresses.length ≤ maxAddresses
  addresses : ∀ a ∈ r.addresses, isEthereumAddress a = true
  events : r.events ≠ []
  groups : ∃ groups : List Group, groups.map (·.name) = r.events

theorem check_eq_ok_iff {c : Prop} [Decidable c] {v : Violation} {rest : Except Violation Unit} :
    (if c then .error v else rest) = .ok () ↔ ¬ c ∧ rest = .ok () := by
  split <;> simp [*]

/-- A request is accepted exactly when it has what it is checked for. -/
theorem validate_eq_ok_iff (r : Registration) : r.validate = .ok () ↔ r.Valid := by
  have hgroups : r.groups.map (fun _ => ()) = .ok ()
      ↔ ∃ groups : List Group, groups.map (·.name) = r.events := by
    simp only [← groupsOf_eq_ok_iff]
    unfold groups
    cases groupsOf r.events <;> simp [Except.map]
  unfold validate
  simp only [check_eq_ok_iff]
  cases hfound : r.addresses.find? (!isEthereumAddress ·) with
  | some a =>
    have ha := List.find?_some hfound
    constructor
    · rintro ⟨-, -, -, -, -, h⟩
      cases h
    · intro h
      simp [h.addresses a (List.mem_of_find?_eq_some hfound)] at ha
  | none =>
    have haddresses : ∀ a ∈ r.addresses, isEthereumAddress a = true := by
      simpa using hfound
    simp only [check_eq_ok_iff, hgroups]
    constructor
    · rintro ⟨hdescribed, hdescription, hurl, hweb, hcount, hevents, hnames⟩
      exact ⟨by simpa using hdescribed, by omega, by omega, by simpa using hweb, by omega,
        haddresses, by simpa using hevents, hnames⟩
    · intro h
      exact ⟨by simpa using h.described, Nat.not_lt.2 h.description_le, Nat.not_lt.2 h.url_le,
        by simp [h.url], Nat.not_lt.2 h.addresses_le, by simpa using h.events, h.groups⟩

theorem isWebhookUrl_loopback : isWebhookUrl "http://[::1]/" = true := by
  cbv

/-- The subscription of a request whose names stand for some groups. -/
def subscriptionWith (r : Registration) (id : WebhookId) (groups : List Group) : Subscription :=
  ⟨id, r.url, r.description, r.isActive, r.authorization, r.chains.map fun n => toString n.toNat,
    r.addresses, .ofGroups groups⟩

theorem chains_subscriptionWith (r : Registration) (id : WebhookId) (groups : List Group) :
    (r.subscriptionWith id groups).chains = (r.chains.map UInt64.toNat).map toString := by
  rw [List.map_map]
  rfl

/-- An accepted request changes all but the id, whatever was there. -/
theorem applyTo_of_accepted {r : Registration} (h : r.validate = .ok ()) :
    ∃ groups : List Group, groups.map (·.name) = r.events ∧
      ∀ s : Subscription, r.applyTo s = .ok (r.subscriptionWith s.id groups) := by
  obtain ⟨groups, hnames⟩ := ((validate_eq_ok_iff r).1 h).groups
  have hgroups : r.groups = .ok groups := groupsOf_eq_ok_iff.2 hnames
  refine ⟨groups, hnames, fun s => ?_⟩
  rw [applyTo, h, hgroups]
  rfl

/-- An accepted request makes a subscription. -/
theorem toSubscription_of_accepted {r : Registration} (h : r.validate = .ok ()) (id : WebhookId) :
    ∃ groups : List Group, groups.map (·.name) = r.events ∧
      r.toSubscription id = .ok (r.subscriptionWith id groups) := by
  obtain ⟨groups, hnames, happly⟩ := applyTo_of_accepted h
  exact ⟨groups, hnames, happly _⟩

theorem applyTo_of_refused {r : Registration} {v : Violation} (h : r.validate = .error v)
    (s : Subscription) : r.applyTo s = .error v := by
  rw [applyTo, h]
  rfl

end Registration
end WebhookRelay

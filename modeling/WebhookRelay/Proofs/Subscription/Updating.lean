-- SUMMARY: Updating subscriptions: what a sequence of updates leaves, and what it forgets.
import WebhookRelay.Proofs.Subscription.Registration

/-!
# Updates

A subscription is changed switch by switch, by a list of groups, or by a whole request. A request is
checked before anything is written, so a refused one leaves every field as it is
(`perform_apply_of_refused`).
An accepted one writes every field but the id, and the other two write switches only.

So each switch is as it was last written (`get_updated`), and all else is as the last accepted
request has it (`updated_withSends`).
-/

namespace WebhookRelay

/-! ## Requests in place -/

namespace Registration

/-- Overwrites a subscription in place, one field after the other. A violation ends this where it
is found, with the fields as they are by then. -/
def overwrite (r : Registration) : ExceptT Violation (StateM Subscription) Unit := do
  liftExcept r.validate
  let groups ← liftExcept r.groups
  modify ({ · with url := r.url })
  modify ({ · with description := r.description })
  modify ({ · with isActive := r.isActive })
  modify ({ · with authorization := r.authorization })
  modify ({ · with chains := r.chains.map fun n => toString n.toNat })
  modify ({ · with addresses := r.addresses })
  for g in Group.all do
    modify (·.setSends g (groups.contains g))

/-- Overwriting in place makes the subscription that applying the request gives, or none of it. -/
theorem run_overwrite (r : Registration) (s : Subscription) :
    r.overwrite.run.run s = match r.applyTo s with
      | .ok changed => (.ok (), changed)
      | .error v => (.error v, s) := by
  unfold overwrite applyTo
  cases hvalid : r.validate with
  | error v => rfl
  | ok u =>
    cases hgroups : r.groups with
    | error v => rfl
    | ok groups => rfl

end Registration

/-! ## Updates -/

/-- A change of a subscription. -/
inductive Update where
  /-- One group is switched. -/
  | switch (g : Group) (on : Bool)
  /-- Exactly the listed groups are switched on. -/
  | withGroups (groups : List Group)
  /-- A request is applied. -/
  | apply (r : Registration)

namespace Update

/-- Carries an update out: its answer, and the subscription as it is then. -/
def perform (s : Subscription) : Update → Except Violation Unit × Subscription
  | .switch g on => (.ok (), s.setSends g on)
  | .withGroups groups => (.ok (), s.withGroups groups)
  | .apply r => r.overwrite.run.run s

/-- What an update writes to the switch of a group: nothing when it is about another group, or
fails. -/
def written? (g : Group) : Update → Option Bool
  | .switch h on => if h = g then some on else none
  | .withGroups groups => some (groups.contains g)
  | .apply r => if r.validate.isOk then some (r.events.contains g.name) else none

/-- The request that an update applies, if it is accepted. -/
def accepted? : Update → Option Registration
  | .apply r => if r.validate.isOk then some r else none
  | _ => none

end Update

/-- The subscription after some updates, failed ones among them. -/
def Subscription.updated (s : Subscription) (updates : List Update) : Subscription :=
  updates.foldl (fun s u => (u.perform s).2) s

/-! ## One update -/

namespace Update

theorem perform_apply_of_refused {r : Registration} {v : Violation} (h : r.validate = .error v)
    (s : Subscription) : (Update.apply r).perform s = (.error v, s) := by
  rw [perform, Registration.run_overwrite, Registration.applyTo_of_refused h]

theorem perform_apply_of_accepted {r : Registration} (h : r.validate = .ok ()) :
    ∃ groups : List Group, groups.map (·.name) = r.events ∧ ∀ s : Subscription,
      (Update.apply r).perform s = (.ok (), r.subscriptionWith s.id groups) := by
  obtain ⟨groups, hnames, happly⟩ := Registration.applyTo_of_accepted h
  refine ⟨groups, hnames, fun s => ?_⟩
  rw [perform, Registration.run_overwrite, happly]

@[simp] theorem id_perform (s : Subscription) (u : Update) : (u.perform s).2.id = s.id := by
  cases u with
  | switch | withGroups => rfl
  | apply r =>
    cases h : r.validate with
    | error v => rw [perform_apply_of_refused h]
    | ok =>
      obtain ⟨groups, -, hperform⟩ := perform_apply_of_accepted h
      rw [hperform]
      rfl

/-- An update writes the switches it is about and no others. -/
theorem get_perform (s : Subscription) (u : Update) (g : Group) :
    (u.perform s).2.sends.get g = (u.written? g).getD (s.sends.get g) := by
  cases u with
  | switch h on =>
    simp only [perform, Subscription.setSends, Switches.get_set, written?, eq_comm (a := h)]
    split <;> rfl
  | withGroups groups => exact Switches.get_ofGroups groups g
  | apply r =>
    cases h : r.validate with
    | error v =>
      rw [perform_apply_of_refused h, written?, h]
      rfl
    | ok =>
      obtain ⟨groups, hnames, hperform⟩ := perform_apply_of_accepted h
      have hname : r.events.contains g.name = groups.contains g := by
        rw [Bool.eq_iff_iff, List.contains_iff_mem, List.contains_iff_mem, ← hnames,
          List.mem_map_of_injective Group.name_injective]
      rw [hperform, written?, h, hname]
      exact Switches.get_ofGroups groups g

/-- Apart from the switches only an accepted request changes anything. -/
theorem perform_withSends (s : Subscription) (u : Update) (sends : Switches) :
    { (u.perform s).2 with sends } =
      u.accepted?.elim { s with sends } fun r => { r.subscriptionWith s.id [] with sends } := by
  cases u with
  | switch | withGroups => rfl
  | apply r =>
    cases h : r.validate with
    | error v =>
      rw [perform_apply_of_refused h, accepted?, h]
      rfl
    | ok =>
      obtain ⟨groups, -, hperform⟩ := perform_apply_of_accepted h
      rw [hperform, accepted?, h]
      rfl

end Update

/-! ## Many updates -/

namespace Subscription

theorem updated_append (s : Subscription) (us vs : List Update) :
    s.updated (us ++ vs) = (s.updated us).updated vs :=
  List.foldl_append

theorem updated_concat (s : Subscription) (us : List Update) (u : Update) :
    s.updated (us ++ [u]) = (u.perform (s.updated us)).2 :=
  updated_append s us [u]

theorem id_updated (s : Subscription) (us : List Update) : (s.updated us).id = s.id := by
  induction us using List.reverseRecOn with
  | nil => rfl
  | append_singleton us u ih => rw [updated_concat, Update.id_perform, ih]

/-- A switch is as it was written last. -/
theorem get_updated (s : Subscription) (us : List Update) (g : Group) :
    (s.updated us).sends.get g = (us.filterMap (·.written? g)).getLast?.getD (s.sends.get g) := by
  induction us using List.reverseRecOn with
  | nil => rfl
  | append_singleton us u ih =>
    rw [updated_concat, Update.get_perform, ih, List.filterMap_append]
    cases h : u.written? g <;> simp [h]

/-- All but the switches is as the last accepted request has it. -/
theorem updated_withSends (s : Subscription) (us : List Update) (sends : Switches) :
    { s.updated us with sends } = (us.filterMap (·.accepted?)).getLast?.elim { s with sends }
      fun r => { r.subscriptionWith s.id [] with sends } := by
  induction us using List.reverseRecOn with
  | nil => rfl
  | append_singleton us u ih =>
    rw [updated_concat, Update.perform_withSends, ih, id_updated, List.filterMap_append]
    cases h : u.accepted? <;> simp [h]

theorem updated_cons (s : Subscription) (u : Update) (us : List Update) :
    s.updated (u :: us) = (u.perform s).2.updated us := rfl

/-- What was done before a request that is accepted makes no difference after it. -/
theorem updated_append_apply {r : Registration} (h : r.validate = .ok ()) (s : Subscription)
    (before after : List Update) :
    s.updated (before ++ .apply r :: after) = s.updated (.apply r :: after) := by
  obtain ⟨groups, -, hperform⟩ := Update.perform_apply_of_accepted h
  simp only [updated_append, updated_cons, hperform, id_updated]

end Subscription

theorem Switches.ofGroups_congr {groups groups' : List Group}
    (h : ∀ g, g ∈ groups' ↔ g ∈ groups) : ofGroups groups' = ofGroups groups := by
  have hcontains : ∀ g, groups'.contains g = groups.contains g := by
    intro g
    rw [Bool.eq_iff_iff, List.contains_iff_mem, List.contains_iff_mem, h]
  simp only [ofGroups, hcontains]

/-- The order of the names in a request, and how often they stand there, make no difference. -/
theorem Update.perform_apply_congr {r : Registration} (h : r.validate = .ok ())
    {events : List String} (hevents : ∀ name, name ∈ events ↔ name ∈ r.events) (s : Subscription) :
    (Update.apply { r with events }).perform s = (Update.apply r).perform s := by
  have hvalid := (Registration.validate_eq_ok_iff r).1 h
  obtain ⟨groups, hnames, hperform⟩ := perform_apply_of_accepted h
  have hvalid' : Registration.Valid { r with events } := by
    refine { hvalid with events := ?_, groups := ?_ }
    · rintro rfl
      exact hvalid.events (List.eq_nil_iff_forall_not_mem.2 fun name hname =>
        absurd ((hevents name).2 hname) List.not_mem_nil)
    · rw [Group.exists_map_name_eq_iff]
      intro name hname
      exact Group.exists_map_name_eq_iff.1 ⟨groups, hnames⟩ name ((hevents name).1 hname)
  obtain ⟨groups', hnames', hperform'⟩ :=
    perform_apply_of_accepted ((Registration.validate_eq_ok_iff _).2 hvalid')
  have hgroups : ∀ g, g ∈ groups' ↔ g ∈ groups := by
    intro g
    rw [← List.mem_map_of_injective Group.name_injective, hnames', hevents, ← hnames,
      List.mem_map_of_injective Group.name_injective]
  rw [hperform, hperform']
  simp only [Registration.subscriptionWith, Switches.ofGroups_congr hgroups]

/-- Updates are atomic and forget what was there before. A refused request changes nothing. An
accepted one makes the subscription that it would make under the same id, from whatever was there
and whatever was done before; the order of its names and their repetition do not tell. After any
updates the id is the same, each switch is as it was written last, and all else is as the last
accepted request has it. -/
theorem Subscription.updates_forget (s : Subscription) :
    (∀ (r : Registration) (v : Violation), r.validate = .error v →
      (Update.apply r).perform s = (.error v, s) ∧ r.applyTo s = .error v ∧
        r.toSubscription s.id = .error v) ∧
    (∀ r : Registration, r.validate = .ok () →
      (∃ groups : List Group, groups.map (·.name) = r.events ∧ ∀ t : Subscription,
        (Update.apply r).perform t = (.ok (), r.subscriptionWith t.id groups) ∧
        r.applyTo t = .ok (r.subscriptionWith t.id groups) ∧
        r.toSubscription t.id = .ok (r.subscriptionWith t.id groups)) ∧
      (∀ before after : List Update,
        s.updated (before ++ .apply r :: after) = s.updated (.apply r :: after)) ∧
      ∀ events : List String, (∀ name, name ∈ events ↔ name ∈ r.events) →
        (Update.apply { r with events }).perform s = (Update.apply r).perform s) ∧
    ∀ updates : List Update,
      (s.updated updates).id = s.id ∧
      (∀ g : Group, (s.updated updates).sends.get g
        = (updates.filterMap (·.written? g)).getLast?.getD (s.sends.get g)) ∧
      { s.updated updates with sends := s.sends }
        = (updates.filterMap (·.accepted?)).getLast?.elim s
            fun r => { r.subscriptionWith s.id [] with sends := s.sends } := by
  refine ⟨?refused, ?accepted, ?many⟩
  case refused =>
    intro r v h
    exact ⟨Update.perform_apply_of_refused h s, Registration.applyTo_of_refused h s,
      Registration.applyTo_of_refused h _⟩
  case accepted =>
    intro r h
    refine ⟨?_, updated_append_apply h s, fun events hevents =>
      Update.perform_apply_congr h hevents s⟩
    obtain ⟨groups, hnames, happly⟩ := Registration.applyTo_of_accepted h
    refine ⟨groups, hnames, fun t => ⟨?_, happly t, happly _⟩⟩
    rw [Update.perform, Registration.run_overwrite, happly]
  case many =>
    intro updates
    exact ⟨id_updated s updates, get_updated s updates, updated_withSends s updates s.sends⟩

/-- Between switches and a list of groups a request is applied, and another is refused. -/
theorem Subscription.updates_forget_of_sample :
    let s := Subscription.new ⟨1⟩ "http://old/"
    let r : Registration := ⟨"d", "http://[::1]/", false, "secret", [7], [],
      ["SEND_REORGS", "SEND_MESSAGES", "SEND_REORGS"]⟩
    let refused : Registration := { r with description := "", url := "http://new/" }
    let before : List Update := [.switch .reorgs false, .withGroups [.delegates]]
    let after : List Update := [.apply refused, .switch .messages false, .switch .delegates true]
    r.validate = .ok () ∧ refused.validate = .error .emptyDescription ∧
    (Update.apply refused).perform s = (.error .emptyDescription, s) ∧
    s.updated (before ++ .apply r :: after) = s.updated (.apply r :: after) ∧
    (Update.apply { r with events := ["SEND_MESSAGES", "SEND_REORGS"] }).perform s
      = (Update.apply r).perform s ∧
    let done := s.updated (before ++ .apply r :: after)
    { done with sends := s.sends }
      = ⟨⟨1⟩, "http://[::1]/", "d", false, "secret", ["7"], [], s.sends⟩ ∧
    ∀ g, done.sends.get g = [Group.reorgs, .delegates].contains g := by
  intro s r refused before after
  have haccepted : r.validate = .ok () := (Registration.validate_eq_ok_iff r).2
    ⟨by decide, by decide, by decide, Registration.isWebhookUrl_loopback, by decide, by decide,
      by decide, [.reorgs, .messages, .reorgs], rfl⟩
  have hrefused : refused.validate = .error .emptyDescription := rfl
  obtain ⟨hatomic, hforget, hmany⟩ := updates_forget s
  obtain ⟨-, hbefore, horder⟩ := hforget r haccepted
  obtain ⟨-, hget, hrest⟩ := hmany (before ++ .apply r :: after)
  refine ⟨haccepted, hrefused, (hatomic refused _ hrefused).1, hbefore before after,
    horder _ (by simp [r, or_comm]), ?_, ?_⟩
  · have hlast : ((before ++ .apply r :: after).filterMap (·.accepted?)).getLast? = some r := by
      simp [before, after, Update.accepted?, haccepted, hrefused, Except.isOk, Except.toBool]
    rw [hrest, hlast]
    rfl
  · intro g
    rw [hget]
    cases g <;>
      simp [before, after, Update.written?, haccepted, hrefused, Except.isOk, Except.toBool, r,
        Group.name]

end WebhookRelay

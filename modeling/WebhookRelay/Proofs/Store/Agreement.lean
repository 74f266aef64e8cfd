-- SUMMARY: The store in memory and the store in the database are one map from ids to subscriptions.
import WebhookRelay.Proofs.Store.Database
import WebhookRelay.Proofs.Store.Memory
import Mathlib.Data.List.Nodup

/-!
# One map

The two stores are read as one map from ids to subscriptions, a `Directory`. It says
what each call changes (`Directory.after`) and which answers are right
(`Directory.Gives`). Each store carries a call out as the map says, the database if it
answers and the call is one that its table admits; so that, from one map, both give the
same answers to whatever sequence of calls.
-/

namespace WebhookRelay

/-! ## Calls -/

/-- What a store is asked. -/
inductive StoreCall where
  | save (s : Subscription)
  | deactivate (id : WebhookId)
  | find (id : WebhookId)
  | findActive
  deriving DecidableEq

/-- What a store answers. -/
inductive StoreAnswer where
  | saved
  | deactivated (changed : Bool)
  | found (s : Option Subscription)
  | active (subscriptions : List Subscription)
  deriving DecidableEq

namespace StoreCall

/-- The id that a call changes. -/
def changes? : StoreCall → Option WebhookId
  | .save s => some s.id
  | .deactivate id => some id
  | .find _ => none
  | .findActive => none

/-- The answers to calls, one after the other, and what they lead to. -/
def answers {σ α : Type} (answer : σ → StoreCall → α × σ) (s : σ) : List StoreCall → List α × σ
  | [] => ([], s)
  | call :: calls =>
    let (a, s) := answer s call
    let (rest, s) := answers answer s calls
    (a :: rest, s)

end StoreCall

/-- The same answer, the order of active subscriptions apart. -/
inductive StoreAnswer.Same : StoreAnswer → StoreAnswer → Prop where
  | refl (a : StoreAnswer) : Same a a
  | active {xs ys : List Subscription} (perm : xs.Perm ys) : Same (.active xs) (.active ys)

/-- The answer of the store in memory. -/
def Store.answer (store : Store) : StoreCall → StoreAnswer × Store
  | .save s => (.saved, store.save s)
  | .deactivate id =>
    let (changed, store) := store.deactivate id
    (.deactivated changed, store)
  | .find id => (.found (store.find? id), store)
  | .findActive => (.active store.active, store)

/-- The answer of the database. -/
def Database.answer (d : Database) : StoreCall → Except InfraError StoreAnswer × Database
  | .save s =>
    let (result, d) := d.save s
    (result.map fun _ => .saved, d)
  | .deactivate id =>
    let (result, d) := d.deactivate id
    (result.map .deactivated, d)
  | .find id => ((d.find? id).map .found, d)
  | .findActive => (d.findActive.map .active, d)

/-! ## The map -/

/-- A map from ids to subscriptions. -/
abbrev Directory := WebhookId → Option Subscription

/-- Whether a subscription fits the columns of the table. -/
structure Subscription.Storable (s : Subscription) : Prop where
  url : s.url.length ≤ maxFieldLength
  description : s.description.length ≤ maxFieldLength
  chains : ∃ ns : List Int, s.chains = ns.map toString ∧
    ∀ n ∈ ns, Decimal.int64Min ≤ n ∧ n ≤ Decimal.int64Max
  texts : ∀ text ∈ s.url :: s.description :: s.authorization :: s.addresses,
    '\x00' ∉ text.toList

namespace Directory

/-- The map after a call: saving replaces what its id has, switching off changes one
field of it. -/
def after (m : Directory) : StoreCall → Directory
  | .save s => Function.update m s.id (some s)
  | .deactivate id => Function.update m id ((m id).map ({ · with isActive := false }))
  | .find _ => m
  | .findActive => m

/-- The right answers to calls. -/
inductive Gives (m : Directory) : StoreCall → StoreAnswer → Prop where
  | saved (s : Subscription) : Gives m (.save s) .saved
  | deactivated {id : WebhookId} {changed : Bool}
      (active : changed = true ↔ ∃ s, m id = some s ∧ s.isActive) :
      Gives m (.deactivate id) (.deactivated changed)
  | found (id : WebhookId) : Gives m (.find id) (.found (m id))
  /-- Every active subscription, once. -/
  | active {subscriptions : List Subscription} (once : (subscriptions.map (·.id)).Nodup)
      (all : ∀ s, s ∈ subscriptions ↔ m s.id = some s ∧ s.isActive) :
      Gives m .findActive (.active subscriptions)

/-- Whether the table takes what a call saves: it fits the columns, and no other id has
its URL. -/
def Admits (m : Directory) : StoreCall → Prop
  | .save s => s.Storable ∧ ∀ other t, m other = some t → t.url = s.url → other = s.id
  | _ => True

/-- Whether the table takes what calls save, one after the other. -/
def AdmitsAll (m : Directory) : List StoreCall → Prop
  | [] => True
  | call :: calls => m.Admits call ∧ AdmitsAll (m.after call) calls

/-- Whether answers to calls, one after the other, are the right ones. -/
def GivesAll (m : Directory) : List StoreCall → List StoreAnswer → Prop
  | [], [] => True
  | call :: calls, a :: rest => m.Gives call a ∧ GivesAll (m.after call) calls rest
  | _, _ => False

theorem gives_deactivate_of_active {m : Directory} {id : WebhookId} {s : Subscription}
    (h : m id = some s) (hactive : s.isActive = true) :
    m.Gives (.deactivate id) (.deactivated true) :=
  .deactivated (iff_of_true rfl ⟨s, h, hactive⟩)

theorem gives_deactivate_of_not_active {m : Directory} {id : WebhookId}
    (h : ∀ s, m id = some s → s.isActive = false) :
    m.Gives (.deactivate id) (.deactivated false) := by
  refine .deactivated (iff_of_false nofun ?_)
  rintro ⟨s, hs, hactive⟩
  rw [h s hs] at hactive
  cases hactive

theorem after_deactivate_of_some {m : Directory} {id : WebhookId} {s : Subscription}
    (h : m id = some s) :
    m.after (.deactivate id) = Function.update m id (some { s with isActive := false }) := by
  rw [after, h, Option.map_some]

/-- Switching off what is off changes nothing. -/
theorem after_deactivate_of_not_active {m : Directory} {id : WebhookId}
    (h : ∀ s, m id = some s → s.isActive = false) : m.after (.deactivate id) = m := by
  rw [after, Function.update_eq_self_iff]
  cases hfound : m id with
  | none => rfl
  | some s => simp [← h s hfound]

/-- Two right answers to a call are the same. -/
theorem same_of_gives {m : Directory} {call : StoreCall} {a b : StoreAnswer} (ha : m.Gives call a)
    (hb : m.Gives call b) : a.Same b := by
  cases ha with
  | saved =>
    cases hb
    exact .refl _
  | deactivated hactive =>
    cases hb with
    | deactivated hactive' =>
      rw [Bool.eq_iff_iff.2 (hactive.trans hactive'.symm)]
      exact .refl _
  | found =>
    cases hb
    exact .refl _
  | active honce hall =>
    cases hb with
    | active honce' hall' =>
      refine .active ((List.perm_ext_iff_of_nodup honce.of_map honce'.of_map).2 ?_)
      intro s
      rw [hall, hall']

theorem same_of_givesAll {m : Directory} {calls : List StoreCall} {as bs : List StoreAnswer}
    (has : m.GivesAll calls as) (hbs : m.GivesAll calls bs) :
    List.Forall₂ StoreAnswer.Same as bs := by
  induction calls generalizing m as bs with
  | nil =>
    cases as with
    | cons => cases has
    | nil =>
      cases bs with
      | cons => cases hbs
      | nil => exact .nil
  | cons call calls ih =>
    cases as with
    | nil => cases has
    | cons a as =>
      cases bs with
      | nil => cases hbs
      | cons b bs => exact .cons (same_of_gives has.1 hbs.1) (ih has.2 hbs.2)

/-- A call changes nothing but what its id has. -/
theorem after_of_ne {m : Directory} {call : StoreCall} {id : WebhookId}
    (h : call.changes? ≠ some id) : m.after call id = m id := by
  cases call with
  | save s => exact Function.update_of_ne (fun heq => h (congrArg some heq.symm)) ..
  | deactivate other => exact Function.update_of_ne (fun heq => h (congrArg some heq.symm)) ..
  | find | findActive => rfl

theorem foldl_after_of_ne {m : Directory} {calls : List StoreCall} {id : WebhookId}
    (h : ∀ call ∈ calls, call.changes? ≠ some id) : calls.foldl after m id = m id := by
  induction calls generalizing m with
  | nil => rfl
  | cons call calls ih =>
    obtain ⟨hcall, hcalls⟩ := List.forall_mem_cons.1 h
    rw [List.foldl_cons, ih hcalls, after_of_ne hcall]

/-- What is saved by calls that the table takes fits the columns. -/
theorem storable_of_admitsAll {m : Directory} {calls : List StoreCall} (h : m.AdmitsAll calls)
    {s : Subscription} (hs : .save s ∈ calls) : s.Storable := by
  induction calls generalizing m with
  | nil => cases hs
  | cons call calls ih =>
    rcases List.mem_cons.1 hs with rfl | hs
    · exact h.1.1
    · exact ih h.2 hs

end Directory

/-! ## The store in memory -/

namespace Store

/-- The store as a map. -/
def directory (store : Store) : Directory :=
  store.find?

theorem directory_save (store : Store) (s : Subscription) :
    (store.save s).directory = store.directory.after (.save s) := by
  funext id
  have hafter : store.directory.after (.save s) id
      = if id = s.id then some s else store.directory id := Function.update_apply ..
  rw [hafter, directory, find?_save]
  by_cases h : s.id = id
  · rw [if_pos h, if_pos h.symm]
  · rw [if_neg h, if_neg (Ne.symm h)]
    rfl

theorem deactivate_agrees (store : Store) (id : WebhookId) :
    store.directory.Gives (.deactivate id) (.deactivated (store.deactivate id).1) ∧
      (store.deactivate id).2.directory = store.directory.after (.deactivate id) := by
  by_cases h : ∃ s, store.directory id = some s ∧ s.isActive = true
  · obtain ⟨s, hs, hactive⟩ := h
    have hid : s.id = id := (find?_eq_some_iff.1 hs).2
    rw [deactivate_of_active hs hactive]
    refine ⟨Directory.gives_deactivate_of_active hs hactive, ?_⟩
    rw [directory_save, Directory.after_deactivate_of_some hs, ← hid]
    rfl
  · have hoff : ∀ s, store.directory id = some s → s.isActive = false := by simpa using h
    rw [deactivate_of_not_active hoff]
    exact ⟨Directory.gives_deactivate_of_not_active hoff,
      (Directory.after_deactivate_of_not_active hoff).symm⟩

/-- The store in memory answers as the map says, and goes on as the map. -/
theorem answer_agrees (store : Store) (call : StoreCall) :
    store.directory.Gives call (store.answer call).1 ∧
      (store.answer call).2.directory = store.directory.after call := by
  cases call with
  | save s => exact ⟨.saved s, directory_save store s⟩
  | deactivate id => exact deactivate_agrees store id
  | find id => exact ⟨.found id, rfl⟩
  | findActive =>
    refine ⟨.active ?_ ?_, rfl⟩
    · exact nodup_ids_active store
    · intro s
      rw [directory, find?_eq_some_iff, active, List.mem_filter, and_iff_left rfl]

theorem admits_save {store : Store} {s : Subscription} (hstorable : s.Storable)
    (hurls : ∀ t ∈ store.rows, t.url = s.url → t.id = s.id) : store.directory.Admits (.save s) := by
  refine ⟨hstorable, ?_⟩
  intro other t ht hurl
  obtain ⟨hmem, hid⟩ := find?_eq_some_iff.1 ht
  exact hid ▸ hurls t hmem hurl

theorem admitsAll_cons {store : Store} {call : StoreCall} {calls : List StoreCall}
    (hcall : store.directory.Admits call)
    (hcalls : (store.answer call).2.directory.AdmitsAll calls) :
    store.directory.AdmitsAll (call :: calls) :=
  ⟨hcall, (answer_agrees store call).2 ▸ hcalls⟩

theorem answers_agree (store : Store) (calls : List StoreCall) :
    store.directory.GivesAll calls (StoreCall.answers answer store calls).1 ∧
      (StoreCall.answers answer store calls).2.directory
        = calls.foldl Directory.after store.directory := by
  induction calls generalizing store with
  | nil => exact ⟨trivial, rfl⟩
  | cons call calls ih =>
    obtain ⟨hgives, hafter⟩ := answer_agrees store call
    obtain ⟨hrest, hlast⟩ := ih (store.answer call).2
    rw [hafter] at hrest hlast
    exact ⟨⟨hgives, hrest⟩, hlast⟩

end Store

/-! ## The store in the database -/

theorem Subscription.Storable.exists_row {s : Subscription} (h : s.Storable) :
    ∃ row, Row.ofSubscription s = .ok row ∧ row.toSubscription = s ∧ row.Fits := by
  obtain ⟨ns, hchains, hrange⟩ := h.chains
  obtain ⟨row, hrow, hback, hints⟩ := Row.ofSubscription_of_range hchains hrange
  subst hback
  exact ⟨row, hrow, rfl, h.url, h.description, hints ▸ hrange⟩

namespace Database

/-- The rows of the table as a map of subscriptions. -/
def directory (d : Database) : Directory :=
  fun id => (d.table.find? id).map Row.toSubscription

theorem directory_place (d : Database) (row : Row) :
    { d with table := d.table.place row }.directory
      = d.directory.after (.save row.toSubscription) := by
  funext id
  have hafter : d.directory.after (.save row.toSubscription) id
      = if id = row.id then some row.toSubscription else d.directory id := Function.update_apply ..
  rw [hafter, directory, Table.find?_place]
  by_cases h : row.id = id
  · rw [if_pos h, if_pos h.symm, Option.map_some]
  · rw [if_neg h, if_neg (Ne.symm h)]
    rfl

theorem directory_eq_some_iff {d : Database} {id : WebhookId} {s : Subscription} :
    d.directory id = some s ↔ ∃ row ∈ d.table.rows, row.id = id ∧ row.toSubscription = s := by
  rw [directory, Option.map_eq_some_iff]
  constructor
  · rintro ⟨row, hrow, hs⟩
    obtain ⟨hmem, hid⟩ := (find?_id_eq_some_iff d.table.ordered).1 hrow
    exact ⟨row, hmem, hid, hs⟩
  · rintro ⟨row, hmem, hid, hs⟩
    exact ⟨row, (find?_id_eq_some_iff d.table.ordered).2 ⟨hmem, hid⟩, hs⟩

variable {d : Database}

theorem save_agrees (h : d.answers = true) {s : Subscription} (hadmits : d.directory.Admits (.save s)) :
    (d.save s).1 = .ok () ∧ (d.save s).2.answers = true ∧
      (d.save s).2.directory = d.directory.after (.save s) := by
  obtain ⟨hstorable, hurls⟩ := hadmits
  obtain ⟨row, hrow, hback, -⟩ := hstorable.exists_row
  subst hback
  have hfree : d.table.isTaken row.id row.url = false := by
    rw [Bool.eq_false_iff, Ne, Table.isTaken_eq_true_iff]
    rintro ⟨other, r, hr, hother, hurl⟩
    have hfound : d.directory other = some r.toSubscription := by rw [directory, hr, Option.map_some]
    exact hother (hurls other _ hfound hurl)
  rw [save_of_row hrow h hfree]
  exact ⟨rfl, h, directory_place d row⟩

theorem deactivate_of_active (h : d.answers = true) {id : WebhookId} {row : Row}
    (hfound : d.table.find? id = some row) (hactive : row.isActive = true) :
    d.deactivate id = (.ok true, { d with table := d.table.place { row with isActive := false } }) := by
  have hsent : d.send (.deactivate id)
      = (.ok (.affected 1), { d with table := d.table.place { row with isActive := false } }) := by
    rw [send, if_pos h, Table.execute, hfound]
    simp only [hactive, if_true]
  rw [deactivate, hsent]
  rfl

theorem deactivate_of_not_active (h : d.answers = true) {id : WebhookId}
    (hoff : ∀ row, d.table.find? id = some row → row.isActive = false) :
    d.deactivate id = (.ok false, d) := by
  have hsent : d.send (.deactivate id) = (.ok (.affected 0), d) := by
    rw [send, if_pos h, Table.execute]
    cases hfound : d.table.find? id with
    | none => rfl
    | some row => simp only [hoff row hfound, Bool.false_eq_true, if_false]
  rw [deactivate, hsent]
  rfl

theorem deactivate_agrees (h : d.answers = true) (id : WebhookId) :
    ∃ changed, (d.deactivate id).1 = .ok changed ∧ (d.deactivate id).2.answers = true ∧
      d.directory.Gives (.deactivate id) (.deactivated changed) ∧
      (d.deactivate id).2.directory = d.directory.after (.deactivate id) := by
  by_cases hon : ∃ row, d.table.find? id = some row ∧ row.isActive = true
  · obtain ⟨row, hrow, hactive⟩ := hon
    have hid : row.id = id := ((find?_id_eq_some_iff d.table.ordered).1 hrow).2
    have hs : d.directory id = some row.toSubscription := by rw [directory, hrow, Option.map_some]
    rw [deactivate_of_active h hrow hactive]
    refine ⟨true, rfl, h, Directory.gives_deactivate_of_active hs hactive, ?_⟩
    rw [directory_place, Directory.after_deactivate_of_some hs, ← hid]
    rfl
  · have hoff : ∀ row, d.table.find? id = some row → row.isActive = false := by simpa using hon
    have hoff' : ∀ s, d.directory id = some s → s.isActive = false := by
      intro s hs
      obtain ⟨row, hrow, rfl⟩ := Option.map_eq_some_iff.1 hs
      exact hoff row hrow
    rw [deactivate_of_not_active h hoff]
    exact ⟨false, rfl, h, Directory.gives_deactivate_of_not_active hoff',
      (Directory.after_deactivate_of_not_active hoff').symm⟩

theorem findActive_of_answers (h : d.answers = true) :
    d.findActive = .ok ((d.table.rows.filter (·.isActive)).map Row.toSubscription) := by
  rw [findActive, select, send, if_pos h]
  simp only [Table.execute, Row.mapM_ofRecord?_record]
  rfl

theorem gives_findActive (d : Database) :
    d.directory.Gives .findActive
      (.active ((d.table.rows.filter (·.isActive)).map Row.toSubscription)) := by
  refine .active ?_ ?_
  · rw [List.map_map]
    exact (nodup_ids d.table.ordered).sublist (List.filter_sublist.map _)
  · intro s
    simp only [directory_eq_some_iff, List.mem_map, List.mem_filter]
    constructor
    · rintro ⟨row, ⟨hmem, hactive⟩, rfl⟩
      exact ⟨⟨row, hmem, rfl, rfl⟩, hactive⟩
    · rintro ⟨⟨row, hmem, -, rfl⟩, hactive⟩
      exact ⟨row, ⟨hmem, hactive⟩, rfl⟩

/-- A database that answers carries a call that its table admits out as the map says. -/
theorem answer_agrees (h : d.answers = true) {call : StoreCall} (hadmits : d.directory.Admits call) :
    ∃ a, (d.answer call).1 = .ok a ∧ (d.answer call).2.answers = true ∧
      d.directory.Gives call a ∧ (d.answer call).2.directory = d.directory.after call := by
  cases call with
  | save s =>
    obtain ⟨hsaved, hanswers, hafter⟩ := save_agrees h hadmits
    refine ⟨.saved, ?_, hanswers, .saved s, hafter⟩
    simp only [answer, hsaved]
    rfl
  | deactivate id =>
    obtain ⟨changed, hchanged, hanswers, hgives, hafter⟩ := deactivate_agrees h id
    refine ⟨.deactivated changed, ?_, hanswers, hgives, hafter⟩
    simp only [answer, hchanged]
    rfl
  | find id =>
    refine ⟨.found (d.directory id), ?_, h, .found id, rfl⟩
    simp only [answer, find?_of_answers h]
    rfl
  | findActive =>
    refine ⟨_, ?_, h, gives_findActive d, rfl⟩
    simp only [answer, findActive_of_answers h]
    rfl

theorem answers_agree (h : d.answers = true) {calls : List StoreCall}
    (hadmits : d.directory.AdmitsAll calls) :
    ∃ as, (StoreCall.answers answer d calls).1 = as.map .ok ∧ d.directory.GivesAll calls as ∧
      (StoreCall.answers answer d calls).2.directory
        = calls.foldl Directory.after d.directory := by
  induction calls generalizing d with
  | nil => exact ⟨[], rfl, trivial, rfl⟩
  | cons call calls ih =>
    obtain ⟨hcall, hcalls⟩ := hadmits
    obtain ⟨a, ha, hanswers, hgives, hafter⟩ := answer_agrees h hcall
    rw [← hafter] at hcalls
    obtain ⟨as, has, hrest, hlast⟩ := ih hanswers hcalls
    rw [hafter] at hrest hlast
    refine ⟨a :: as, ?_, ⟨hgives, hrest⟩, hlast⟩
    rw [List.map_cons, ← ha, ← has]
    rfl

end Database

/-! ## Both stores -/

/-- From the same map, and for calls that the table takes, the two stores give the same
answers one after the other, which are those of the map, and go on as the map. What no
call changes stays as it was, and every row that is sent to the table fits its columns. -/
theorem stores_agree {store : Store} {d : Database} (hanswers : d.answers = true)
    (hsame : d.directory = store.directory) {calls : List StoreCall}
    (hadmits : store.directory.AdmitsAll calls) :
    let inMemory := StoreCall.answers Store.answer store calls
    let inDatabase := StoreCall.answers Database.answer d calls
    let last := calls.foldl Directory.after store.directory
    ∃ answers, inDatabase.1 = answers.map .ok ∧
      List.Forall₂ StoreAnswer.Same inMemory.1 answers ∧
      store.directory.GivesAll calls inMemory.1 ∧ store.directory.GivesAll calls answers ∧
      inMemory.2.directory = last ∧ inDatabase.2.directory = last ∧
      (∀ id, (∀ call ∈ calls, call.changes? ≠ some id) → last id = store.directory id) ∧
      ∀ s, .save s ∈ calls →
        ∃ row, saveStatement s = .ok (.upsert row) ∧ row.Fits ∧ row.toSubscription = s := by
  obtain ⟨hgives, hlast⟩ := Store.answers_agree store calls
  obtain ⟨answers, hall, hgives', hlast'⟩ := Database.answers_agree hanswers (hsame ▸ hadmits)
  rw [hsame] at hgives' hlast'
  refine ⟨answers, hall, Directory.same_of_givesAll hgives hgives', hgives, hgives', hlast, hlast',
    fun id hid => Directory.foldl_after_of_ne hid, ?_⟩
  intro s hs
  obtain ⟨row, hrow, hback, hfits⟩ := (Directory.storable_of_admitsAll hadmits hs).exists_row
  exact ⟨row, by rw [saveStatement, hrow]; rfl, hfits, hback⟩

/-- A webhook is switched off, registered again for another URL and a negative chain, and
switched off once more, beside one that stays as it is. -/
theorem stores_agree_after_saving_again :
    let kept := Subscription.new ⟨1⟩ "http://[::1]/"
    let moved := { Subscription.new ⟨2⟩ "http://[::2]/" with chains := ["-5", "137"] }
    let again := { moved with url := "http://[::3]/", sends := .all false }
    let store := Store.empty.save kept
    let d := (Database.empty.save kept).2
    let calls : List StoreCall := [.save moved, .deactivate ⟨2⟩, .save again, .find ⟨2⟩,
      .deactivate ⟨2⟩, .deactivate ⟨2⟩, .findActive]
    (StoreCall.answers Store.answer store calls).1
      = [.saved, .deactivated true, .saved, .found (some again), .deactivated true,
        .deactivated false, .active [kept]] ∧
    ∃ answers, (StoreCall.answers Database.answer d calls).1 = answers.map .ok ∧
      List.Forall₂ StoreAnswer.Same (StoreCall.answers Store.answer store calls).1 answers := by
  intro kept moved again store d calls
  have hkept : kept.Storable := ⟨by decide, by decide, ⟨[], rfl, nofun⟩, by decide⟩
  have hmoved : moved.Storable := ⟨by decide, by decide, ⟨[-5, 137], rfl, by decide⟩, by decide⟩
  have hagain : again.Storable := ⟨by decide, by decide, ⟨[-5, 137], rfl, by decide⟩, by decide⟩
  have hempty : Database.empty.directory.Admits (.save kept) := by
    refine ⟨hkept, fun other t ht => ?_⟩
    obtain ⟨row, hrow, -⟩ := Database.directory_eq_some_iff.1 ht
    cases hrow
  obtain ⟨-, hanswers, hdirectory⟩ := Database.save_agrees rfl hempty
  have hsame : d.directory = store.directory :=
    hdirectory.trans (Store.directory_save Store.empty kept).symm
  have hadmits : store.directory.AdmitsAll calls := by
    refine Store.admitsAll_cons (Store.admits_save hmoved (by decide)) ?_
    refine Store.admitsAll_cons trivial ?_
    refine Store.admitsAll_cons (Store.admits_save hagain (by decide)) ?_
    exact ⟨trivial, trivial, trivial, trivial, trivial⟩
  obtain ⟨answers, hall, hagree, -⟩ := stores_agree hanswers hsame hadmits
  exact ⟨by decide, answers, hall, hagree⟩

end WebhookRelay

-- SUMMARY: Chains in the database: which a save refuses, before anything is sent, and as what the others are read back.
import WebhookRelay.Proofs.Store.Database
import WebhookRelay.Proofs.Subscription.Relevance
import WebhookRelay.Proofs.Text.Integer

/-!
# Chains in the database

A subscription names its chains by texts, a row by signed 64-bit integers. A save reads the texts
first, and the first that is no such integer ends it: nothing is sent then, so it makes no
difference what is there to send to (`refused_iff`).

The others are stored as the integers that they write, and read back as the plain decimal text.
An integer is written in more ways than that one, so `007` is stored and comes back as `7`, which
is another chain to the events (`found_after_saving`).
-/

namespace WebhookRelay

open Decimal

/-! ## The first chain that is no integer -/

/-- Whether a chain is the first of some that is no signed 64-bit integer. -/
def FirstUnreadable (chains : List String) (chain : String) : Prop :=
  ∃ front rest, chains = front ++ chain :: rest ∧ (∀ c ∈ front, IsInt64 c) ∧ ¬ IsInt64 chain

theorem firstUnreadable_cons_of_not {chain : String} (h : ¬ IsInt64 chain) (rest : List String) :
    FirstUnreadable (chain :: rest) chain :=
  ⟨[], rest, rfl, nofun, h⟩

theorem firstUnreadable_cons_iff {c chain : String} (h : IsInt64 c) {rest : List String} :
    FirstUnreadable (c :: rest) chain ↔ FirstUnreadable rest chain := by
  constructor
  · rintro ⟨front, more, heq, hfront, hchain⟩
    cases front with
    | nil =>
      cases heq
      exact absurd h hchain
    | cons d front =>
      cases heq
      exact ⟨front, more, rfl, fun x hx => hfront x (List.mem_cons_of_mem _ hx), hchain⟩
  · rintro ⟨front, more, rfl, hfront, hchain⟩
    exact ⟨c :: front, more, rfl, List.forall_mem_cons.2 ⟨h, hfront⟩, hchain⟩

theorem exists_firstUnreadable_iff {chains : List String} :
    (∃ chain, FirstUnreadable chains chain) ↔ ∃ chain ∈ chains, ¬ IsInt64 chain := by
  induction chains with
  | nil =>
    refine iff_of_false ?_ (by simp)
    rintro ⟨chain, front, rest, heq, -⟩
    simp at heq
  | cons c chains ih =>
    by_cases h : IsInt64 c
    · simp only [firstUnreadable_cons_iff h, ih, List.mem_cons, exists_eq_or_imp, h, not_true,
        false_or]
    · exact iff_of_true ⟨c, firstUnreadable_cons_of_not h chains⟩ ⟨c, List.mem_cons_self, h⟩

namespace Row

theorem firstUnreadable_of_readChains {chains : List String} {e : InfraError}
    (h : readChains chains = .error e) :
    ∃ chain, FirstUnreadable chains chain ∧
      e = .configuration ("Invalid chain id: " ++ chain) := by
  induction chains with
  | nil => cases h
  | cons c chains ih =>
    rw [readChains] at h
    cases hread : readInt64? c with
    | none =>
      rw [hread] at h
      cases h
      exact ⟨c, firstUnreadable_cons_of_not (readInt64?_eq_none_iff.1 hread) chains, rfl⟩
    | some n =>
      rw [hread] at h
      cases hrest : readChains chains with
      | ok ns =>
        rw [hrest] at h
        cases h
      | error e' =>
        rw [hrest] at h
        cases h
        obtain ⟨chain, hfirst, he⟩ := ih hrest
        exact ⟨chain, (firstUnreadable_cons_iff ⟨n, readInt64?_eq_some_iff.1 hread⟩).2 hfirst, he⟩

/-- Chains are read up to the first that is no integer, and it is refused by name. -/
theorem readChains_of_firstUnreadable {chains : List String} {chain : String}
    (h : FirstUnreadable chains chain) :
    readChains chains = .error (.configuration ("Invalid chain id: " ++ chain)) := by
  obtain ⟨front, rest, rfl, hfront, hchain⟩ := h
  induction front with
  | nil => rw [List.nil_append, readChains, readInt64?_eq_none_iff.2 hchain]
  | cons c front ih =>
    obtain ⟨⟨n, hn⟩, hfront⟩ := List.forall_mem_cons.1 hfront
    rw [List.cons_append, readChains, readInt64?_eq_some_iff.2 hn, ih hfront]
    rfl

/-- Whether a chain is stored as an integer. -/
def StoredAs (chain : String) (n : Int) : Prop :=
  WritesInteger chain.toList n ∧ int64Min ≤ n ∧ n ≤ int64Max

theorem readChains_eq_ok_iff {chains : List String} {ns : List Int} :
    readChains chains = .ok ns ↔ List.Forall₂ StoredAs chains ns := by
  induction chains generalizing ns with
  | nil =>
    rw [readChains, List.forall₂_nil_left_iff, Except.ok.injEq, eq_comm]
  | cons c chains ih =>
    rw [List.forall₂_cons_left_iff, readChains]
    constructor
    · intro h
      cases hread : readInt64? c with
      | none =>
        rw [hread] at h
        cases h
      | some n =>
        rw [hread] at h
        cases hrest : readChains chains with
        | error e =>
          rw [hrest] at h
          cases h
        | ok ms =>
          rw [hrest] at h
          cases h
          exact ⟨n, ms, readInt64?_eq_some_iff.1 hread, ih.1 hrest, rfl⟩
    · rintro ⟨n, ms, hn, hms, rfl⟩
      rw [readInt64?_eq_some_iff.2 hn, ih.2 hms]
      rfl

end Row

/-! ## Refused saves -/

namespace Database

variable {s : Subscription}

theorem saveStatement_of_firstUnreadable {chain : String} (h : FirstUnreadable s.chains chain) :
    saveStatement s = .error (.configuration ("Invalid chain id: " ++ chain)) := by
  rw [saveStatement, Row.ofSubscription, Row.readChains_of_firstUnreadable h]
  rfl

theorem firstUnreadable_of_saveStatement {e : InfraError} (h : saveStatement s = .error e) :
    ∃ chain, FirstUnreadable s.chains chain ∧
      e = .configuration ("Invalid chain id: " ++ chain) := by
  unfold saveStatement Row.ofSubscription at h
  cases hread : Row.readChains s.chains with
  | error e' =>
    rw [hread] at h
    cases h
    exact Row.firstUnreadable_of_readChains hread
  | ok ns =>
    rw [hread] at h
    cases h

/-- The row of a subscription whose chains are stored as some integers. -/
def rowWith (s : Subscription) (ns : List Int) : Row :=
  ⟨s.id, s.url, s.description, s.isActive, s.authorization, ns, s.addresses, s.sends⟩

theorem saveStatement_eq_ok_iff {statement : Statement} :
    saveStatement s = .ok statement ↔
      ∃ ns, List.Forall₂ Row.StoredAs s.chains ns ∧ statement = .upsert (rowWith s ns) := by
  simp only [← Row.readChains_eq_ok_iff]
  unfold saveStatement Row.ofSubscription
  cases Row.readChains s.chains with
  | error e => simp [Except.map]
  | ok ns => simp [Except.map, rowWith, eq_comm]

/-- A save to whatever takes statements: it has a state, answers a statement and goes on. -/
def saveThrough {σ : Type} (send : Statement → σ → Except InfraError StatementResult × σ)
    (s : Subscription) (state : σ) : Except InfraError Unit × σ :=
  match saveStatement s with
  | .error e => (.error e, state)
  | .ok statement =>
    let (result, state) := send statement state
    (result.map fun _ => (), state)

theorem save_eq_saveThrough (d : Database) (s : Subscription) :
    d.save s = saveThrough (fun statement d => d.send statement) s d := rfl

section

variable {σ : Type} (send : Statement → σ → Except InfraError StatementResult × σ) (state : σ)

theorem saveThrough_of_error {e : InfraError} (h : saveStatement s = .error e) :
    saveThrough send s state = (.error e, state) := by
  rw [saveThrough, h]

theorem saveThrough_of_ok {statement : Statement} (h : saveStatement s = .ok statement) :
    saveThrough send s state
      = ((send statement state).1.map fun _ => (), (send statement state).2) := by
  rw [saveThrough, h]

end

/-- Whatever the database refuses is told as a fault of the database. -/
theorem exists_of_send_error {d : Database} {statement : Statement} {e : InfraError}
    (h : (d.send statement).1 = .error e) : ∃ text, e = .database text := by
  unfold send at h
  split at h
  · split at h
    · cases h
    · cases h
      exact ⟨_, rfl⟩
  · cases h
    exact ⟨_, rfl⟩

theorem save_fst_eq_configuration_iff {d : Database} {text : String} :
    (d.save s).1 = .error (.configuration text) ↔
      saveStatement s = .error (.configuration text) := by
  rw [save_eq_saveThrough]
  cases h : saveStatement s with
  | error e => rw [saveThrough_of_error _ _ h, Except.error.injEq, Except.error.injEq]
  | ok statement =>
    rw [saveThrough_of_ok _ _ h]
    refine iff_of_false ?_ nofun
    intro hfails
    cases hsent : (d.send statement).1 with
    | ok result =>
      rw [hsent] at hfails
      cases hfails
    | error e =>
      obtain ⟨fault, rfl⟩ := exists_of_send_error hsent
      rw [hsent] at hfails
      cases hfails

/-- The error of a save that is refused for a chain, as the relay is told it. -/
def refusal (chain : String) : RelayError :=
  .storage ("Configuration error: " ++ ("Invalid chain id: " ++ chain))

theorem append_ne_append {p q : String} {c d : Char} {cs ds : List Char} (hp : p.toList = c :: cs)
    (hq : q.toList = d :: ds) (hne : c ≠ d) (s t : String) : p ++ s ≠ q ++ t := by
  intro heq
  have hlist := congrArg String.toList heq
  rw [String.toList_append, String.toList_append, hp, hq] at hlist
  exact hne (List.cons.inj hlist).1

/-- The texts of errors tell their kinds apart by how they begin. -/
theorem toRelayError_eq_refusal_iff {e : InfraError} {chain : String} :
    e.toRelayError = refusal chain ↔ e = .configuration ("Invalid chain id: " ++ chain) := by
  rw [InfraError.toRelayError, refusal, RelayError.storage.injEq]
  cases e with
  | configuration text =>
    have hmessage : (InfraError.configuration text).message = "Configuration error: " ++ text := rfl
    rw [hmessage, InfraError.configuration.injEq]
    exact String.append_right_inj _
  | database text =>
    exact iff_of_false (append_ne_append (p := "Database error: ") rfl rfl (by decide) _ _) nofun
  | migration text =>
    exact iff_of_false (append_ne_append (p := "Migration error: ") rfl rfl (by decide) _ _) nofun
  | messaging text =>
    exact iff_of_false (append_ne_append (p := "Messaging error: ") rfl rfl (by decide) _ _) nofun

/-- A save is refused, and names a chain, when this is the first that is no signed 64-bit
integer; there is one exactly when some chain is none. Whatever takes the statements is then sent
nothing, so the answer is the same with and without a database that can be reached, and a table
stays as it is. With any other chains one statement is sent, and its answer is that of the save. -/
theorem refused_iff (s : Subscription) :
    (∀ (d : Database) (chain : String),
      (d.save s).1.mapError InfraError.toRelayError = .error (refusal chain)
        ↔ FirstUnreadable s.chains chain) ∧
    ((∃ chain, FirstUnreadable s.chains chain) ↔ ∃ chain ∈ s.chains, ¬ IsInt64 chain) ∧
    (∀ chain, FirstUnreadable s.chains chain →
      (∀ d : Database, d.save s = (.error (.configuration ("Invalid chain id: " ++ chain)), d)) ∧
      ∀ {σ : Type} (send : Statement → σ → Except InfraError StatementResult × σ) (state : σ),
        saveThrough send s state
          = (.error (.configuration ("Invalid chain id: " ++ chain)), state)) ∧
    ((∀ chain ∈ s.chains, IsInt64 chain) → ∃ row,
      ∀ {σ : Type} (send : Statement → σ → Except InfraError StatementResult × σ) (state : σ),
        saveThrough send s state
          = ((send (.upsert row) state).1.map fun _ => (), (send (.upsert row) state).2)) := by
  refine ⟨?named, exists_firstUnreadable_iff, ?unsent, ?sent⟩
  case named =>
    intro d chain
    constructor
    · intro h
      cases hsaved : (d.save s).1 with
      | ok u =>
        rw [hsaved] at h
        cases h
      | error e =>
        rw [hsaved] at h
        cases toRelayError_eq_refusal_iff.1 (Except.error.inj h)
        obtain ⟨first, hfirst, heq⟩ :=
          firstUnreadable_of_saveStatement (save_fst_eq_configuration_iff.1 hsaved)
        have hchain : chain = first :=
          (String.append_right_inj _).1 (InfraError.configuration.inj heq)
        rwa [hchain]
    · intro h
      rw [save_eq_saveThrough, saveThrough_of_error _ _ (saveStatement_of_firstUnreadable h)]
      rfl
  case unsent =>
    intro chain h
    have hstatement := saveStatement_of_firstUnreadable h
    refine ⟨fun d => ?_, fun send state => saveThrough_of_error send state hstatement⟩
    rw [save_eq_saveThrough, saveThrough_of_error _ _ hstatement]
  case sent =>
    intro h
    cases hstatement : saveStatement s with
    | error e =>
      obtain ⟨chain, hfirst, -⟩ := firstUnreadable_of_saveStatement hstatement
      obtain ⟨c, hc, hnot⟩ := exists_firstUnreadable_iff.1 ⟨chain, hfirst⟩
      exact absurd (h c hc) hnot
    | ok statement =>
      obtain ⟨ns, -, rfl⟩ := saveStatement_eq_ok_iff.1 hstatement
      exact ⟨_, fun send state => saveThrough_of_ok send state hstatement⟩

/-- A digit of another script is none, and it is the first such chain that is named. -/
theorem refused_iff_of_foreign_digit :
    let s := { Subscription.new ⟨1⟩ "http://[::1]/" with chains := ["-007", "٣", "mainnet"] }
    Database.empty.save s = (.error (.configuration "Invalid chain id: ٣"), .empty) ∧
    Database.unreachable.save s
      = (.error (.configuration "Invalid chain id: ٣"), .unreachable) := by
  intro s
  have hfirst : FirstUnreadable s.chains "٣" :=
    ⟨["-007"], ["mainnet"], rfl,
      List.forall_mem_singleton.2 ⟨-7, readInt64?_eq_some_iff.1 (by decide)⟩,
      readInt64?_eq_none_iff.1 (by decide)⟩
  obtain ⟨-, -, hunsent, -⟩ := refused_iff s
  obtain ⟨hsave, -⟩ := hunsent "٣" hfirst
  exact ⟨hsave .empty, hsave .unreachable⟩

end Database

/-! ## Accepted saves -/

/-- Whether a text is the one that an integer is written as: without a plus sign, leading zeros
and a minus before zero. -/
def IsCanonical (text : String) : Prop :=
  ∃ n : Int, text = toString n

theorem Row.StoredAs.eq_of_toString {m n : Int} (h : StoredAs (toString m) n) : m = n := by
  have hread := readInt?_eq_some_iff.2 h.1
  rw [readInt?_toString] at hread
  exact Option.some.inj hread

/-- Chains come back as they were when each is written as its integer is. -/
theorem map_toString_eq_iff {chains : List String} {ns : List Int}
    (h : List.Forall₂ Row.StoredAs chains ns) :
    ns.map toString = chains ↔ ∀ chain ∈ chains, IsCanonical chain := by
  constructor
  · rintro rfl chain hchain
    obtain ⟨n, -, rfl⟩ := List.mem_map.1 hchain
    exact ⟨n, rfl⟩
  · intro hcanonical
    induction h with
    | nil => rfl
    | cons hstored _ ih =>
      obtain ⟨⟨m, rfl⟩, hrest⟩ := List.forall_mem_cons.1 hcanonical
      rw [List.map_cons, ih hrest, hstored.eq_of_toString]

theorem Group.exists_category (g : Group) : ∃ c : Category, c.group = g := by
  cases g <;> exact ⟨_, (mem_categories_iff _ _).1 List.mem_cons_self⟩

namespace Subscription

/-- A subscription that wants some category hears of each chain that it lists. -/
theorem exists_isRelevant {s : Subscription} {g : Group} (hon : s.sends.get g = true)
    {chain : String} (hchain : chain ∈ s.chains) :
    ∃ e : Event, e.chainId = chain ∧ s.isRelevant e = true := by
  obtain ⟨c, rfl⟩ := g.exists_category
  exact ⟨.new chain c.name "", rfl, (s.isRelevant_iff _).2 ⟨.inr hchain, c, rfl, hon⟩⟩

theorem isRelevant_of_off {s : Subscription} (hoff : ∀ g, s.sends.get g = false) (e : Event) :
    s.isRelevant e = false := by
  rw [← Bool.not_eq_true, isRelevant_iff]
  rintro ⟨-, c, -, hon⟩
  rw [hoff] at hon
  cases hon

/-- What a subscription hears of once its chains are written as integers are. -/
theorem isRelevant_congr_iff {s : Subscription} {ns : List Int}
    (h : List.Forall₂ Row.StoredAs s.chains ns) :
    (∀ e, ({ s with chains := ns.map toString }).isRelevant e = s.isRelevant e) ↔
      (∀ chain ∈ s.chains, IsCanonical chain) ∨ ∀ g, s.sends.get g = false := by
  constructor
  · intro hsame
    refine or_iff_not_imp_right.2 fun hsome => ?_
    obtain ⟨g, hon⟩ : ∃ g, s.sends.get g = true := by simpa using hsome
    intro chain hchain
    obtain ⟨e, rfl, hrelevant⟩ := exists_isRelevant hon hchain
    obtain ⟨hlisted, -⟩ := (isRelevant_iff _ e).1 ((hsame e).trans hrelevant)
    rcases hlisted with hnil | hmem
    · have hempty : ns = [] := List.map_eq_nil_iff.1 hnil
      rw [hempty, List.forall₂_nil_right_iff] at h
      rw [h] at hchain
      cases hchain
    · obtain ⟨n, -, hn⟩ := List.mem_map.1 hmem
      exact ⟨n, hn.symm⟩
  · rintro (hcanonical | hoff) e
    · rw [(map_toString_eq_iff h).2 hcanonical]
    · rw [isRelevant_of_off hoff]
      exact isRelevant_of_off (s := { s with chains := ns.map toString }) hoff e

end Subscription

namespace Database

theorem send_upsert_fst_eq_ok_iff {d : Database} {row : Row} :
    (∃ result, (d.send (.upsert row)).1 = .ok result) ↔
      d.answers = true ∧ d.table.isTaken row.id row.url = false := by
  unfold send
  cases d.answers with
  | false => simp
  | true => cases htaken : d.table.isTaken row.id row.url <;> simp [Table.execute_upsert, htaken]

theorem map_unit_eq_ok_iff {ε α : Type} {x : Except ε α} :
    (x.map fun _ => ()) = .ok () ↔ ∃ a, x = .ok a := by
  cases x <;> simp [Except.map]

/-- Which saves are accepted: all chains are integers, and no other row has the URL. -/
theorem save_fst_eq_ok_iff {d : Database} {s : Subscription} :
    (d.save s).1 = .ok () ↔ d.answers = true ∧ d.table.isTaken s.id s.url = false ∧
      ∃ ns, List.Forall₂ Row.StoredAs s.chains ns := by
  rw [save_eq_saveThrough]
  cases hstatement : saveStatement s with
  | error e =>
    rw [saveThrough_of_error _ _ hstatement]
    refine iff_of_false nofun ?_
    rintro ⟨-, -, ns, hns⟩
    rw [saveStatement_eq_ok_iff.2 ⟨ns, hns, rfl⟩] at hstatement
    cases hstatement
  | ok statement =>
    obtain ⟨ns, hns, rfl⟩ := saveStatement_eq_ok_iff.1 hstatement
    rw [saveThrough_of_ok _ _ hstatement, map_unit_eq_ok_iff, send_upsert_fst_eq_ok_iff]
    exact ⟨fun ⟨hanswers, hfree⟩ => ⟨hanswers, hfree, ns, hns⟩,
      fun ⟨hanswers, hfree, _⟩ => ⟨hanswers, hfree⟩⟩

/-- What an accepted save is read back as: the same subscription, but with the plain decimal text
of each chain. It is the same throughout exactly when every chain is written so; otherwise another
set of events is relevant to it, unless none was. -/
theorem found_after_saving {d : Database} {s : Subscription} (h : (d.save s).1 = .ok ()) :
    ∃ ns, List.Forall₂ Row.StoredAs s.chains ns ∧
      let found := { s with chains := ns.map toString }
      (d.save s).2.find? s.id = .ok (some found) ∧
      (found = s ↔ ∀ chain ∈ s.chains, IsCanonical chain) ∧
      ((∀ e, found.isRelevant e = s.isRelevant e) ↔
        (∀ chain ∈ s.chains, IsCanonical chain) ∨ ∀ g, s.sends.get g = false) := by
  obtain ⟨hanswers, hfree, ns, hns⟩ := save_fst_eq_ok_iff.1 h
  have hrow : Row.ofSubscription s = .ok (rowWith s ns) := by
    rw [Row.ofSubscription, Row.readChains_eq_ok_iff.2 hns]
    rfl
  refine ⟨ns, hns, find?_save_of_row hrow hanswers hfree, ?_, Subscription.isRelevant_congr_iff hns⟩
  rw [← map_toString_eq_iff hns]
  constructor
  · exact fun heq => congrArg Subscription.chains heq
  · intro heq
    rw [heq]

/-- A subscription to three chains, the second with leading zeros. -/
def threeChains : Subscription :=
  { Subscription.new ⟨1⟩ "http://[::1]/" with chains := ["-5", "007", "137"] }

/-- It is read back with the zeros gone, and other events are relevant to it then. -/
theorem found_after_saving_of_three :
    let found := { threeChains with chains := ["-5", "7", "137"] }
    (empty.save threeChains).1 = .ok () ∧
    (empty.save threeChains).2.find? ⟨1⟩ = .ok (some found) ∧
    ¬ ∀ e, found.isRelevant e = threeChains.isRelevant e := by
  intro found
  have hsaved : (empty.save threeChains).1 = .ok () := by decide
  obtain ⟨ns, hns, hfound, hsame, hrelevant⟩ := found_after_saving hsaved
  have hread : Row.readChains threeChains.chains = .ok [-5, 7, 137] := by decide
  cases hread.symm.trans (Row.readChains_eq_ok_iff.2 hns)
  refine ⟨hsaved, hfound, fun h => ?_⟩
  rcases hrelevant.1 h with hcanonical | hoff
  · exact absurd (hsame.2 hcanonical) (by decide)
  · exact absurd (hoff .messages) (by decide)

/-- An accepted chain that comes back as another: the event that was wanted is so no more. -/
theorem accepted_chain_rewritten :
    let s := { Subscription.new ⟨1⟩ "http://[::1]/" with chains := ["007"] }
    let found := { s with chains := ["7"] }
    let e := Event.new "007" "SAFE_CREATED" ""
    (empty.save s).1 = .ok () ∧ (empty.save s).2.find? s.id = .ok (some found) ∧
    found ≠ s ∧ s.isRelevant e = true ∧ found.isRelevant e = false := by
  decide

end Database

end WebhookRelay

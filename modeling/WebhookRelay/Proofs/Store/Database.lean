-- SUMMARY: Registrations in the database: which are stored, and that they are read back as they were.
import WebhookRelay.Proofs.Store.Table
import WebhookRelay.Proofs.Subscription.Registration
import WebhookRelay.Proofs.Text.Numeral
import WebhookRelay.Store.Database

/-!
# Registrations in the database

A request names its chains by unsigned 64-bit numbers, a subscription by their
decimal text, a row by signed 64-bit integers. The three agree up to
`Decimal.int64Max`, and above it the text of a chain is no integer of a row: a
request that is accepted with such a chain is refused by the database.
-/

namespace WebhookRelay

/-! ## Chains -/

/-- The decimal text of an integer is read as that integer. -/
theorem Decimal.readInt?_toString (n : Int) : readInt? (toString n) = some n := by
  unfold readInt?
  cases n with
  | ofNat n =>
    have htext : (toString (Int.ofNat n)).toList = Nat.toDigits 10 n := Text.toList_toString n
    obtain ⟨d, hd, cs, hcs⟩ := Text.exists_toDigits_eq_digitChar_cons n
    -- A numeral begins with a digit, so neither sign is split off.
    have hsign : d.digitChar ≠ '-' ∧ d.digitChar ≠ '+' := Text.digitChar_ne_sign hd
    have hnumeral := Text.natOfDigits?_toDigits n
    rw [htext]
    rw [hcs] at hnumeral ⊢
    split
    · simp_all
    · simp_all
    · rw [hnumeral]
      rfl
  | negSucc n =>
    have htext : (toString (Int.negSucc n)).toList = '-' :: Nat.toDigits 10 (n + 1) := by
      show ("-" ++ toString (n + 1)).toList = _
      rw [String.toList_append, Text.toList_toString]
      rfl
    rw [htext]
    simp [Int.negSucc_eq]

/-- The decimal text of an integer is read as an integer of 64 bits when it is one. -/
theorem Decimal.readInt64?_toString (n : Int) :
    readInt64? (toString n) = if int64Min ≤ n ∧ n ≤ int64Max then some n else none := by
  rw [readInt64?, readInt?_toString]
  by_cases hrange : int64Min ≤ n ∧ n ≤ int64Max <;> simp [Option.filter, hrange]

theorem Decimal.int64Min_le_natCast (n : Nat) : int64Min ≤ (n : Int) := by
  unfold int64Min
  omega

theorem Row.readChains_toString_of_range {ns : List Int}
    (hrange : ∀ n ∈ ns, Decimal.int64Min ≤ n ∧ n ≤ Decimal.int64Max) :
    readChains (ns.map toString) = .ok ns := by
  induction ns with
  | nil => rfl
  | cons n ns ih =>
    obtain ⟨hn, hns⟩ := List.forall_mem_cons.1 hrange
    simp only [List.map_cons, readChains, Decimal.readInt64?_toString, if_pos hn, ih hns]
    rfl

/-- Chains are read up to the first that is too great. -/
theorem Row.readChains_toString (ns : List Nat) :
    readChains (ns.map toString)
      = match ns.find? fun n : Nat => Decimal.int64Max < (n : Int) with
        | some n => .error (.configuration ("Invalid chain id: " ++ toString n))
        | none => .ok (ns.map Int.ofNat) := by
  induction ns with
  | nil => rfl
  | cons n ns ih =>
    have hread : Decimal.readInt64? (toString n)
        = if (n : Int) ≤ Decimal.int64Max then some (n : Int) else none := by
      have hint := Decimal.readInt64?_toString n
      simp only [Decimal.int64Min_le_natCast, true_and] at hint
      exact hint
    simp only [List.map_cons, readChains, hread, List.find?_cons]
    by_cases hle : (n : Int) ≤ Decimal.int64Max
    · have hnot : ¬ Decimal.int64Max < (n : Int) := by omega
      simp only [hle, if_true, hnot, decide_false, ih]
      cases ns.find? (fun n : Nat => Decimal.int64Max < (n : Int)) <;> rfl
    · have hlt : Decimal.int64Max < (n : Int) := by omega
      simp [hle, hlt]

/-! ## Rows -/

/-- Whether a row fits the columns of the migrated table. -/
structure Row.Fits (r : Row) : Prop where
  url : r.url.length ≤ maxFieldLength
  description : r.description.length ≤ maxFieldLength
  chains : ∀ n ∈ r.chains, Decimal.int64Min ≤ n ∧ n ≤ Decimal.int64Max

/-- A subscription whose chains are integers of a row has a row, and is the subscription
of it. -/
theorem Row.ofSubscription_of_range {s : Subscription} {ns : List Int}
    (hchains : s.chains = ns.map toString)
    (hrange : ∀ n ∈ ns, Decimal.int64Min ≤ n ∧ n ≤ Decimal.int64Max) :
    ∃ row, ofSubscription s = .ok row ∧ row.toSubscription = s ∧ row.chains = ns := by
  have hread : readChains s.chains = .ok ns := by
    rw [hchains, readChains_toString_of_range hrange]
  refine ⟨⟨s.id, s.url, s.description, s.isActive, s.authorization, ns, s.addresses, s.sends⟩,
    ?_, ?_, rfl⟩
  · rw [ofSubscription, hread]
    rfl
  · rw [toSubscription, ← hchains]

theorem Row.ofSubscription_of_gt {s : Subscription} {ns : List Nat}
    (hchains : s.chains = ns.map toString) {n : Nat}
    (hfound : ns.find? (fun n : Nat => Decimal.int64Max < (n : Int)) = some n) :
    ofSubscription s = .error (.configuration ("Invalid chain id: " ++ toString n)) := by
  rw [ofSubscription, hchains, readChains_toString, hfound]
  rfl

/-! ## Statements -/

namespace Database

theorem find?_of_answers {d : Database} (h : d.answers = true) (id : WebhookId) :
    d.find? id = .ok ((d.table.find? id).map Row.toSubscription) := by
  unfold find? select send
  simp only [h, if_true, Table.execute]
  cases d.table.find? id <;> rfl

theorem save_of_error {s : Subscription} {e : InfraError} (h : Row.ofSubscription s = .error e)
    (d : Database) : d.save s = (.error e, d) := by
  simp only [save, saveStatement, h, Except.map]

theorem save_of_row {d : Database} {s : Subscription} {row : Row}
    (hrow : Row.ofSubscription s = .ok row) (hanswers : d.answers = true)
    (hfree : d.table.isTaken row.id row.url = false) :
    d.save s = (.ok (), { d with table := d.table.place row }) := by
  simp only [save, saveStatement, hrow, Except.map, send, hanswers, if_true, Table.execute_upsert,
    hfree, Bool.false_eq_true, if_false]

/-- A row that was saved is read back as its subscription. -/
theorem find?_save_of_row {d : Database} {s : Subscription} {row : Row}
    (hrow : Row.ofSubscription s = .ok row) (hanswers : d.answers = true)
    (hfree : d.table.isTaken row.id row.url = false) :
    (d.save s).2.find? row.id = .ok (some row.toSubscription) := by
  have hsaved := save_of_row hrow hanswers hfree
  have hfind := find?_of_answers (d := (d.save s).2) (by rw [hsaved]; exact hanswers) row.id
  rw [hfind, hsaved, Table.find?_place, if_pos rfl]
  rfl

/-- A subscription with small enough chains is stored in a row that fits, and read back. -/
theorem save_of_le {d : Database} {s : Subscription} {ns : List Nat}
    (hchains : s.chains = ns.map toString) (hle : ∀ n ∈ ns, (n : Int) ≤ Decimal.int64Max)
    (hurl : s.url.length ≤ maxFieldLength) (hdescription : s.description.length ≤ maxFieldLength)
    (hanswers : d.answers = true) (hfree : d.table.isTaken s.id s.url = false) :
    (∃ row, saveStatement s = .ok (.upsert row) ∧ row.Fits) ∧
      (d.save s).1 = .ok () ∧ (d.save s).2.find? s.id = .ok (some s) := by
  have htexts : s.chains = (ns.map Int.ofNat).map toString := by
    rw [hchains, List.map_map]
    rfl
  have hrange : ∀ n ∈ ns.map Int.ofNat, Decimal.int64Min ≤ n ∧ n ≤ Decimal.int64Max := by
    intro m hm
    obtain ⟨n, hn, rfl⟩ := List.mem_map.1 hm
    exact ⟨Decimal.int64Min_le_natCast n, hle n hn⟩
  obtain ⟨row, hrow, hback, hints⟩ := Row.ofSubscription_of_range htexts hrange
  subst hback
  refine ⟨⟨row, by rw [saveStatement, hrow]; rfl, hurl, hdescription, hints ▸ hrange⟩, ?_, ?_⟩
  · rw [save_of_row hrow hanswers hfree]
  · exact find?_save_of_row hrow hanswers hfree

end Database

/-! ## Accepted requests -/

/-- An accepted request for a URL that no other row has is stored exactly when its chains
are signed 64-bit integers. Then its row fits the table and is read back as the
subscription of the request; otherwise the first chain that is too great is refused by
name and the database stays as it is. -/
theorem Registration.stored_iff {r : Registration} (haccepted : r.validate = .ok ())
    (id : WebhookId) {d : Database} (hanswers : d.answers = true)
    (hfree : d.table.isTaken id r.url = false) :
    ∃ s, r.toSubscription id = .ok s ∧
      ((d.save s).1 = .ok () ↔ ∀ n ∈ r.chains, (n.toNat : Int) ≤ Decimal.int64Max) ∧
      ((∀ n ∈ r.chains, (n.toNat : Int) ≤ Decimal.int64Max) →
        (∃ row, saveStatement s = .ok (.upsert row) ∧ row.Fits) ∧
        (d.save s).2.find? id = .ok (some s)) ∧
      (∀ n, r.chains.find? (fun n => Decimal.int64Max < (n.toNat : Int)) = some n →
        d.save s = (.error (.configuration ("Invalid chain id: " ++ toString n.toNat)), d)) := by
  obtain ⟨groups, -, hs⟩ := toSubscription_of_accepted haccepted id
  have hvalid := (validate_eq_ok_iff r).1 haccepted
  have hchains := chains_subscriptionWith r id groups
  refine ⟨r.subscriptionWith id groups, hs, ?_⟩
  cases hfound : r.chains.find? (fun n => Decimal.int64Max < (n.toNat : Int)) with
  | none =>
    have hle : ∀ n ∈ r.chains, (n.toNat : Int) ≤ Decimal.int64Max := by
      simpa using hfound
    have hle' : ∀ n ∈ r.chains.map UInt64.toNat, (n : Int) ≤ Decimal.int64Max := by
      intro n hn
      obtain ⟨m, hm, rfl⟩ := List.mem_map.1 hn
      exact hle m hm
    obtain ⟨hrow, hsaved, hread⟩ := Database.save_of_le hchains hle' hvalid.url_le
      hvalid.description_le hanswers hfree
    exact ⟨iff_of_true hsaved hle, fun _ => ⟨hrow, hread⟩, fun n hn => nomatch hn⟩
  | some n =>
    have hfirst : (r.chains.map UInt64.toNat).find? (fun n : Nat => Decimal.int64Max < (n : Int))
        = some n.toNat := by
      rw [List.find?_map]
      exact congrArg (Option.map UInt64.toNat) hfound
    have hrefused := Database.save_of_error (Row.ofSubscription_of_gt hchains hfirst) d
    have hnot : ¬ ∀ n ∈ r.chains, (n.toNat : Int) ≤ Decimal.int64Max := by
      intro hle
      have hgt := List.find?_some hfound
      simp only [decide_eq_true_eq] at hgt
      exact absurd (hle n (List.mem_of_find?_eq_some hfound)) (Int.not_le.2 hgt)
    refine ⟨?_, fun hle => absurd hle hnot, ?_⟩
    · rw [hrefused]
      exact iff_of_false (by simp) hnot
    · intro m hm
      cases hm
      exact hrefused

/-- A request with the greatest chain that is stored. -/
theorem Registration.stored_with_greatest_chain :
    let r : Registration := ⟨"d", "http://[::1]/", true, "", [1, 9223372036854775807], [],
      ["SEND_REORGS"]⟩
    r.validate = .ok () ∧
    ∃ s, r.toSubscription ⟨1⟩ = .ok s ∧ (Database.empty.save s).1 = .ok () ∧
      (Database.empty.save s).2.find? ⟨1⟩ = .ok (some s) := by
  intro r
  have haccepted : r.validate = .ok () := (validate_eq_ok_iff r).2
    ⟨by decide, by decide, by decide, isWebhookUrl_loopback, by decide, by decide, by decide,
      [.reorgs], rfl⟩
  obtain ⟨s, hs, hsaved, hread, -⟩ := stored_iff haccepted ⟨1⟩ (d := .empty) rfl rfl
  have hle : ∀ n ∈ r.chains, (n.toNat : Int) ≤ Decimal.int64Max := by
    simp [r, Decimal.int64Max]
  exact ⟨haccepted, s, hs, hsaved.2 hle, (hread hle).2⟩

/-- A request with the next chain, which is accepted and cannot be stored. -/
theorem Registration.accepted_not_stored :
    let r : Registration := ⟨"d", "http://[::1]/", true, "", [9223372036854775808], [],
      ["SEND_REORGS"]⟩
    r.validate = .ok () ∧ Database.empty.answers = true ∧
    Database.empty.table.isTaken ⟨1⟩ r.url = false ∧
    ∃ s, r.toSubscription ⟨1⟩ = .ok s ∧
      Database.empty.save s
        = (.error (.configuration "Invalid chain id: 9223372036854775808"), .empty) := by
  intro r
  have haccepted : r.validate = .ok () := (validate_eq_ok_iff r).2
    ⟨by decide, by decide, by decide, isWebhookUrl_loopback, by decide, by decide, by decide,
      [.reorgs], rfl⟩
  obtain ⟨groups, -, hs⟩ := toSubscription_of_accepted haccepted ⟨1⟩
  have hrefused := Row.ofSubscription_of_gt (chains_subscriptionWith r ⟨1⟩ groups)
    (n := 9223372036854775808) (by decide)
  exact ⟨haccepted, rfl, rfl, _, hs, Database.save_of_error hrefused _⟩

end WebhookRelay

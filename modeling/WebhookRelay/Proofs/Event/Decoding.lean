-- SUMMARY: What decoding makes of a message: its interpreted members occur once and its body is the very text.
import WebhookRelay.Event.Basic
import Mathlib
import WebhookRelay.Proofs.Json.Embedding
import WebhookRelay.Proofs.Json.Members
import WebhookRelay.Proofs.Relay.Posting

/-!
# Decoding

A message is decoded member by member into a draft (`Draft.take?`). Each interpreted member is taken
at most once, and every other is kept as it stands until all are there. So what a draft holds is
told by what stands under each key (`Draft.Holds`), and what an event shows of its message is told
by the values that a reader of the message finds under the keys (`Shows`).

Webhooks are chosen by the event and receive its body. `body_agrees` says that the two tell the same
type and address to whoever reads the body as JSON, and the same chain unless the message embeds the
text of its chain id in an object: who reads plain JSON sees this object.
-/

namespace WebhookRelay.Event

open Json

/-- The keys of the members that are interpreted. -/
def interpreted : List String :=
  ["chainId", "address", "type"]

theorem mem_interpreted_iff {key : String} :
    key ∈ interpreted ↔ key = "chainId" ∨ key = "address" ∨ key = "type" := by
  simp [interpreted]

/-- The terms under a key, in the order of the members. -/
def occurrences (key : String) (members : List (List StringUnit × Term)) : List Term :=
  (members.filter fun m => textOf? m.1 = some key).map (·.2)

/-- The members that are not interpreted. -/
def othersOf (members : List (List StringUnit × Term)) : List (List StringUnit × Term) :=
  members.filter fun m => textOf? m.1 ∉ interpreted.map some

/-- The values of a key, in the order of the members. -/
def valuesOf (key : String) (pairs : List (String × Json)) : List Json :=
  (pairs.filter (·.1 = key)).map (·.2)

/-- What a value gives as a chain id. -/
def chainText? : Json → Option String
  | .string s => some s
  | .number n => some n.text
  | .null => some ""
  | _ => none

/-- What a value gives as an address or a type. -/
def plainText? : Json → Option String
  | .string s => some s
  | .null => some ""
  | _ => none

/-- What a term gives for an interpreted key. The texts in it are looked into for the chain only. -/
def textFor? (key : String) (t : Term) : Option String :=
  if key = "chainId" then (t.read? (maxDepth - 1)).bind chainText?
  else (t.value? (maxDepth - 1)).bind plainText?

theorem bind_eq_ok_iff {ε α β : Type} {x : Except ε α} {f : α → Except ε β} {b : β} :
    x >>= f = .ok b ↔ ∃ a, x = .ok a ∧ f a = .ok b := by
  cases x <;> simp [bind, Except.bind]

/-! ## Members and values of a key -/

theorem lookup_eq_head?_valuesOf (key : String) (pairs : List (String × Json)) :
    pairs.lookup key = (valuesOf key pairs).head? := by
  induction pairs with
  | nil => rfl
  | cons pair pairs ih =>
    obtain ⟨k, v⟩ := pair
    rw [lookup_cons_eq, ih]
    by_cases h : key = k
    · simp [valuesOf, h]
    · simp [valuesOf, h, Ne.symm h]

theorem valuesOf_reverse (key : String) (pairs : List (String × Json)) :
    valuesOf key pairs.reverse = (valuesOf key pairs).reverse := by
  rw [valuesOf, List.filter_reverse, List.map_reverse, valuesOf]

theorem occurrences_concat (key : String) (members : List (List StringUnit × Term))
    (m : List StringUnit × Term) : occurrences key (members ++ [m])
      = occurrences key members ++ if textOf? m.1 = some key then [m.2] else [] := by
  by_cases h : textOf? m.1 = some key <;> simp [occurrences, h]

theorem othersOf_concat (members : List (List StringUnit × Term)) (m : List StringUnit × Term) :
    othersOf (members ++ [m])
      = othersOf members ++ if textOf? m.1 ∈ interpreted.map some then [] else [m] := by
  rw [othersOf, List.filter_append, ← othersOf, List.filter_singleton]
  by_cases h : textOf? m.1 ∈ interpreted.map some
  · rw [if_pos h, decide_eq_false (not_not.2 h)]
    rfl
  · rw [if_neg h, decide_eq_true h]
    rfl

/-- Leaving out the interpreted members does not change what stands under other keys. -/
theorem occurrences_othersOf {key : String} (hkey : key ∉ interpreted)
    (members : List (List StringUnit × Term)) :
    occurrences key (othersOf members) = occurrences key members := by
  rw [occurrences, othersOf, List.filter_filter, occurrences]
  congr 1
  refine List.filter_congr fun m _ => ?_
  by_cases hm : textOf? m.1 = some key <;> simp [hm, hkey]

theorem occurrences_othersOf_of_mem {key : String} (hkey : key ∈ interpreted)
    (members : List (List StringUnit × Term)) : occurrences key (othersOf members) = [] := by
  rw [occurrences, othersOf, List.filter_filter, List.map_eq_nil_iff, List.filter_eq_nil_iff]
  intro m _ hm
  simp only [Bool.and_eq_true, decide_eq_true_eq] at hm
  exact hm.2 (hm.1 ▸ List.mem_map_of_mem hkey)

section

variable {special : List (List StringUnit × Term) → Option (Option Json)} {depth : Nat}
  {members : List (List StringUnit × Term)} {pairs : List (String × Json)}

/-- The values of a key are those of its terms. -/
theorem map_valueWith?_occurrences (h : memberValuesWith? special depth members = some pairs)
    (key : String) : (occurrences key members).map (Term.valueWith? special depth)
      = (valuesOf key pairs).map some := by
  have hpairs := memberValuesWith?_eq_some_iff.1 h
  clear h
  induction hpairs with
  | nil => rfl
  | @cons m p members pairs hmp _ ih =>
    obtain ⟨units, t⟩ := m
    obtain ⟨k, v⟩ := p
    obtain ⟨hk, hv⟩ := hmp
    rw [occurrences, valuesOf] at ih ⊢
    by_cases hkey : k = key
    · simp [hk, hkey, hv, ih]
    · simp [hk, hkey, ih]

/-- The last value of a key is that of its last term. -/
theorem lookup_reverse_eq (h : memberValuesWith? special depth members = some pairs)
    (key : String) : pairs.reverse.lookup key
      = (occurrences key members).getLast?.bind (Term.valueWith? special depth) := by
  have hlast := congrArg List.getLast? (map_valueWith?_occurrences h key)
  rw [List.getLast?_map, List.getLast?_map] at hlast
  rw [lookup_eq_head?_valuesOf, valuesOf_reverse, List.head?_reverse]
  cases hvalue : (valuesOf key pairs).getLast? <;>
    cases hterm : (occurrences key members).getLast? <;> simp_all

end

namespace Draft

/-! ## Members that are taken -/

theorem chainIdOf_eq_ok_iff {t : Term} {s : String} :
    chainIdOf t = .ok s ↔ textFor? "chainId" t = some s := by
  unfold chainIdOf
  rw [textFor?, if_pos rfl]
  cases h : t.read? (maxDepth - 1) with
  | none => simp
  | some v => cases v <;> simp [chainText?]

theorem textOrNull_eq_ok_iff {t : Term} {s : String} :
    textOrNull t = .ok s ↔ (t.value? (maxDepth - 1)).bind plainText? = some s := by
  cases t with
  | null => simp [textOrNull, Term.value?, Term.valueWith?, plainText?]
  | string units =>
    cases h : textOf? units <;> simp [textOrNull, Term.value?, Term.valueWith?, plainText?, h]
  | bool b => simp [textOrNull, Term.value?, Term.valueWith?, plainText?]
  | number l =>
    simp [textOrNull, Term.value?, Term.valueWith?, Option.bind_eq_some_iff, plainText?]
  | array items =>
    simp [textOrNull, Term.value?, Term.valueWith?, Option.bind_eq_some_iff, plainText?, maxDepth]
  | object members =>
    simp [textOrNull, Term.value?, Term.valueWith?, Option.bind_eq_some_iff, plainText?,
      nothingSpecial, maxDepth]

/-- Takes up a member with some key; an interpreted one must not repeat. -/
def take? (d : Draft) (key : String) (m : List StringUnit × Term) : Option Draft :=
  if key = "chainId" then
    if d.chainId.isSome then none
    else (textFor? "chainId" m.2).map fun s => { d with chainId := some s }
  else if key = "address" then
    if d.address.isSome then none
    else (textFor? "address" m.2).map fun s => { d with address := some s }
  else if key = "type" then
    if d.type.isSome then none
    else (textFor? "type" m.2).map fun s => { d with type := some s }
  else (m.2.value? (maxDepth - 1)).map fun _ => { d with others := d.others ++ [m] }

theorem take?_of_not_mem (d : Draft) {key : String} (h : key ∉ interpreted)
    (m : List StringUnit × Term) : d.take? key m
      = (m.2.value? (maxDepth - 1)).map fun _ => { d with others := d.others ++ [m] } := by
  rw [mem_interpreted_iff, not_or, not_or] at h
  rw [take?, if_neg h.1, if_neg h.2.1, if_neg h.2.2]

/-- What must not repeat is taken when it was not there, and when it can be read. -/
theorem once_eq_ok_iff {taken : Bool} {make : String → Draft} {d' : Draft}
    {found : Except EventError String} {text? : Option String}
    (hfound : ∀ s, found = .ok s ↔ text? = some s) :
    (if taken = true then do
        throw malformed
        let s ← found
        pure (make s)
      else do
        let s ← found
        pure (make s)) = .ok d' ↔ (if taken = true then none else text?.map make) = some d' := by
  cases taken with
  | true => simp [throw, throwThe, MonadExceptOf.throw, bind, Except.bind]
  | false =>
    simp only [Bool.false_eq_true, if_false, bind_eq_ok_iff, hfound, Option.map_eq_some_iff,
      pure, Except.pure, Except.ok.injEq]

/-- A member adds to a draft what it is taken for under its key. -/
theorem add_eq_ok_iff {d d' : Draft} {m : List StringUnit × Term} :
    d.add m = .ok d' ↔ ∃ key, textOf? m.1 = some key ∧ d.take? key m = some d' := by
  unfold add
  split
  · next hkey => simp [hkey, throw, throwThe, MonadExceptOf.throw]
  · next hkey =>
    simp only [hkey, Option.some.injEq, exists_eq_left']
    exact once_eq_ok_iff fun s => chainIdOf_eq_ok_iff
  · next hkey =>
    simp only [hkey, Option.some.injEq, exists_eq_left']
    exact once_eq_ok_iff fun s => textOrNull_eq_ok_iff
  · next hkey =>
    simp only [hkey, Option.some.injEq, exists_eq_left']
    exact once_eq_ok_iff fun s => textOrNull_eq_ok_iff
  · next key hchain haddress htype hkey =>
    have hother : key ∉ interpreted := by
      rw [mem_interpreted_iff, not_or, not_or]
      exact ⟨hchain, haddress, htype⟩
    simp only [hkey, Option.some.injEq, exists_eq_left', take?_of_not_mem d hother]
    cases m.2.value? (maxDepth - 1) with
    | none => simp [throw, throwThe, MonadExceptOf.throw]
    | some v => simp [pure, Except.pure]

theorem isSome_value?_of_textFor? {key : String} {t : Term} {s : String}
    (h : textFor? key t = some s) : (t.value? (maxDepth - 1)).isSome := by
  unfold textFor? at h
  split at h
  · obtain ⟨v, hv, -⟩ := Option.bind_eq_some_iff.1 h
    exact isSome_value?_iff.2 (Term.within_of_read hv)
  · obtain ⟨v, hv, -⟩ := Option.bind_eq_some_iff.1 h
    exact Option.isSome_iff_exists.2 ⟨v, hv⟩

/-- Whatever is taken has a value by the grammar alone. -/
theorem isSome_value?_of_take? {d d' : Draft} {key : String} {m : List StringUnit × Term}
    (h : d.take? key m = some d') : (m.2.value? (maxDepth - 1)).isSome := by
  unfold take? at h
  split_ifs at h
  · obtain ⟨s, hs, -⟩ := Option.map_eq_some_iff.1 h
    exact isSome_value?_of_textFor? hs
  · obtain ⟨s, hs, -⟩ := Option.map_eq_some_iff.1 h
    exact isSome_value?_of_textFor? hs
  · obtain ⟨s, hs, -⟩ := Option.map_eq_some_iff.1 h
    exact isSome_value?_of_textFor? hs
  · obtain ⟨v, hv, -⟩ := Option.map_eq_some_iff.1 h
    exact Option.isSome_iff_exists.2 ⟨v, hv⟩

/-! ## What a draft holds -/

/-- Whether a place in a draft is filled by what stands under a key: it is empty when there is
nothing, and holds what the only term gives. -/
def Filled (key : String) (members : List (List StringUnit × Term)) (place : Option String) :
    Prop :=
  (occurrences key members).map (textFor? key) = place.toList.map some

section

variable {key : String} {members : List (List StringUnit × Term)} {place : Option String}
  {m : List StringUnit × Term}

theorem Filled.snoc_of_ne (h : Filled key members place) (hne : textOf? m.1 ≠ some key) :
    Filled key (members ++ [m]) place := by
  rw [Filled, occurrences_concat, if_neg hne, List.append_nil]
  exact h

theorem Filled.snoc (h : Filled key members none) (hkey : textOf? m.1 = some key) {s : String}
    (hs : textFor? key m.2 = some s) : Filled key (members ++ [m]) (some s) := by
  rw [Filled, occurrences_concat, if_pos hkey, List.map_append, h]
  simp [hs]

/-- A place that is empty is filled by what is taken up. -/
theorem Filled.take (h : Filled key members place) (hkey : textOf? m.1 = some key)
    {make : String → Draft} {d' : Draft}
    (htake : (if place.isSome then none else (textFor? key m.2).map make) = some d') :
    ∃ s, make s = d' ∧ Filled key (members ++ [m]) (some s) := by
  obtain ⟨hempty, htake⟩ := Option.ite_none_left_eq_some.1 htake
  obtain ⟨s, hs, hmake⟩ := Option.map_eq_some_iff.1 htake
  rw [Option.not_isSome_iff_eq_none.1 hempty] at h
  exact ⟨s, hmake, h.snoc hkey hs⟩

theorem Filled.occurrences_eq_nil (h : Filled key members none) : occurrences key members = [] :=
  List.map_eq_nil_iff.1 h

theorem Filled.exists_occurrences_eq {s : String} (h : Filled key members (some s)) :
    ∃ t, occurrences key members = [t] ∧ textFor? key t = some s := by
  obtain ⟨t, ht, hs⟩ := List.map_eq_singleton_iff.1 h
  exact ⟨t, ht, hs⟩

end

/-- Whether a draft is what some members make: each key that is interpreted fills its place, the
others are kept as they stand, and all have values. -/
structure Holds (d : Draft) (members : List (List StringUnit × Term)) : Prop where
  chainId : Filled "chainId" members d.chainId
  address : Filled "address" members d.address
  type : Filled "type" members d.type
  others : d.others = othersOf members
  valued : (memberValues? (maxDepth - 1) members).isSome

theorem holds_empty : empty.Holds [] :=
  ⟨rfl, rfl, rfl, rfl, rfl⟩

section

variable {d d' : Draft} {members : List (List StringUnit × Term)} {m : List StringUnit × Term}

theorem Holds.add (h : d.Holds members) (hadd : d.add m = .ok d') : d'.Holds (members ++ [m]) := by
  obtain ⟨key, hkey, htake⟩ := add_eq_ok_iff.1 hadd
  have hvalued : (memberValues? (maxDepth - 1) (members ++ [m])).isSome := by
    refine isSome_memberValuesWith?_iff.2 (List.forall_mem_append.2
      ⟨isSome_memberValuesWith?_iff.1 h.valued, List.forall_mem_singleton.2 ⟨?_, ?_⟩⟩)
    · rw [hkey]
      rfl
    · exact isSome_value?_of_take? htake
  obtain ⟨hchainId, haddress, htype, hothers, -⟩ := h
  have hne : ∀ {other}, key ≠ other → textOf? m.1 ≠ some other := by
    intro other hne heq
    exact hne (Option.some.inj (hkey.symm.trans heq))
  by_cases hmem : key ∈ interpreted
  · have hothers' : d.others = othersOf (members ++ [m]) := by
      rw [othersOf_concat, if_pos (hkey ▸ List.mem_map_of_mem hmem), List.append_nil, hothers]
    rcases mem_interpreted_iff.1 hmem with rfl | rfl | rfl
    · obtain ⟨s, rfl, hfilled⟩ := hchainId.take hkey htake
      exact ⟨hfilled, haddress.snoc_of_ne (hne (by decide)), htype.snoc_of_ne (hne (by decide)),
        hothers', hvalued⟩
    · obtain ⟨s, rfl, hfilled⟩ := haddress.take hkey htake
      exact ⟨hchainId.snoc_of_ne (hne (by decide)), hfilled, htype.snoc_of_ne (hne (by decide)),
        hothers', hvalued⟩
    · obtain ⟨s, rfl, hfilled⟩ := htype.take hkey htake
      exact ⟨hchainId.snoc_of_ne (hne (by decide)), haddress.snoc_of_ne (hne (by decide)), hfilled,
        hothers', hvalued⟩
  · rw [take?_of_not_mem d hmem] at htake
    obtain ⟨v, -, rfl⟩ := Option.map_eq_some_iff.1 htake
    have hothers' : d.others ++ [m] = othersOf (members ++ [m]) := by
      rw [othersOf_concat, if_neg (by simpa [hkey] using hmem), hothers]
    rw [mem_interpreted_iff, not_or, not_or] at hmem
    exact ⟨hchainId.snoc_of_ne (hne hmem.1), haddress.snoc_of_ne (hne hmem.2.1),
      htype.snoc_of_ne (hne hmem.2.2), hothers', hvalued⟩

theorem Holds.foldlM (h : d.Holds members) {more : List (List StringUnit × Term)}
    (hfold : more.foldlM Draft.add d = .ok d') : d'.Holds (members ++ more) := by
  induction more generalizing d members with
  | nil =>
    cases hfold
    rwa [List.append_nil]
  | cons m more ih =>
    rw [List.foldlM_cons] at hfold
    obtain ⟨d₁, hadd, hrest⟩ := bind_eq_ok_iff.1 hfold
    have hall := ih (h.add hadd) hrest
    rwa [List.append_assoc] at hall

end

theorem finish_eq_ok_iff {d : Draft} {e : Event} :
    d.finish = .ok e ↔ ∃ readings, memberReadings? (maxDepth - 1) d.others = some readings ∧
      ⟨d.chainId.getD "", d.address.getD "", d.type.getD "", .ofList readings, none⟩ = e := by
  unfold finish
  cases memberReadings? (maxDepth - 1) d.others <;> simp

end Draft

/-! ## Texts and messages -/

/-- A text is decoded when it is an object whose members make a draft that can be finished. -/
theorem decode_eq_ok_iff {text : String} {e : Event} :
    decode text = .ok e ↔ ∃ members d, Document text (.object members) ∧
      members.foldlM Draft.add Draft.empty = .ok d ∧ d.finish = .ok e := by
  unfold decode
  constructor
  · intro h
    split at h
    · cases h
    · next members complete hscan =>
      obtain ⟨d, hd, h⟩ := bind_eq_ok_iff.1 h
      cases complete with
      | false => cases h
      | true => exact ⟨members, d, scanObject?_eq_some_iff.1 hscan, hd, h⟩
  · rintro ⟨members, d, hdocument, hd, hfinish⟩
    simp only [scanObject?_eq_some_iff.2 hdocument, hd]
    exact hfinish

/-- What was decoded is finished from a draft that holds the members. -/
theorem exists_holds_of_decode {text : String} {e : Event} (h : decode text = .ok e) :
    ∃ (members : _) (d : Draft), Document text (.object members) ∧ d.Holds members ∧
      d.finish = .ok e := by
  obtain ⟨members, d, hdocument, hfold, hfinish⟩ := decode_eq_ok_iff.1 h
  exact ⟨members, d, hdocument, Draft.holds_empty.foldlM hfold, hfinish⟩

theorem validate_eq_ok_iff (e : Event) : e.validate = .ok () ↔ e.chainId ≠ "" ∧ e.type ≠ "" := by
  unfold validate
  split
  · simp [*]
  · split <;> simp [*]

theorem ofText_eq_ok_iff {text : String} {e : Event} :
    ofText text = .ok e ↔ ∃ decoded, decode text = .ok decoded ∧ decoded.chainId ≠ "" ∧
      decoded.type ≠ "" ∧ { decoded with raw := some text } = e := by
  unfold ofText
  simp only [bind_eq_ok_iff, pure, Except.pure, Except.ok.injEq]
  constructor
  · rintro ⟨decoded, hdecode, ⟨⟩, hvalid, rfl⟩
    obtain ⟨hchainId, htype⟩ := (validate_eq_ok_iff decoded).1 hvalid
    exact ⟨decoded, hdecode, hchainId, htype, rfl⟩
  · rintro ⟨decoded, hdecode, hchainId, htype, rfl⟩
    exact ⟨decoded, hdecode, (), (validate_eq_ok_iff decoded).2 ⟨hchainId, htype⟩, rfl⟩

theorem fromUTF8?_eq_some_iff {payload : ByteArray} {text : String} :
    String.fromUTF8? payload = some text ↔ text.toUTF8 = payload := by
  unfold String.fromUTF8?
  split
  · rw [Option.some_inj, ← String.toByteArray_inj]
    exact eq_comm
  · next hinvalid =>
    refine ⟨nofun, ?_⟩
    rintro rfl
    exact absurd text.isValidUTF8 hinvalid

theorem ofPayload_eq_ok_iff {payload : ByteArray} {e : Event} :
    ofPayload payload = .ok e ↔ ∃ text, text.toUTF8 = payload ∧ ofText text = .ok e := by
  unfold ofPayload
  simp only [← fromUTF8?_eq_some_iff]
  cases String.fromUTF8? payload with
  | none => simp
  | some text => simp

/-! ## What an event shows of its body -/

/-- Whether a value names a chain: it is the chain's name, or a number that is written like it, or
it embeds a text that gives it. -/
def NamesChainAs (v : Json) (chain : String) : Prop :=
  v = .string chain ∨ (∃ n, v = .number n ∧ chain = n.text) ∨
    ∃ text w, v = .object [(embeddingKey, .string text)] ∧ parse? text = some w ∧
      chainText? w = some chain

/-- Whether an event shows the values that a reader finds under the interpreted keys: they do not
repeat, and its chain, its type and its address are these. -/
structure Shows (e : Event) (pairs : List (String × Json)) : Prop where
  chainId : ∃ v, valuesOf "chainId" pairs = [v] ∧ NamesChainAs v e.chainId
  type : valuesOf "type" pairs = [.string e.type]
  address : valuesOf "address" pairs = [] ∧ e.address = "" ∨
    valuesOf "address" pairs = [.null] ∧ e.address = "" ∨
    valuesOf "address" pairs = [.string e.address]

/-- Whether an event keeps what is read of the last term under every other key. -/
def KeepsOthers (e : Event) (members : List (List StringUnit × Term)) : Prop :=
  ∀ key, Members.find? key e.extra = if key ∈ interpreted then none
    else (occurrences key members).getLast?.bind (Term.read? (maxDepth - 1))

/-- A value names one chain. -/
theorem NamesChainAs.unique {v : Json} {chain chain' : String} (h : NamesChainAs v chain)
    (h' : NamesChainAs v chain') : chain = chain' := by
  rcases h with rfl | ⟨n, rfl, rfl⟩ | ⟨text, w, rfl, hw, hchain⟩ <;>
    rcases h' with heq | ⟨n', heq, rfl⟩ | ⟨text', w', heq, hw', hchain'⟩ <;> cases heq
  · rfl
  · rfl
  · cases hw.symm.trans hw'
    exact Option.some.inj (hchain.symm.trans hchain')

theorem plainText?_eq_some_iff {v : Json} {s : String} :
    plainText? v = some s ↔ v = .null ∧ s = "" ∨ v = .string s := by
  cases v <;> simp [plainText?, eq_comm]

/-- What is read of a term and gives a chain is its value, whatever the depth, or else what is read
of the text that it embeds. -/
theorem value?_or_embeds {inner : String → Option Json} {depth : Nat} {t : Term} {v : Json}
    (h : t.valueWith? (embedding inner) depth = some v) (hchain : (chainText? v).isSome) :
    (∀ d, t.value? d = some v) ∨ ∃ d key units text, depth = d + 1 ∧
      t = .object [(key, .string units)] ∧ textOf? key = some embeddingKey ∧
      textOf? units = some text ∧ inner text = some v := by
  cases t with
  | null | number | string => exact .inl fun _ => h
  | bool b =>
    cases h
    cases hchain
  | array items =>
    cases depth with
    | zero => cases h
    | succ depth =>
      obtain ⟨_, -, rfl⟩ := Option.map_eq_some_iff.1 h
      cases hchain
  | object members =>
    cases depth with
    | zero => cases h
    | succ depth =>
      simp only [Term.valueWith?] at h
      split at h
      · next hspecial =>
        subst h
        obtain ⟨key, units, text, rfl, hkey, htext, hv⟩ := embedding_eq_some_some_iff.1 hspecial
        exact .inr ⟨depth, key, units, text, rfl, rfl, hkey, htext, hv⟩
      · obtain ⟨_, -, rfl⟩ := Option.map_eq_some_iff.1 h
        cases hchain

/-- What is read of a term gives a chain, and so its value names it. -/
theorem namesChainAs_of_read? {depth : Nat} {t : Term} {v w : Json} {s : String}
    (hw : t.read? depth = some w) (hs : chainText? w = some s) (hne : s ≠ "")
    (hv : t.value? depth = some v) : NamesChainAs v s := by
  obtain hvalue | ⟨d, key, units, text, rfl, rfl, hkey, htext, hparse⟩ :=
    value?_or_embeds hw (Option.isSome_of_eq_some hs)
  · cases hv.symm.trans (hvalue depth)
    cases v with
    | string s' =>
      cases hs
      exact .inl rfl
    | number n => exact .inr (.inl ⟨n, rfl, (Option.some.inj hs).symm⟩)
    | null => exact absurd (Option.some.inj hs).symm hne
    | bool | array | object => cases hs
  · refine .inr (.inr ⟨text, w, ?_, hparse, hs⟩)
    simpa [Term.value?, Term.valueWith?, nothingSpecial, memberValuesWith?, hkey, htext,
      Members.ofList, Members.insert, eq_comm] using hv

section

variable {d : Draft} {e : Event} {members : List (List StringUnit × Term)}
  {pairs : List (String × Json)}

/-- The only value of a key is that of its only term. -/
theorem exists_valuesOf_eq (hpairs : memberValues? (maxDepth - 1) members = some pairs)
    {key : String} {t : Term} (ht : occurrences key members = [t]) :
    ∃ v, valuesOf key pairs = [v] ∧ t.value? (maxDepth - 1) = some v := by
  have hvalues := map_valueWith?_occurrences hpairs key
  rw [ht, List.map_singleton] at hvalues
  obtain ⟨v, hv, hvalue⟩ := List.map_eq_singleton_iff.1 hvalues.symm
  exact ⟨v, hv, hvalue.symm⟩

theorem valuesOf_eq_nil (hpairs : memberValues? (maxDepth - 1) members = some pairs)
    {key : String} (hnone : occurrences key members = []) : valuesOf key pairs = [] := by
  have hvalues := map_valueWith?_occurrences hpairs key
  rw [hnone, List.map_nil] at hvalues
  exact List.map_eq_nil_iff.1 hvalues.symm

/-- A draft without a chain or a type does not make a valid event, so there the only value
is no null. -/
theorem Draft.Holds.shows (h : d.Holds members) (hfinish : d.finish = .ok e)
    (hpairs : memberValues? (maxDepth - 1) members = some pairs) (hchainId : e.chainId ≠ "")
    (htype : e.type ≠ "") : e.Shows pairs := by
  obtain ⟨readings, -, rfl⟩ := finish_eq_ok_iff.1 hfinish
  obtain ⟨chainId?, address?, type?, others⟩ := d
  obtain ⟨hchainIdFilled, haddressFilled, htypeFilled, -, -⟩ := h
  have hplain : ∀ {key s}, key ≠ "chainId" → Filled key members (some s) →
      ∃ v, valuesOf key pairs = [v] ∧ (v = .null ∧ s = "" ∨ v = .string s) := by
    intro key s hkey hfilled
    obtain ⟨t, ht, hs⟩ := hfilled.exists_occurrences_eq
    obtain ⟨v, hvalues, hv⟩ := exists_valuesOf_eq hpairs ht
    rw [textFor?, if_neg hkey, hv, Option.bind_some] at hs
    exact ⟨v, hvalues, plainText?_eq_some_iff.1 hs⟩
  constructor
  case chainId =>
    cases chainId? with
    | none => exact absurd rfl hchainId
    | some s =>
      obtain ⟨t, ht, hs⟩ := hchainIdFilled.exists_occurrences_eq
      obtain ⟨v, hvalues, hv⟩ := exists_valuesOf_eq hpairs ht
      rw [textFor?, if_pos rfl] at hs
      obtain ⟨w, hw, hs⟩ := Option.bind_eq_some_iff.1 hs
      exact ⟨v, hvalues, namesChainAs_of_read? hw hs hchainId hv⟩
  case type =>
    cases type? with
    | none => exact absurd rfl htype
    | some s =>
      obtain ⟨v, hvalues, ⟨-, hs⟩ | rfl⟩ := hplain (by decide) htypeFilled
      · exact absurd hs htype
      · exact hvalues
  case address =>
    cases address? with
    | none => exact .inl ⟨valuesOf_eq_nil hpairs haddressFilled.occurrences_eq_nil, rfl⟩
    | some s =>
      obtain ⟨v, hvalues, ⟨rfl, hs⟩ | rfl⟩ := hplain (by decide) haddressFilled
      · exact .inr (.inl ⟨hvalues, hs⟩)
      · exact .inr (.inr hvalues)

/-- The members that are not interpreted are kept by their keys. -/
theorem Draft.Holds.keepsOthers (h : d.Holds members) (hfinish : d.finish = .ok e) :
    e.KeepsOthers members := by
  obtain ⟨readings, hreadings, rfl⟩ := finish_eq_ok_iff.1 hfinish
  intro key
  rw [Members.find?_ofList, lookup_reverse_eq hreadings, h.others]
  split
  · next hkey => rw [occurrences_othersOf_of_mem hkey]; rfl
  · next hkey => rw [occurrences_othersOf hkey]; rfl

end

namespace Shows

variable {e e' : Event} {pairs pairs' : List (String × Json)}

theorem withText (h : e.Shows pairs) (raw : Option String) : Shows { e with raw := raw } pairs :=
  ⟨h.chainId, h.type, h.address⟩

theorem length_valuesOf_le (h : e.Shows pairs) {key : String} (hkey : key ∈ interpreted) :
    (valuesOf key pairs).length ≤ 1 := by
  rcases mem_interpreted_iff.1 hkey with rfl | rfl | rfl
  · obtain ⟨v, hvalues, -⟩ := h.chainId
    simp [hvalues]
  · rcases h.address with ⟨hvalues, -⟩ | ⟨hvalues, -⟩ | hvalues <;> simp [hvalues]
  · simp [h.type]

/-- Whether a reader lets the first or the last of repeated keys win, it finds the only value
there is. -/
theorem lookup_eq (h : e.Shows pairs) {key : String} (hkey : key ∈ interpreted) :
    pairs.lookup key = (valuesOf key pairs).head? ∧
    pairs.reverse.lookup key = (valuesOf key pairs).head? := by
  have hlength := h.length_valuesOf_le hkey
  rw [lookup_eq_head?_valuesOf, lookup_eq_head?_valuesOf, valuesOf_reverse]
  generalize valuesOf key pairs = values at hlength
  match values with
  | [] => exact ⟨rfl, rfl⟩
  | [v] => exact ⟨rfl, rfl⟩

/-- The chain is the one that stands there exactly if no object stands there. -/
theorem chainId_iff (h : e.Shows pairs) :
    (∃ v, valuesOf "chainId" pairs = [v] ∧
      (v = .string e.chainId ∨ ∃ n, v = .number n ∧ e.chainId = n.text)) ↔
    ∀ v ∈ valuesOf "chainId" pairs, ∀ ms, v ≠ .object ms := by
  obtain ⟨v, hvalues, hnames⟩ := h.chainId
  rw [hvalues]
  simp only [List.mem_singleton, forall_eq, List.cons.injEq, and_true]
  constructor
  · rintro ⟨_, rfl, rfl | ⟨n, rfl, -⟩⟩ <;> exact nofun
  · intro hplain
    rcases hnames with hs | hn | ⟨text, w, hobject, -⟩
    · exact ⟨v, rfl, .inl hs⟩
    · exact ⟨v, rfl, .inr hn⟩
    · exact absurd hobject (hplain _)

/-- Two events that show the same values of the interpreted keys agree on them. -/
theorem eq_of_valuesOf (h : e.Shows pairs) (h' : e'.Shows pairs')
    (hvalues : ∀ key ∈ interpreted, valuesOf key pairs' = valuesOf key pairs) :
    e'.chainId = e.chainId ∧ e'.type = e.type ∧ e'.address = e.address := by
  refine ⟨?chainId, ?type, ?address⟩
  case chainId =>
    obtain ⟨v, hv, hnames⟩ := h.chainId
    obtain ⟨v', hv', hnames'⟩ := h'.chainId
    have heq := hv'.symm.trans ((hvalues "chainId" (by decide)).trans hv)
    cases heq
    exact hnames'.unique hnames
  case type =>
    have heq := h'.type.symm.trans ((hvalues "type" (by decide)).trans h.type)
    simpa using heq
  case address =>
    have heq := hvalues "address" (by decide)
    rcases h.address with ⟨hv, hs⟩ | ⟨hv, hs⟩ | hv <;>
      rcases h'.address with ⟨hv', hs'⟩ | ⟨hv', hs'⟩ | hv' <;>
      simp_all

end Shows

/-- Where no object is marked, what is kept is the last value. -/
theorem KeepsOthers.find?_eq {e : Event} {members : List (List StringUnit × Term)}
    {pairs : List (String × Json)} (h : e.KeepsOthers members)
    (hpairs : memberValues? (maxDepth - 1) members = some pairs) {key : String}
    (hkey : key ∉ interpreted) (hunmarked : ∀ t ∈ occurrences key members, t.Unmarked) :
    Members.find? key e.extra = pairs.reverse.lookup key := by
  rw [h, if_neg hkey, lookup_reverse_eq hpairs]
  cases hlast : (occurrences key members).getLast? with
  | none => rfl
  | some t => exact (hunmarked t (List.mem_of_getLast? hlast)).read?_eq _

/-! ## The body and the event -/

/-- A message is read by one grammar, and an accepted one is an object whose members the
event shows. -/
theorem ofPayload_shows {payload : ByteArray} {e : Event} (h : ofPayload payload = .ok e) :
    e.body.toUTF8 = payload ∧ ∃ members pairs, Document e.body (.object members) ∧
      memberValues? (maxDepth - 1) members = some pairs ∧ e.Shows pairs ∧
      e.KeepsOthers members := by
  obtain ⟨text, hpayload, htext⟩ := ofPayload_eq_ok_iff.1 h
  obtain ⟨decoded, hdecode, hchainId, htype, rfl⟩ := ofText_eq_ok_iff.1 htext
  obtain ⟨members, d, hdocument, hholds, hfinish⟩ := exists_holds_of_decode hdecode
  obtain ⟨pairs, hpairs⟩ := Option.isSome_iff_exists.1 hholds.valued
  have hkeeps := hholds.keepsOthers hfinish
  exact ⟨hpayload, members, pairs, hdocument, hpairs,
    (hholds.shows hfinish hpairs hchainId htype).withText _, fun key => hkeeps key⟩

/-- What an event is matched by is what its body says to any reader, as long as the chain id is no
object: the body is the message itself, its only reading is one object, the type and the address are
the values of keys that occur once, and so is the chain unless an object stands there. Such an
object embeds a text that gives the chain, which a reader of plain JSON does not look into. Whatever
stands under other keys makes no difference to all that; the last of it per key is kept, as it
stands when no object in it is marked. -/
theorem body_agrees {payload : ByteArray} {e : Event} (h : ofPayload payload = .ok e) :
    e.body.toUTF8 = payload ∧
    (∀ r : Relay, (r.capture e).map (·.entry.subscription)
        = r.registry.subscriptions.filter (·.isRelevant (.new e.chainId e.type e.address)) ∧
      ∀ d ∈ r.capture e, d.body = e.body) ∧
    ∃ members pairs, (∀ t, Document e.body t ↔ t = .object members) ∧
      memberValues? (maxDepth - 1) members = some pairs ∧ e.Shows pairs ∧
      ((∃ v, valuesOf "chainId" pairs = [v] ∧
          (v = .string e.chainId ∨ ∃ n, v = .number n ∧ e.chainId = n.text)) ↔
        ∀ v ∈ valuesOf "chainId" pairs, ∀ ms, v ≠ .object ms) ∧
      (∀ key ∈ interpreted, pairs.lookup key = (valuesOf key pairs).head? ∧
        pairs.reverse.lookup key = (valuesOf key pairs).head?) ∧
      e.KeepsOthers members ∧
      (∀ key ∉ interpreted, (∀ t ∈ occurrences key members, t.Unmarked) →
        Members.find? key e.extra = pairs.reverse.lookup key) ∧
      ∀ (payload' : ByteArray) (e' : Event) members' pairs', ofPayload payload' = .ok e' →
        Document e'.body (.object members') → memberValues? (maxDepth - 1) members' = some pairs' →
        (∀ key ∈ interpreted, valuesOf key pairs' = valuesOf key pairs) →
        e'.chainId = e.chainId ∧ e'.type = e.type ∧ e'.address = e.address := by
  obtain ⟨hpayload, members, pairs, hdocument, hpairs, hshows, hkeeps⟩ := ofPayload_shows h
  refine ⟨hpayload, ?captured, members, pairs, ?reading, hpairs, hshows, hshows.chainId_iff,
    ?lookup, hkeeps, ?unmarked, ?others⟩
  case captured =>
    intro r
    exact ⟨r.map_subscription_capture e, fun d hd => Relay.body_of_mem_capture hd⟩
  case reading =>
    intro t
    constructor
    · exact fun ht => ht.unique hdocument
    · rintro rfl
      exact hdocument
  case lookup => exact fun key hkey => hshows.lookup_eq hkey
  case unmarked => exact fun key hkey => hkeeps.find?_eq hpairs hkey
  case others =>
    intro payload' e' members' pairs' h' hdocument' hpairs' hvalues
    obtain ⟨-, members'', pairs'', hdocument'', hpairs'', hshows', -⟩ := ofPayload_shows h'
    cases hdocument'.unique hdocument''
    cases hpairs'.symm.trans hpairs''
    exact hshows.eq_of_valuesOf hshows' hvalues

/-- A message with an escaped key, a key of its own twice and a chain id further down. -/
def repeatingText : String :=
  "\x7b\"chain\\u0049d\":1,\"raw\":0,\"type\":\"A\",\"raw\":\x7b\"chainId\":\"2\"\x7d\x7d"

/-- A message of the same chain and type, with nothing else. -/
def plainText : String :=
  "\x7b\"type\":\"A\",\"chainId\":1\x7d"

/-- Neither the repeated key nor the chain id further down makes a difference. -/
theorem body_agrees_of_repeated_keys :
    let nested : Json := .object [("chainId", .string "2")]
    let e : Event := ⟨"1", "", "A", [("raw", nested)], some repeatingText⟩
    let plain : Event := ⟨"1", "", "A", [], some plainText⟩
    ofPayload repeatingText.toUTF8 = .ok e ∧ ofPayload plainText.toUTF8 = .ok plain ∧
    e.body.toUTF8 = repeatingText.toUTF8 ∧
    ∃ members pairs, (∀ t, Document repeatingText t ↔ t = .object members) ∧
      memberValues? (maxDepth - 1) members = some pairs ∧ e.Shows pairs ∧
      pairs.lookup "chainId" = pairs.reverse.lookup "chainId" ∧
      pairs.reverse.lookup "raw" = some nested ∧
      plain.chainId = e.chainId ∧ plain.type = e.type ∧ plain.address = e.address := by
  intro nested e plain
  have hevent : ofPayload repeatingText.toUTF8 = .ok e :=
    ofPayload_eq_ok_iff.2 ⟨repeatingText, rfl, by cbv⟩
  have hplain : ofPayload plainText.toUTF8 = .ok plain :=
    ofPayload_eq_ok_iff.2 ⟨plainText, rfl, by cbv⟩
  obtain ⟨ms, hscan, hms⟩ : ∃ ms, scanObject? repeatingText = some (ms, true) ∧
      memberValues? (maxDepth - 1) ms = some [("chainId", .number (.integer 1)),
        ("raw", .number (.integer 0)), ("type", .string "A"), ("raw", nested)] :=
    ⟨_, by cbv, by cbv⟩
  obtain ⟨ms', hscan', hms'⟩ : ∃ ms, scanObject? plainText = some (ms, true) ∧
      memberValues? (maxDepth - 1) ms
        = some [("type", .string "A"), ("chainId", .number (.integer 1))] :=
    ⟨_, by cbv, by cbv⟩
  obtain ⟨hbody, -, members, pairs, hreading, hpairs, hshows, -, hlookup, -, -, hothers⟩ :=
    body_agrees hevent
  obtain rfl : ms = members := Term.object.inj ((hreading _).1 (scanObject?_eq_some_iff.1 hscan))
  obtain rfl := Option.some.inj (hms.symm.trans hpairs)
  refine ⟨hevent, hplain, hbody, ms, _, hreading, hms, hshows, ?lookup, ?raw, ?same⟩
  case raw => simp
  case lookup =>
    obtain ⟨hfirst, hlast⟩ := hlookup "chainId" (by decide)
    exact hfirst.trans hlast.symm
  case same =>
    exact hothers _ plain ms' _ hplain (scanObject?_eq_some_iff.1 hscan') hms'
      (by simp [interpreted, valuesOf])

/-- A message whose chain id embeds the text of a chain id. -/
def embeddingText : String :=
  "\x7b\"chainId\":\x7b\"$serde_json::private::RawValue\":\"\\\"1\\\"\"\x7d,"
    ++ "\"type\":\"SAFE_CREATED\"\x7d"

/-- It is taken for a message of this chain, and its body has an object there instead. -/
theorem chainId_not_in_body :
    ∃ e members pairs, ofPayload embeddingText.toUTF8 = .ok e ∧ e.chainId = "1" ∧
      e.body = embeddingText ∧ Document e.body (.object members) ∧
      memberValues? (maxDepth - 1) members = some pairs ∧
      pairs.lookup "chainId" = some (.object [(embeddingKey, .string "\"1\"")]) ∧
      pairs.reverse.lookup "chainId" = some (.object [(embeddingKey, .string "\"1\"")]) := by
  let e : Event := ⟨"1", "", "SAFE_CREATED", [], some embeddingText⟩
  have hevent : ofPayload embeddingText.toUTF8 = .ok e :=
    ofPayload_eq_ok_iff.2 ⟨embeddingText, rfl, by cbv⟩
  obtain ⟨ms, hscan, hms⟩ : ∃ ms, scanObject? embeddingText = some (ms, true) ∧
      memberValues? (maxDepth - 1) ms = some [
        ("chainId", .object [(embeddingKey, .string "\"1\"")]), ("type", .string "SAFE_CREATED")] :=
    ⟨_, by cbv, by cbv⟩
  exact ⟨e, ms, _, hevent, rfl, rfl, scanObject?_eq_some_iff.1 hscan, hms, rfl, rfl⟩

end WebhookRelay.Event

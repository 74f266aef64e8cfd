-- SUMMARY: Setting members of an event: when its body goes on saying what the event says, and when it is left behind.
import WebhookRelay.Proofs.Event.Encoding

/-!
# Coherence

The body of an event is the text that the event was read from, or else the text it is written as.
So when members are set on an event, its body follows only if there is no text to keep to. An event
that was read from a text keeps it as it is, and then its body tells what the event says only if
every member that was set ends with the value that the text has for it.
-/

namespace WebhookRelay

/-! ## Members that are set -/

namespace Json.Members

variable {members members' : Members} {key : String} {fields : List (String × Json)}

theorem Ordered.find?_eq_some_iff (h : Ordered members) {v : Json} :
    members.find? key = some v ↔ (key, v) ∈ members := by
  induction members with
  | nil => simp [find?]
  | cons member members ih =>
    obtain ⟨k, w⟩ := member
    obtain ⟨hfirst, hmembers⟩ := List.pairwise_cons.1 h
    rw [find?, lookup_cons_eq, List.mem_cons, ← ih hmembers, find?]
    by_cases hkey : key = k
    · subst hkey
      have hnone : (key, v) ∉ members := fun hmem => lt_irrefl key (hfirst (key, v) hmem)
      rw [← ih hmembers, find?] at hnone
      simp [hnone, eq_comm]
    · simp [hkey]

/-- Members in key order are determined by the values of their keys. -/
theorem Ordered.ext (h : Ordered members) (h' : Ordered members')
    (hsame : ∀ key, members.find? key = members'.find? key) : members = members' := by
  refine h.eq_of_perm h' ((List.perm_ext_iff_of_nodup (h.nodup_keys.of_map _)
    (h'.nodup_keys.of_map _)).2 ?_)
  rintro ⟨key, v⟩
  rw [← h.find?_eq_some_iff, hsame, h'.find?_eq_some_iff]

/-- Sets members, one after the other. -/
def insertAll (fields : List (String × Json)) (members : Members) : Members :=
  fields.foldl (fun ms f => insert f.1 f.2 ms) members

theorem insertAll_concat (fields : List (String × Json)) (f : String × Json) (members : Members) :
    insertAll (fields ++ [f]) members = insert f.1 f.2 (insertAll fields members) :=
  List.foldl_concat ..

theorem ordered_insertAll (h : Ordered members) (fields : List (String × Json)) :
    Ordered (insertAll fields members) := by
  induction fields using List.reverseRecOn with
  | nil => exact h
  | append_singleton fields f ih =>
    rw [insertAll_concat]
    exact ih.insert

/-- A key has the last value that was set for it, and else the one that it had. -/
theorem find?_insertAll (fields : List (String × Json)) (members : Members) (key : String) :
    (insertAll fields members).find? key = (fields.reverse.lookup key).or (members.find? key) := by
  induction fields using List.reverseRecOn with
  | nil => rfl
  | append_singleton fields f ih =>
    rw [insertAll_concat, find?_insert, List.reverse_append, List.reverse_singleton,
      List.singleton_append, lookup_cons_eq, ih]
    split <;> rfl

theorem mem_insertAll {p : String × Json} (h : p ∈ insertAll fields members) :
    p ∈ fields ∨ p ∈ members := by
  induction fields using List.reverseRecOn with
  | nil => exact .inr h
  | append_singleton fields f ih =>
    rw [insertAll_concat] at h
    rw [List.mem_append, List.mem_singleton]
    rcases mem_insert h with rfl | h
    · exact .inl (.inr rfl)
    · exact (ih h).imp_left .inl

/-- Nothing has changed exactly when every member that was set ends with the value that it had. -/
theorem Ordered.insertAll_eq_iff (h : Ordered members) : insertAll fields members = members ↔
    ∀ f ∈ fields, fields.reverse.lookup f.1 = members.find? f.1 := by
  constructor
  · intro heq f hf
    have hset : fields.reverse.lookup f.1 ≠ none := by
      rw [ne_eq, List.lookup_eq_none_iff]
      exact fun hnone => by simpa using hnone f (List.mem_reverse.2 hf)
    have hfind := find?_insertAll fields members f.1
    rw [heq, Option.or_of_isSome (Option.isSome_iff_ne_none.2 hset)] at hfind
    exact hfind.symm
  · intro hsame
    refine (ordered_insertAll h fields).ext h fun key => ?_
    rw [find?_insertAll]
    cases hlookup : fields.reverse.lookup key with
    | none => rfl
    | some v =>
      obtain ⟨front, back, heq, -⟩ := List.lookup_eq_some_iff.1 hlookup
      have hmem : (key, v) ∈ fields := List.mem_reverse.1 (heq ▸ by simp)
      rw [← hsame _ hmem, hlookup]
      rfl

end Json.Members

namespace Event

open Json

/-! ## Where events come from -/

/-- Where an event comes from. -/
inductive Origin where
  | made (chainId type address : String)
  /-- It was decoded, and its text was not kept. -/
  | decoded (text : String)
  | read (text : String)
  | received (payload : ByteArray)

/-- The event as it comes from there. -/
def Origin.event? : Origin → Except EventError Event
  | .made chainId type address => .ok (new chainId type address)
  | .decoded text => decode text
  | .read text => ofText text
  | .received payload => ofPayload payload

/-- The event with some members set, one after the other. Copies of an event are the event. -/
def withFields (e : Event) (fields : List (String × Json)) : Event :=
  fields.foldl (fun e f => e.withField f.1 f.2) e

theorem withFields_eq (e : Event) (fields : List (String × Json)) :
    e.withFields fields = { e with extra := Members.insertAll fields e.extra } :=
  foldl_withField e fields

/-- Whether the body of an event tells exactly what the event says. -/
def Coherent (e : Event) : Prop :=
  decode e.body = .ok { e with raw := none }

theorem decode_of_ofText {text : String} {e : Event} (h : ofText text = .ok e) :
    e.raw = some text ∧ decode text = .ok { e with raw := none } := by
  obtain ⟨decoded, hdecode, -, -, rfl⟩ := ofText_eq_ok_iff.1 h
  refine ⟨rfl, ?_⟩
  rw [hdecode]
  obtain ⟨chainId, address, type, extra, raw⟩ := decoded
  cases (writable_of_decode hdecode).raw
  rfl

/-- An event keeps the text that tells what it says, or can be written. -/
theorem Origin.cases {o : Origin} {e : Event} (h : o.event? = .ok e) :
    e.Writable ∨ ∃ text, e.raw = some text ∧ decode text = .ok { e with raw := none } := by
  cases o with
  | made chainId type address =>
    cases h
    exact .inl ⟨rfl, nofun, .nil⟩
  | decoded text => exact .inl (writable_of_decode h)
  | read text => exact .inr ⟨text, decode_of_ofText h⟩
  | received payload =>
    obtain ⟨text, -, htext⟩ := ofPayload_eq_ok_iff.1 h
    exact .inr ⟨text, decode_of_ofText htext⟩

/-! ## Setting members -/

variable {first : Event} {fields : List (String × Json)}

theorem Writable.withFields (h : first.Writable) (hkeys : ∀ f ∈ fields, f.1 ∉ interpreted) :
    (first.withFields fields).Writable := by
  rw [withFields_eq]
  refine ⟨h.raw, fun m hm => ?_, Members.ordered_insertAll h.ordered fields⟩
  exact (Members.mem_insertAll hm).elim (hkeys m) (h.keys m)

theorem Writable.coherent_written_iff {e : Event} (h : e.Writable)
    (hdoubles : ∀ x ∈ memberDoubles e.extra, ReadsBack x) :
    e.Coherent ↔ ∀ m ∈ e.extra, m.2.WellFormed (maxDepth - 1) ∧ m.2.Unmarked := by
  rw [← h.decode_encode_iff hdoubles, Coherent, body, h.raw, Option.getD_none]
  obtain ⟨chainId, address, type, extra, raw⟩ := e
  cases h.raw
  rfl

/-- An event that keeps its text stays coherent exactly as long as its members are those that it
was read with. -/
theorem coherent_withFields_iff {text : String} (hraw : first.raw = some text)
    (hdecode : decode text = .ok { first with raw := none }) :
    (first.withFields fields).Coherent ↔
      ∀ f ∈ fields, fields.reverse.lookup f.1 = Members.find? f.1 first.extra := by
  have hordered : first.extra.Ordered := (writable_of_decode hdecode).ordered
  rw [← Members.Ordered.insertAll_eq_iff hordered, Coherent, withFields_eq, body, hraw,
    Option.getD_some, hdecode, Except.ok.injEq, Event.mk.injEq]
  simp [eq_comm]

/-- When the body of an event goes on telling what the event says, whatever members of its own are
set on it and wherever it comes from. Its chain, address and type stay, and every key has the last
value that was set for it. An event without a text of its own whose doubles are read back as they
are written has a coherent body exactly if its values have at most 126 levels. An event that was
read from a text has this text as its body for good, and the body is coherent exactly if every
member that was set ends with the value that the text has for it. -/
theorem Origin.coherent_iff {o : Origin} (hfirst : o.event? = .ok first)
    (hkeys : ∀ f ∈ fields, f.1 ∉ interpreted) :
    let e := first.withFields fields
    (e.chainId = first.chainId ∧ e.address = first.address ∧ e.type = first.type ∧
      ∀ key, Members.find? key e.extra
        = (fields.reverse.lookup key).or (Members.find? key first.extra)) ∧
    (first.raw = none → (∀ x ∈ memberDoubles e.extra, ReadsBack x) →
      (e.Coherent ↔ ∀ m ∈ e.extra, m.2.WellFormed 126 ∧ m.2.Unmarked)) ∧
    ∀ text, first.raw = some text →
      e.body = text ∧ decode text = .ok { first with raw := none } ∧
      (e.Coherent ↔ ∀ f ∈ fields, fields.reverse.lookup f.1 = Members.find? f.1 first.extra) := by
  intro e
  have he : e = { first with extra := Members.insertAll fields first.extra } :=
    withFields_eq first fields
  refine ⟨?members, ?written, ?kept⟩
  case members =>
    rw [he]
    exact ⟨rfl, rfl, rfl, Members.find?_insertAll fields first.extra⟩
  case written =>
    intro hraw hdoubles
    rcases Origin.cases hfirst with hwritable | ⟨text, hkept, -⟩
    · exact (hwritable.withFields hkeys).coherent_written_iff hdoubles
    · simp [hraw] at hkept
  case kept =>
    intro text hraw
    have hdecode : decode text = .ok { first with raw := none } := by
      rcases Origin.cases hfirst with hwritable | ⟨other, hkept, hdecode⟩
      · simp [hwritable.raw] at hraw
      · cases hraw.symm.trans hkept
        exact hdecode
    refine ⟨?_, hdecode, coherent_withFields_iff hraw hdecode⟩
    rw [he, body, hraw]
    rfl

/-- The text of an event with a chain and a type, and the event that is read from it. -/
def createdText : String :=
  "\x7b\"chainId\":\"1\",\"type\":\"SAFE_CREATED\"\x7d"

def created : Event :=
  ⟨"1", "", "SAFE_CREATED", [], some createdText⟩

theorem decode_createdText : decode createdText = .ok { created with raw := none } := by
  cbv

theorem ofText_createdText : ofText createdText = .ok created :=
  ofText_eq_ok_iff.2 ⟨_, decode_createdText, by decide, by decide, rfl⟩

/-- A hash that is set on an event made in place is in its body, and one that is set on an event
that was read is not. -/
theorem Origin.coherent_iff_of_hash :
    let fields := [("txHash", Json.string "0x01")]
    ((new "1" "SAFE_CREATED" "").withFields fields).Coherent ∧
    (created.withFields fields).body = createdText ∧ ¬ (created.withFields fields).Coherent := by
  intro fields
  have hkeys : ∀ f ∈ fields, f.1 ∉ interpreted := by decide
  obtain ⟨-, hmade, -⟩ :=
    Origin.coherent_iff (o := .made "1" "SAFE_CREATED" "") rfl hkeys
  obtain ⟨-, -, hread⟩ := Origin.coherent_iff (o := .read createdText) ofText_createdText hkeys
  obtain ⟨hbody, -, hiff⟩ := hread createdText rfl
  refine ⟨(hmade rfl ?doubles).2 ?values, hbody, fun hcoherent => ?left⟩
  case doubles =>
    simp [fields, withFields, withField, new, Members.insert, memberDoubles, doubles]
  case values =>
    simp only [fields, withFields, withField, new, Members.insert, List.foldl_cons, List.foldl_nil,
      List.forall_mem_singleton]
    exact ⟨.string _ _, .string _⟩
  case left =>
    have hsame := hiff.1 hcoherent ("txHash", .string "0x01") List.mem_cons_self
    cases hsame

/-- The hash is on the event that was read, but reading the body that the webhooks get gives the
event without it. -/
theorem hash_left_behind :
    let e := created.withField "txHash" (.string "0x01")
    ofText createdText = .ok created ∧ Members.find? "txHash" e.extra = some (.string "0x01") ∧
    ∃ decoded, decode e.body = .ok decoded ∧ Members.find? "txHash" decoded.extra = none ∧
      ¬ e.Coherent := by
  intro e
  have hbody : decode e.body = .ok { created with raw := none } := decode_createdText
  refine ⟨ofText_createdText, rfl, _, hbody, rfl, fun hcoherent => ?_⟩
  cases hbody.symm.trans hcoherent

end Event
end WebhookRelay

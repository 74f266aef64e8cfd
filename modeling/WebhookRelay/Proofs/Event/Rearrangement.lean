-- SUMMARY: Decoding forgets the order of members and the blanks between tokens, and when its result is written and read unchanged.
import WebhookRelay.Proofs.Event.Acceptance
import WebhookRelay.Proofs.Event.Encoding
import WebhookRelay.Proofs.Json.Tokens

/-!
# Rearranged messages

A text whose members have different keys may list them in any order and space its tokens in any
way: it is decoded to the same event. And when the values in it are read again, this event is
written as a text that is decoded to it again, so from there on nothing changes any more.

The argument goes from a text to its members (`document_iff_spells`), from there to the draft that
they make (`Draft.Holds.eq_of_perm`), and from there to the values that are read of the others.
-/

namespace WebhookRelay.Event

open Json

variable {members members' : List (List StringUnit × Term)}

theorem occurrences_perm (hperm : members'.Perm members) (key : String) :
    (occurrences key members').Perm (occurrences key members) :=
  (hperm.filter _).map _

namespace Draft

variable {key : String} {place place' : Option String} {d d' : Draft}

theorem Takeable.perm (h : Takeable members) (hperm : members'.Perm members) :
    Takeable members' := by
  obtain ⟨pairs, hpairs⟩ := Option.isSome_iff_exists.1 h.valued
  obtain ⟨pairs', hpairs', -⟩ := exists_memberValuesWith?_of_perm hpairs hperm
  refine ⟨Option.isSome_iff_exists.2 ⟨pairs', hpairs'⟩, fun key hkey => ?once,
    fun key hkey t ht => ?texts⟩
  case once => exact (occurrences_perm hperm key).length_eq ▸ h.once key hkey
  case texts => exact h.texts key hkey t ((occurrences_perm hperm key).subset ht)

theorem Filled.eq_of_perm (h : Filled key members place) (h' : Filled key members' place')
    (hperm : members'.Perm members) : place' = place := by
  have hplaces : (place'.toList.map some).Perm (place.toList.map some) := by
    rw [← h, ← h']
    exact (occurrences_perm hperm key).map _
  cases place with
  | none => simpa using hplaces
  | some s => simpa using hplaces

/-- The order of members makes no difference to what a draft is finished to, if the keys of those
that are not interpreted are different. -/
theorem Holds.finish_of_perm {e : Event} (h : d.Holds members) (h' : d'.Holds members')
    (hperm : members'.Perm members) (hkeys : (members.map fun m => textOf? m.1).Nodup)
    (hfinish : d.finish = .ok e) : d'.finish = .ok e := by
  obtain ⟨readings, hreadings, rfl⟩ := finish_eq_ok_iff.1 hfinish
  have hothers : d'.others.Perm d.others := by
    rw [h.others, h'.others]
    exact hperm.filter _
  obtain ⟨readings', hreadings', hperm'⟩ := exists_memberValuesWith?_of_perm hreadings hothers
  have hnodup : (readings.map (·.1)).Nodup := by
    have hsub := hkeys.sublist ((List.filter_sublist (l := members)
      (p := fun m => textOf? m.1 ∉ interpreted.map some)).map _)
    rw [← othersOf, ← h.others, map_textOf?_eq hreadings] at hsub
    exact hsub.of_map
  refine finish_eq_ok_iff.2 ⟨readings', hreadings', ?_⟩
  rw [Members.ofList_perm hnodup hperm', h.chainId.eq_of_perm h'.chainId hperm,
    h.address.eq_of_perm h'.address hperm, h.type.eq_of_perm h'.type hperm]

end Draft

/-- Members in another order are decoded to the same event when their keys are different. -/
theorem decode_of_perm {text text' : String} {e : Event} (h : decode text = .ok e)
    (hdocument : Document text (.object members))
    (hkeys : (members.map fun m => textOf? m.1).Nodup) (hperm : members'.Perm members)
    (hdocument' : Document text' (.object members')) : decode text' = .ok e := by
  obtain ⟨ms, d, hdocument₁, hholds, hfinish⟩ := exists_holds_of_decode h
  cases hdocument₁.unique hdocument
  obtain ⟨d', hfold'⟩ := Draft.exists_foldlM_add_iff.2 (hholds.takeable.perm hperm)
  have hholds' : d'.Holds members' := Draft.holds_empty.foldlM hfold'
  exact decode_eq_ok_iff.2
    ⟨members', d', hdocument', hfold', hholds.finish_of_perm hholds' hperm hkeys hfinish⟩

/-- Decoding leaves one form of a message, as far as it can be written. The event that a text is
decoded to is written as a text that is decoded to it again, as long as its doubles are read as they
are written, exactly when its values nest no deeper than texts do and none of the objects in it is
written with the marked key in front. And if the keys of the text are different, every text with its
members in any order and its tokens spaced in any way is decoded to the same event. -/
theorem decode_canonical {text : String} {e : Event} (h : decode text = .ok e) :
    ((∀ x ∈ memberDoubles e.extra, ReadsBack x) →
      (decode e.encode = .ok e ↔ ∀ m ∈ e.extra, m.2.WellFormed 126 ∧ m.2.Unmarked)) ∧
    (∃ members, Spells text members) ∧
    ∀ members members' text', Spells text members →
      (members.map fun m => textOf? m.key).Nodup → members'.Perm members →
      Spells text' members' → decode text' = .ok e := by
  refine ⟨(writable_of_decode h).decode_encode_iff, ?spelled, ?rearranged⟩
  case spelled =>
    obtain ⟨ms, -, hdocument, -⟩ := decode_eq_ok_iff.1 h
    obtain ⟨members, -, hspells⟩ := document_iff_spells.1 hdocument
    exact ⟨members, hspells⟩
  case rearranged =>
    intro members members' text' hspells hkeys hperm hspells'
    refine decode_of_perm h (document_iff_spells.2 ⟨members, rfl, hspells⟩) ?_ (hperm.map _)
      (document_iff_spells.2 ⟨members', rfl, hspells'⟩)
    rw [List.map_map]
    exact hkeys

/-- A message with a number as its chain id and a list under a key of its own. -/
def tightText : String :=
  "\x7b\"type\":\"A\",\"chainId\":1,\"b\":[0.5]\x7d"

/-- The message with its members in another order and blanks between its tokens. -/
def spacedText : String :=
  "\n\x7b\"b\" : [ 0.5 ],\t\"type\":\"A\" ,\"chainId\" :1\x7d "

/-- The members of both texts, in the order of the first one. -/
def sampleMembers : List MemberText :=
  let type : MemberText := {
    key := "type".toList.map .char
    value := .string ("A".toList.map .char)
    keyChars := ['t', 'y', 'p', 'e', '"']
    valueTokens := [['"', 'A', '"']]
    key_stands := (writesString_of_readString (by cbv)).stands
    value_tokens := .string (writesString_of_readString (by cbv)).stands }
  let chainId : MemberText := {
    key := "chainId".toList.map .char
    value := .number ⟨false, [1], none, none⟩
    keyChars := ['c', 'h', 'a', 'i', 'n', 'I', 'd', '"']
    valueTokens := [['1']]
    key_stands := (writesString_of_readString (by cbv)).stands
    value_tokens := .number (writesNumber_of_readLiteral (by cbv)).stands }
  let b : MemberText := {
    key := "b".toList.map .char
    value := .array [.number ⟨false, [0], some [5], none⟩]
    keyChars := ['b', '"']
    valueTokens := [['['], ['0', '.', '5'], [']']]
    key_stands := (writesString_of_readString (by cbv)).stands
    value_tokens := .array (.lastItem (.number (writesNumber_of_readLiteral (by cbv)).stands)) }
  [type, chainId, b]

theorem spells_tightText : Spells tightText sampleMembers := by
  have htext : tightText.toList = (['\x7b'] :: memberTokens sampleMembers).flatten ++ [] := by
    decide +kernel
  refine ⟨[], ?_, .nil []⟩
  rw [htext]
  exact spaced_flatten _ _

theorem spells_spacedText : Spells spacedText (sampleMembers.rotate 2) := by
  have htext : spacedText.toList = ['\n', '\x7b', '"', 'b', '"', ' ', ':', ' ', '[', ' ', '0', '.',
      '5', ' ', ']', ',', '\t', '"', 't', 'y', 'p', 'e', '"', ':', '"', 'A', '"', ' ', ',', '"',
      'c', 'h', 'a', 'i', 'n', 'I', 'd', '"', ' ', ':', '1', '\x7d', ' '] := by
    decide +kernel
  refine ⟨[' '], ?_, .cons rfl (.nil [])⟩
  rw [htext]
  exact .cons (.cons rfl (.nil _)) <| .cons (.nil _) <| .cons (.cons rfl (.nil _)) <|
    .cons (.cons rfl (.nil _)) <| .cons (.cons rfl (.nil _)) <| .cons (.cons rfl (.nil _)) <|
    .cons (.nil _) <| .cons (.cons rfl (.nil _)) <| .cons (.nil _) <| .cons (.nil _) <|
    .cons (.cons rfl (.nil _)) <| .cons (.nil _) <| .cons (.cons rfl (.nil _)) <|
    .cons (.nil _) <| .cons (.nil _) <| .nil _

theorem decode_tightText : decode tightText
    = .ok ⟨"1", "", "A", [("b", .array [.number (.float 0.5)])], none⟩ := by
  let list : Term := .array [.number ⟨false, [0], some [5], none⟩]
  have hhalf : Literal.number? ⟨false, [0], some [5], none⟩ = some (.float 0.5) := by
    decide +kernel
  have hlist : ∀ special, list.valueWith? special 126 = some (.array [.number (.float 0.5)]) := by
    intro special
    simp only [list, Term.valueWith?, itemValuesWith?, hhalf]
    rfl
  refine decode_eq_ok_iff.2 ⟨_, ⟨some "1", none, some "A", [("b".toList.map .char, list)]⟩,
    document_iff_spells.2 ⟨_, rfl, spells_tightText⟩, ?members, ?others⟩
  case members =>
    have hvalue := hlist nothingSpecial
    simp only [sampleMembers, List.map_cons, List.map_nil, MemberText.member, List.foldlM_cons,
      List.foldlM_nil, Draft.add, Term.value?, maxDepth, list] at hvalue ⊢
    simp only [hvalue]
    rfl
  case others =>
    simp only [Draft.finish, memberReadings?, memberValuesWith?, maxDepth, hlist]
    rfl

theorem decode_canonical_of_sample :
    let e : Event := ⟨"1", "", "A", [("b", .array [.number (.float 0.5)])], none⟩
    decode tightText = .ok e ∧
    e.encode = "\x7b\"chainId\":\"1\",\"address\":\"\",\"type\":\"A\",\"b\":[0.5]\x7d" ∧
    decode e.encode = .ok e ∧ spacedText ≠ tightText ∧ decode spacedText = .ok e := by
  intro e
  obtain ⟨hencode, -, hrearranged⟩ := decode_canonical decode_tightText
  have hkeys : (sampleMembers.map fun m => textOf? m.key).Nodup := by decide
  refine ⟨decode_tightText, by decide +kernel, (hencode ?doubles).2 ?values, by decide, ?spaced⟩
  case doubles => simp [memberDoubles, doubles, itemDoubles, readsBack_half]
  case values =>
    exact List.forall_mem_singleton.2 ⟨.array (List.forall_mem_singleton.2 (.float _ _)),
      .array (List.forall_mem_singleton.2 (.number _))⟩
  case spaced =>
    exact hrearranged sampleMembers (sampleMembers.rotate 2) spacedText spells_tightText hkeys
      (List.rotate_perm _ _) spells_spacedText

/-- A message with an object whose marked key is not its first one. -/
def markedText : String :=
  "\x7b\"chainId\":\"1\",\"type\":\"A\",\"x\":\x7b\"b\":1," ++
    "\"$serde_json::private::RawValue\":\"nope\"\x7d\x7d"

/-- It is decoded, and written with the marked key in front, so that it is no message any more. -/
theorem encode_not_decoded :
    ∃ e, decode markedText = .ok e ∧
      e.extra = [("x", .object [(embeddingKey, .string "nope"), ("b", .number (.integer 1))])] ∧
      decode e.encode = .error Draft.malformed :=
  ⟨⟨"1", "", "A", [("x", .object [(embeddingKey, .string "nope"), ("b", .number (.integer 1))])],
    none⟩, by cbv, rfl, by cbv⟩

end WebhookRelay.Event

-- SUMMARY: When the text of an event is decoded to the event, whether it was made in place or read before.
import WebhookRelay.Proofs.Event.Decoding
import WebhookRelay.Proofs.Json.Rereading

/-!
# Encoding

An event is written with its three interpreted members first and the others behind them in key
order. When none of the others goes by an interpreted key (`Writable`), its text is decoded to it
exactly as long as their values are read again (`Writable.decode_encode_iff`): they are not nested
too deep, and none of their objects is written with the marked key in front. Every event that was
decoded and every event that is made in place of such members is writable (`writable_of_decode`,
`writable_build`).
-/

namespace WebhookRelay.Event

open Json

/-- The members of an event's text, in its order. -/
def members (e : Event) : List (String × Json) :=
  ("chainId", .string e.chainId) :: ("address", .string e.address) :: ("type", .string e.type)
    :: e.extra

/-- Whether an event has no text but the one it is written as, and its other members have keys of
their own, in order. -/
structure Writable (e : Event) : Prop where
  raw : e.raw = none
  keys : ∀ m ∈ e.extra, m.1 ∉ interpreted
  ordered : e.extra.Ordered

/-! ## Reading what was written -/

theorem members_ne_nil (e : Event) : e.members ≠ [] :=
  List.cons_ne_nil _ _

theorem encode_eq (e : Event) : e.encode = recordText e.members := rfl

theorem textFor?_chainId_term (s : String) : textFor? "chainId" (Json.string s).term = some s := by
  simp [textFor?, Json.term, Term.read?, Term.valueWith?, textOf?_map_char, chainText?]

theorem textFor?_term {key : String} (hkey : key ≠ "chainId") (s : String) :
    textFor? key (Json.string s).term = some s := by
  simp [textFor?, hkey, Json.term, Term.value?, Term.valueWith?, textOf?_map_char, plainText?]

namespace Draft

/-- Members that are not interpreted are taken up one after the other, when they have values. -/
theorem foldlM_add_eq_ok_iff {more : List (List StringUnit × Term)}
    (h : ∀ m ∈ more, ∃ key ∉ interpreted, textOf? m.1 = some key) {d d' : Draft} :
    more.foldlM add d = .ok d' ↔ (∀ m ∈ more, (m.2.value? (maxDepth - 1)).isSome) ∧
      { d with others := d.others ++ more } = d' := by
  induction more generalizing d with
  | nil => simp [pure, Except.pure]
  | cons m more ih =>
    obtain ⟨⟨key, hother, hkey⟩, hmore⟩ := List.forall_mem_cons.1 h
    rw [List.foldlM_cons, bind_eq_ok_iff, List.forall_mem_cons]
    simp only [add_eq_ok_iff, hkey, Option.some.injEq, exists_eq_left', ih hmore,
      take?_of_not_mem d hother, Option.map_eq_some_iff, Option.isSome_iff_exists]
    constructor
    · rintro ⟨_, ⟨v, hv, rfl⟩, hvalues, rfl⟩
      exact ⟨⟨⟨v, hv⟩, hvalues⟩, by simp⟩
    · rintro ⟨⟨⟨v, hv⟩, hvalues⟩, rfl⟩
      exact ⟨_, ⟨v, hv, rfl⟩, hvalues, by simp⟩

theorem foldlM_add_cons {m : List StringUnit × Term} {more : List (List StringUnit × Term)}
    {d d' : Draft} (h : d.add m = .ok d') : (m :: more).foldlM add d = more.foldlM add d' := by
  rw [List.foldlM_cons, h]
  rfl

end Draft

namespace Writable

variable {e : Event}

/-- What the members of an event's text make of a draft. -/
theorem foldlM_add_eq_ok_iff (h : e.Writable) {d : Draft} :
    (memberTerms e.members).foldlM Draft.add Draft.empty = .ok d ↔
      (∀ m ∈ memberTerms e.extra, (m.2.value? (maxDepth - 1)).isSome) ∧
        ⟨some e.chainId, some e.address, some e.type, memberTerms e.extra⟩ = d := by
  have hkeys : ∀ m ∈ memberTerms e.extra, ∃ key ∉ interpreted, textOf? m.1 = some key := by
    intro m hm
    rw [memberTerms_eq_map] at hm
    obtain ⟨p, hp, rfl⟩ := List.mem_map.1 hm
    exact ⟨p.1, h.keys p hp, textOf?_map_char p.1⟩
  have hchainId : Draft.empty.add ("chainId".toList.map .char, (Json.string e.chainId).term)
      = .ok ⟨some e.chainId, none, none, []⟩ :=
    Draft.add_eq_ok_iff.2 ⟨"chainId", textOf?_map_char _, by
      simp [Draft.take?, Draft.empty, textFor?_chainId_term]⟩
  have haddress : Draft.add ⟨some e.chainId, none, none, []⟩
      ("address".toList.map .char, (Json.string e.address).term)
      = .ok ⟨some e.chainId, some e.address, none, []⟩ :=
    Draft.add_eq_ok_iff.2 ⟨"address", textOf?_map_char _, by
      simp [Draft.take?, textFor?_term]⟩
  have htype : Draft.add ⟨some e.chainId, some e.address, none, []⟩
      ("type".toList.map .char, (Json.string e.type).term)
      = .ok ⟨some e.chainId, some e.address, some e.type, []⟩ :=
    Draft.add_eq_ok_iff.2 ⟨"type", textOf?_map_char _, by
      simp [Draft.take?, textFor?_term]⟩
  rw [members, memberTerms, memberTerms, memberTerms, Draft.foldlM_add_cons hchainId,
    Draft.foldlM_add_cons haddress, Draft.foldlM_add_cons htype]
  exact Draft.foldlM_add_eq_ok_iff hkeys

theorem document_encode (hdoubles : ∀ x ∈ memberDoubles e.extra, ReadsBack x) :
    Document e.encode (.object (memberTerms e.members)) := by
  rw [encode_eq]
  refine document_recordText e.members_ne_nil fun m hm => ?_
  simp only [members, List.mem_cons] at hm
  obtain rfl | rfl | rfl | hm := hm
  · exact nofun
  · exact nofun
  · exact nofun
  · exact fun x hx => hdoubles x (mem_memberDoubles_iff.2 ⟨m, hm, hx⟩)

/-- The text of an event is decoded to the event exactly when the values in it are read again. -/
theorem decode_encode_iff (h : e.Writable) (hdoubles : ∀ x ∈ memberDoubles e.extra, ReadsBack x) :
    decode e.encode = .ok e ↔ ∀ m ∈ e.extra, m.2.WellFormed (maxDepth - 1) ∧ m.2.Unmarked := by
  have hdocument := document_encode hdoubles
  rw [← exists_memberReadings?_iff h.ordered fun m hm x hx =>
    hdoubles x (mem_memberDoubles_iff.2 ⟨m, hm, hx⟩), decode_eq_ok_iff]
  obtain ⟨chainId, address, type, extra, raw⟩ := e
  cases h.raw
  constructor
  · rintro ⟨members, d, hdocument', hfold, hfinish⟩
    cases hdocument'.unique hdocument
    obtain ⟨-, rfl⟩ := h.foldlM_add_eq_ok_iff.1 hfold
    obtain ⟨readings, hreadings, heq⟩ := Draft.finish_eq_ok_iff.1 hfinish
    exact ⟨readings, hreadings, (Event.mk.inj heq).2.2.2.1⟩
  · rintro ⟨readings, hreadings, rfl⟩
    refine ⟨_, _, hdocument, h.foldlM_add_eq_ok_iff.2 ⟨fun m hm => ?_, rfl⟩,
      Draft.finish_eq_ok_iff.2 ⟨readings, hreadings, rfl⟩⟩
    have hall := isSome_memberValuesWith?_iff.1 (Option.isSome_iff_exists.2 ⟨_, hreadings⟩)
    exact isSome_value?_iff.2 (isSome_read?_iff.1 (hall m hm).2).1

end Writable

/-- Every event that was decoded is writable. -/
theorem writable_of_decode {text : String} {e : Event} (h : decode text = .ok e) : e.Writable := by
  obtain ⟨members, d, -, hholds, hfinish⟩ := exists_holds_of_decode h
  have hkeeps := hholds.keepsOthers hfinish
  obtain ⟨readings, -, rfl⟩ := Draft.finish_eq_ok_iff.1 hfinish
  refine ⟨rfl, fun m hm hkey => ?keys, Members.ordered_ofList readings⟩
  case keys =>
    have hfind := hkeeps m.1
    rw [if_pos hkey] at hfind
    simpa using List.lookup_eq_none_iff.1 hfind m hm

/-! ## Events made in place -/

/-- An event that is made in place: one without further members, on which some are set in turn. -/
def build (chainId type address : String) (fields : List (String × Json)) : Event :=
  fields.foldl (fun e f => e.withField f.1 f.2) (new chainId type address)

section

variable {chainId type : String} {fields : List (String × Json)}

theorem foldl_withField (e : Event) (fields : List (String × Json)) :
    fields.foldl (fun e f => e.withField f.1 f.2) e
      = { e with extra := fields.foldl (fun ms f => Members.insert f.1 f.2 ms) e.extra } := by
  induction fields generalizing e with
  | nil => rfl
  | cons f fields ih => exact ih _

theorem build_eq (chainId type address : String) (fields : List (String × Json)) :
    build chainId type address fields
      = ⟨chainId, address, type, Members.ofList fields, none⟩ :=
  foldl_withField ..

theorem writable_build (address : String) (hkeys : ∀ f ∈ fields, f.1 ∉ interpreted) :
    (build chainId type address fields).Writable := by
  rw [build_eq]
  exact ⟨rfl, fun m hm => hkeys m (Members.mem_of_mem_ofList hm), Members.ordered_ofList fields⟩

/-- An event made in place of members with keys of their own and values of at most 126 levels
survives its own text exactly when none of the objects in it is written with the marked key in
front: then reading its body gives the same event, with the last value of each key, and that event
has the same body. -/
theorem ofText_body_build (hchainId : chainId ≠ "") (htype : type ≠ "") (address : String)
    (hkeys : ∀ f ∈ fields, f.1 ∉ interpreted) (hfields : ∀ f ∈ fields, f.2.WellFormed 126)
    (hdoubles : ∀ f ∈ fields, ∀ x ∈ f.2.doubles, ReadsBack x) :
    (∃ e, ofText (build chainId type address fields).body = .ok e ∧ e.chainId = chainId ∧
      e.address = address ∧ e.type = type ∧ e.extra = (build chainId type address fields).extra ∧
      (∀ key, Members.find? key e.extra = fields.reverse.lookup key) ∧
      e.body = (build chainId type address fields).body) ↔
    ∀ m ∈ (build chainId type address fields).extra, m.2.Unmarked := by
  have hwritable : (build chainId type address fields).Writable := writable_build address hkeys
  have hbuild := build_eq chainId type address fields
  generalize build chainId type address fields = e at hbuild hwritable ⊢
  have hmem : ∀ m ∈ e.extra, m ∈ fields := by
    rw [hbuild]
    exact fun m hm => Members.mem_of_mem_ofList hm
  have hiff := hwritable.decode_encode_iff fun x hx => by
    obtain ⟨m, hm, hx⟩ := mem_memberDoubles_iff.1 hx
    exact hdoubles m (hmem m hm) x hx
  have hwellFormed : (∀ m ∈ e.extra, m.2.WellFormed (maxDepth - 1) ∧ m.2.Unmarked) ↔
      ∀ m ∈ e.extra, m.2.Unmarked :=
    forall₂_congr fun m hm => and_iff_right (hfields m (hmem m hm))
  have hbody : e.body = e.encode := by
    rw [body, hwritable.raw, Option.getD_none]
  rw [← hwellFormed, ← hiff, hbody]
  subst hbuild
  constructor
  · rintro ⟨_, hread, hsameChain, hsameAddress, hsameType, hsameExtra, -, -⟩
    obtain ⟨decoded, hdecode, -, -, rfl⟩ := ofText_eq_ok_iff.1 hread
    have hraw := (writable_of_decode hdecode).raw
    rw [hdecode, Except.ok.injEq]
    cases decoded
    rw [Event.mk.injEq]
    exact ⟨hsameChain, hsameAddress, hsameType, hsameExtra, hraw⟩
  · intro hdecode
    exact ⟨_, ofText_eq_ok_iff.2 ⟨_, hdecode, hchainId, htype, rfl⟩, rfl, rfl, rfl, rfl,
      fun key => Members.find?_ofList key fields, rfl⟩

end

/-- Members with a key that repeats, escapes, a double, the least integer and some nesting. -/
def sampleFields : List (String × Json) :=
  [("b", .number (.float 0.5)), ("a\n", .bool true),
    ("b", .array [.number (.float 0.5), .object [("", .string "\x01\"é")],
      .number (.integer (-9223372036854775808))])]

/-- The text of an event with these members. -/
def sampleText : String :=
  "\x7b\"chainId\":\"1\",\"address\":\"\",\"type\":\"A\",\"a\\n\":true," ++
    "\"b\":[0.5,\x7b\"\":\"\\u0001\\\"é\"\x7d,-9223372036854775808]\x7d"

theorem ofText_body_build_of_sample :
    (∀ f ∈ sampleFields, f.1 ∉ interpreted ∧ f.2.WellFormed 126 ∧ ∀ x ∈ f.2.doubles, ReadsBack x) ∧
    (build "1" "A" "" sampleFields).body = sampleText ∧
    ∃ e, ofText sampleText = .ok e ∧ e.chainId = "1" ∧ e.address = "" ∧ e.type = "A" ∧
      e.extra = Members.ofList sampleFields ∧
      Members.find? "b" e.extra = some (.array [.number (.float 0.5),
        .object [("", .string "\x01\"é")], .number (.integer (-9223372036854775808))]) ∧
      e.body = sampleText := by
  have hbody : (build "1" "A" "" sampleFields).body = sampleText := by decide +kernel
  have hkeys : ∀ f ∈ sampleFields, f.1 ∉ interpreted := by decide
  have hfields : ∀ f ∈ sampleFields, f.2.WellFormed 126 := by
    simp only [sampleFields, List.forall_mem_cons]
    refine ⟨.float _ _, .bool _ _, .array ?_, nofun⟩
    simp only [List.forall_mem_cons]
    refine ⟨.float _ _, .object (List.pairwise_singleton _ _) ?_,
      .integer _ (by decide) (by decide), nofun⟩
    simp only [List.forall_mem_cons]
    exact ⟨.string _ _, nofun⟩
  have hdoubles : ∀ f ∈ sampleFields, ∀ x ∈ f.2.doubles, ReadsBack x := by
    simp [sampleFields, doubles, itemDoubles, memberDoubles, readsBack_half]
  have hunmarked : ∀ m ∈ (build "1" "A" "" sampleFields).extra, m.2.Unmarked := by
    have hextra : (build "1" "A" "" sampleFields).extra = [("a\n", .bool true),
        ("b", .array [.number (.float 0.5), .object [("", .string "\x01\"é")],
          .number (.integer (-9223372036854775808))])] := rfl
    rw [hextra]
    simp only [List.forall_mem_cons]
    refine ⟨.bool _, .array ?_, nofun⟩
    simp only [List.forall_mem_cons]
    exact ⟨.number _, .object (by decide) (List.forall_mem_singleton.2 (.string _)), .number _,
      nofun⟩
  obtain ⟨e, htext, hchainId, haddress, htype, hextra, hlast, hsame⟩ :=
    (ofText_body_build (by decide : "1" ≠ "") (by decide : "A" ≠ "") "" hkeys hfields hdoubles).2
      hunmarked
  rw [hbody] at htext hsame
  have hmembers : e.extra = Members.ofList sampleFields := by
    rw [hextra, build_eq]
  exact ⟨fun f hf => ⟨hkeys f hf, hfields f hf, hdoubles f hf⟩, hbody, e, htext, hchainId,
    haddress, htype, hmembers, (hlast "b").trans rfl, hsame⟩

/-- A member whose value has the marked key, with another one beside it. -/
def markedFields : List (String × Json) :=
  [("x", .object [(embeddingKey, .string "nope"), ("b", .number (.integer 1))])]

/-- An event made in place of this member is valid, and its body is no message. -/
theorem body_build_not_read :
    (∀ f ∈ markedFields, f.1 ∉ interpreted ∧ f.2.WellFormed 126 ∧ f.2.doubles = []) ∧
    (build "1" "SAFE_CREATED" "" markedFields).validate = .ok () ∧
    ofText (build "1" "SAFE_CREATED" "" markedFields).body = .error Draft.malformed := by
  refine ⟨List.forall_mem_singleton.2 ⟨by decide, ?_, rfl⟩, rfl, by cbv⟩
  exact .object (List.pairwise_pair.2 (by decide)) <| List.forall_mem_cons.2 ⟨.string _ _,
    List.forall_mem_singleton.2 (.integer _ (by decide) (by decide))⟩

end WebhookRelay.Event

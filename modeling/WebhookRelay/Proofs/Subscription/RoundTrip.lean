-- SUMMARY: Subscriptions and requests survive their JSON form, rearranged, as arrays and with ids spelled otherwise.
import WebhookRelay.Subscription.Registration
import WebhookRelay.Proofs.Json.Record
import WebhookRelay.Proofs.Subscription.Spelling

/-!
# Round trips

The text of a subscription or of a request is a record, and it is read by the names of the fields
alone. So it survives whatever leaves the fields as they are (`Json.Survives`). The id of a
subscription may moreover be spelled in any way that is read as this id.
-/

namespace WebhookRelay

open Json

namespace Subscription

/-- The fields with their values, the id spelled in some way. -/
def fieldsWith (s : Subscription) (spelled : String) : List (String × Json) :=
  s.fields.set 0 ("id", .string spelled)

/-- The text of a subscription with its id spelled in some way. -/
def encodeWith (s : Subscription) (spelled : String) : String :=
  recordText (s.fieldsWith spelled)

theorem encodeWith_text (s : Subscription) : s.encodeWith s.id.text = s.encode := rfl

theorem values_fieldsWith (s : Subscription) (spelled : String) :
    (s.fieldsWith spelled).map (·.2) = [.string spelled, .string s.url, .string s.description,
      .bool s.isActive, .string s.authorization, .array (s.chains.map .string),
      .array (s.addresses.map .string), .bool s.sends.confirmations, .bool s.sends.multisigTxs,
      .bool s.sends.etherTransfers, .bool s.sends.tokenTransfers, .bool s.sends.moduleTransactions,
      .bool s.sends.safeCreations, .bool s.sends.messages, .bool s.sends.reorgs,
      .bool s.sends.delegates] := rfl

theorem ofTerm?_of_none {t : Term} (h : fieldsOf? fieldNames t = none) : ofTerm? t = none := by
  unfold ofTerm?
  rw [h]
  rfl

/-- The fields are read for the subscription they were written for. -/
theorem ofTerm?_of_values {s : Subscription} {spelled : String}
    (hspelled : WebhookId.ofText? spelled = some s.id) {t : Term} {ts : List Term}
    (hfields : fieldsOf? fieldNames t = some ts)
    (hvalues : List.Forall₂ (fun t v => t.value? 1 = some v) ts
      ((s.fieldsWith spelled).map (·.2))) : ofTerm? t = some s := by
  rw [values_fieldsWith] at hvalues
  obtain _ | ⟨hid, _ | ⟨hurl, _ | ⟨hdescription, _ | ⟨hisActive, _ | ⟨hauthorization, _ | ⟨hchains,
    _ | ⟨haddresses, _ | ⟨ha, _ | ⟨hb, _ | ⟨hc, _ | ⟨hd, _ | ⟨he, _ | ⟨hf, _ | ⟨hg, _ | ⟨hh,
    _ | ⟨hi, _ | _⟩⟩⟩⟩⟩⟩⟩⟩⟩⟩⟩⟩⟩⟩⟩⟩ := hvalues
  unfold ofTerm?
  rw [hfields]
  dsimp only [Option.bind_eq_bind, Option.bind_some]
  rw [Term.text?_of_value? hid]
  dsimp only [Option.bind_eq_bind, Option.bind_some]
  rw [hspelled, Term.text?_of_value? hurl, Term.text?_of_value? hdescription,
    Term.bool?_of_value? hisActive, Term.text?_of_value? hauthorization,
    Term.list?_of_value? Term.text?_of_value? hchains,
    Term.list?_of_value? Term.text?_of_value? haddresses, Term.bool?_of_value? ha,
    Term.bool?_of_value? hb, Term.bool?_of_value? hc, Term.bool?_of_value? hd,
    Term.bool?_of_value? he, Term.bool?_of_value? hf, Term.bool?_of_value? hg,
    Term.bool?_of_value? hh, Term.bool?_of_value? hi]
  rfl

theorem survives_encodeWith {s : Subscription} {spelled : String}
    (hspelled : WebhookId.ofText? spelled = some s.id) :
    Survives fieldNames decode? (s.encodeWith spelled) s := by
  refine survives rfl (by decide) nofun ?_ (fun t => ofTerm?_of_none)
    (fun t ts => ofTerm?_of_values hspelled)
  rw [values_fieldsWith]
  simp only [List.forall_mem_cons]
  exact ⟨plain_string .., plain_string .., plain_string .., plain_bool .., plain_string ..,
    plain_array (plain_string 0) _, plain_array (plain_string 0) _, plain_bool .., plain_bool ..,
    plain_bool .., plain_bool .., plain_bool .., plain_bool .., plain_bool .., plain_bool ..,
    plain_bool .., nofun⟩

end Subscription

namespace Registration

theorem values_fields (r : Registration) : r.fields.map (·.2) = [.string r.description,
    .string r.url, .bool r.isActive, .string r.authorization,
    .array (r.chains.map fun w => .number (.integer w.toNat)), .array (r.addresses.map .string),
    .array (r.events.map .string)] := rfl

theorem ofTerm?_of_none {t : Term} (h : fieldsOf? fieldNames t = none) : ofTerm? t = none := by
  unfold ofTerm?
  rw [h]
  rfl

/-- The fields are read for the request they were written for. -/
theorem ofTerm?_of_values {r : Registration} {t : Term} {ts : List Term}
    (hfields : fieldsOf? fieldNames t = some ts)
    (hvalues : List.Forall₂ (fun t v => t.value? 1 = some v) ts (r.fields.map (·.2))) :
    ofTerm? t = some r := by
  rw [values_fields] at hvalues
  obtain _ | ⟨hdescription, _ | ⟨hurl, _ | ⟨hisActive, _ | ⟨hauthorization, _ | ⟨hchains,
    _ | ⟨haddresses, _ | ⟨hevents, _ | _⟩⟩⟩⟩⟩⟩⟩ := hvalues
  unfold ofTerm?
  rw [hfields]
  dsimp only [Option.bind_eq_bind, Option.bind_some]
  rw [Term.text?_of_value? hdescription, Term.text?_of_value? hurl,
    Term.bool?_of_value? hisActive, Term.text?_of_value? hauthorization,
    Term.list?_of_value? Term.word?_of_value? hchains,
    Term.list?_of_value? Term.text?_of_value? haddresses,
    Term.list?_of_value? Term.text?_of_value? hevents]
  rfl

theorem survives_encode (r : Registration) : Survives fieldNames decode? r.encode r := by
  refine survives rfl (by decide) nofun ?_ (fun t => ofTerm?_of_none)
    (fun t ts => ofTerm?_of_values)
  rw [values_fields]
  simp only [List.forall_mem_cons]
  exact ⟨plain_string .., plain_string .., plain_bool .., plain_string ..,
    plain_array (plain_word 0) _, plain_array (plain_string 0) _, plain_array (plain_string 0) _,
    nofun⟩

end Registration

/-- Subscriptions and requests survive their JSON form: they are read of their text, of every text
that says the same of their fields, and for a subscription also when the id is spelled otherwise.
The spellings of an id are its digits in either case, alone or in groups, and the groups in braces
or behind `urn:uuid:`. -/
theorem Subscription.survives_json :
    (∀ (s : Subscription) (spelled : String), WebhookId.IsSpelling s.id spelled.toList →
      Survives Subscription.fieldNames Subscription.decode? (s.encodeWith spelled) s) ∧
    (∀ s : Subscription,
      s.encodeWith s.id.text = s.encode ∧ WebhookId.IsSpelling s.id s.id.text.toList) ∧
    (∀ (id : WebhookId) (spelled : String),
      WebhookId.ofText? spelled = some id ↔ WebhookId.IsSpelling id spelled.toList) ∧
    ∀ r : Registration, Survives Registration.fieldNames Registration.decode? r.encode r := by
  refine ⟨?_, fun s => ⟨s.encodeWith_text, ?_⟩, fun id spelled => WebhookId.ofText?_eq_some_iff,
    Registration.survives_encode⟩
  · intro s spelled hspelled
    exact survives_encodeWith (WebhookId.ofText?_eq_some_iff.2 hspelled)
  · exact WebhookId.ofText?_eq_some_iff.1 (WebhookId.ofText?_text s.id)

/-- A request for one chain, the greatest that there is. -/
def Registration.sample : Registration :=
  ⟨"d", "u", true, "", [18446744073709551615], [], ["E"]⟩

/-- The members of its text. -/
def Registration.sampleMembers : List (List StringUnit × Term) :=
  let key := fun (k : String) => k.toList.map StringUnit.char
  [(key "description", .string (key "d")), (key "url", .string (key "u")),
    (key "is_active", .bool true), (key "authorization", .string []),
    (key "chains", .array [.number
      ⟨false, [1, 8, 4, 4, 6, 7, 4, 4, 0, 7, 3, 7, 0, 9, 5, 5, 1, 6, 1, 5], none, none⟩]),
    (key "addresses", .array []), (key "events", .array [.string (key "E")])]

/-- Its members the other way round behind one that no request has. -/
def Registration.sampleText : String :=
  "\x7b \"x\" : [null] ,\"events\":[\"E\"],\"addresses\":[],\"chains\":[18446744073709551615],"
    ++ "\"authorization\":\"\",\"is_active\":true,\"url\":\"u\",\"description\":\"d\"\x7d\n"

theorem Registration.document_sampleText : Document sampleText
    (.object (([.char 'x'], .array [.null]) :: sampleMembers.reverse)) :=
  termOf?_eq_some_iff.1 (by cbv)

theorem Registration.document_encode_sample : Document sample.encode (.object sampleMembers) :=
  termOf?_eq_some_iff.1 (by cbv)

/-- A subscription whose id is spelled in capitals behind `urn:uuid:`, and a request: its members
rearranged, its values in an array, and one value too few. -/
theorem Subscription.survives_json_of_sample :
    let s := Subscription.new ⟨0xABCDEF⟩ "u"
    decode? (s.encodeWith "urn:uuid:00000000-0000-0000-0000-000000ABCDEF") = some s ∧
    Registration.decode? Registration.sampleText = some .sample ∧
    Registration.decode? "[\"d\",\"u\",true,\"\",[18446744073709551615],[],[\"E\"]]"
      = some .sample ∧
    Registration.decode? "[\"d\",\"u\",true,\"\",[18446744073709551615],[]]" = none := by
  intro s
  have hspelled : WebhookId.ofText? "urn:uuid:00000000-0000-0000-0000-000000ABCDEF"
      = some s.id := by
    decide +kernel
  have hitems : Document "[\"d\",\"u\",true,\"\",[18446744073709551615],[],[\"E\"]]"
      (.array (Registration.sampleMembers.map (·.2))) := termOf?_eq_some_iff.1 (by cbv)
  have hfew : Document "[\"d\",\"u\",true,\"\",[18446744073709551615],[]]"
      (.array (Registration.sampleMembers.map (·.2)).dropLast) := termOf?_eq_some_iff.1 (by cbv)
  obtain ⟨hsubscription, -, hspellings, hrequest⟩ := survives_json
  obtain ⟨-, -, ⟨ms, hdocument, -, hrearranged, harray⟩, -, hmeasured⟩ := hrequest .sample
  cases Registration.document_encode_sample.unique hdocument
  refine ⟨(hsubscription s _ ((hspellings _ _).1 hspelled)).read, ?_, harray _ hitems,
    hmeasured _ _ hfew (by decide)⟩
  refine hrearranged [([.char 'x'], .array [.null])] _ _ ?_ ?_ Registration.document_sampleText
  · simp only [List.forall_mem_singleton]
    exact ⟨"x", rfl, by decide⟩
  · exact ((List.reverse_perm _).cons _).trans (List.perm_append_singleton _ _).symm

end WebhookRelay

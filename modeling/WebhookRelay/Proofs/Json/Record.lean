-- SUMMARY: Records: what is read of one whatever the order of its members, and which texts are none.
import WebhookRelay.Json.Record
import WebhookRelay.Proofs.Json.Members
import WebhookRelay.Proofs.Json.Tokens
import WebhookRelay.Proofs.Json.Within
import WebhookRelay.Proofs.Json.Writing
import WebhookRelay.Proofs.Lists

/-!
# Records

A record is read by the names of its fields. In an object each name must stand once; the order of
the members makes no difference, and other members make none (`fieldsOf?_of_perm`). In an array
there must be as many items as fields.

`Survives` says that a value survives its text: whatever is done to the text that leaves the fields
as they are, the value is read, and nothing is read of a text that lacks a field or repeats one
(`survives`).
-/

namespace WebhookRelay.Json

/-- The values that stand under a name. -/
def valuesAt (name : String) (ms : List (List StringUnit × Term)) : List Term :=
  (ms.filter fun m => textOf? m.1 = some name).map (·.2)

/-! ## Fields of an object -/

section

variable {names : List String} {ms ms' others : List (List StringUnit × Term)}
  {pairs : List (String × Term)} {name : String} {t : Term} {ts : List Term}

theorem exists_keyedMembers?_iff :
    (∃ pairs, keyedMembers? ms = some pairs) ↔ ∀ m ∈ ms, (textOf? m.1).isSome = true := by
  simp only [keyedMembers?, mapM_eq_some_iff, exists_forall₂_iff, ← Option.isSome_iff_exists,
    Option.isSome_map]

theorem map_filter_of_keyed (h : keyedMembers? ms = some pairs) (name : String) :
    (pairs.filter (·.1 == name)).map (·.2) = valuesAt name ms := by
  rw [keyedMembers?, mapM_eq_some_iff] at h
  induction h with
  | nil => rfl
  | @cons m p ms pairs hmp _ ih =>
    obtain ⟨k, hk, rfl⟩ := Option.map_eq_some_iff.1 hmp
    rw [valuesAt] at ih ⊢
    by_cases hname : k = name
    · simp [hname, hk, ih]
    · simp [hname, hk, ih]

/-- A field has a value exactly when this is the only one under its name. -/
theorem fieldOf?_eq_some_iff (h : keyedMembers? ms = some pairs) :
    fieldOf? pairs name = some t ↔ valuesAt name ms = [t] := by
  rw [← map_filter_of_keyed h, fieldOf?]
  generalize pairs.filter (·.1 == name) = found
  match found with
  | [] => simp
  | [m] => simp
  | _ :: _ :: _ => simp

/-- An object is read as a record exactly when all keys are texts and each name has one value. -/
theorem fieldsOf?_object_eq_some_iff : fieldsOf? names (.object ms) = some ts ↔
    (∀ m ∈ ms, (textOf? m.1).isSome = true) ∧
      List.Forall₂ (fun name t => valuesAt name ms = [t]) names ts := by
  rw [← exists_keyedMembers?_iff, fieldsOf?, Option.bind_eq_some_iff]
  constructor
  · rintro ⟨pairs, hpairs, hfields⟩
    exact ⟨⟨pairs, hpairs⟩,
      (mapM_eq_some_iff.1 hfields).imp fun _ _ => (fieldOf?_eq_some_iff hpairs).1⟩
  · rintro ⟨⟨pairs, hpairs⟩, hfields⟩
    exact ⟨pairs, hpairs,
      mapM_eq_some_iff.2 (hfields.imp fun _ _ => (fieldOf?_eq_some_iff hpairs).2)⟩

/-- A name that has no value, or more than one, is no field's. -/
theorem fieldsOf?_object_eq_none (hname : name ∈ names) (hcount : (valuesAt name ms).length ≠ 1) :
    fieldsOf? names (.object ms) = none := by
  rw [Option.eq_none_iff_forall_ne_some]
  intro ts h
  obtain ⟨-, hfields⟩ := fieldsOf?_object_eq_some_iff.1 h
  obtain ⟨t, -, hvalues⟩ := exists_of_forall₂ hfields hname
  exact hcount (by rw [hvalues]; rfl)

theorem fieldsOf?_array_eq_none {items : List Term} (hlength : items.length ≠ names.length) :
    fieldsOf? names (.array items) = none :=
  if_neg hlength

/-- Members whose keys are the names of the fields, one each, are read for their values, in any
order and among members with other keys. -/
theorem fieldsOf?_of_perm (hkeys : ms.map (fun m => textOf? m.1) = names.map some)
    (hnodup : names.Nodup) (hothers : ∀ m ∈ others, ∃ k, textOf? m.1 = some k ∧ k ∉ names)
    (hperm : ms'.Perm (ms ++ others)) :
    fieldsOf? names (.object ms') = some (ms.map (·.2)) := by
  have hkeys₂ : List.Forall₂ (fun name m => textOf? m.1 = some name) names ms := by
    have heq : List.Forall₂ Eq (names.map some) (ms.map fun m => textOf? m.1) := by
      rw [List.forall₂_eq_eq_eq, hkeys]
    exact (List.forall₂_map_left_iff.1 (List.forall₂_map_right_iff.1 heq)).imp fun _ _ => Eq.symm
  rw [List.forall₂_iff_zip] at hkeys₂
  obtain ⟨hlength, hkey⟩ := hkeys₂
  refine fieldsOf?_object_eq_some_iff.2 ⟨?texts, ?fields⟩
  case texts =>
    intro m hm
    rcases List.mem_append.1 (hperm.mem_iff.1 hm) with hm | hm
    · have hmem : textOf? m.1 ∈ names.map some := hkeys ▸ List.mem_map_of_mem hm
      obtain ⟨name, -, hname⟩ := List.mem_map.1 hmem
      rw [← hname]
      rfl
    · obtain ⟨k, hk, -⟩ := hothers m hm
      rw [hk]
      rfl
  case fields =>
    rw [List.forall₂_map_right_iff, List.forall₂_iff_zip]
    refine ⟨hlength, ?_⟩
    intro name m hmem
    obtain ⟨hname, hm⟩ := List.of_mem_zip hmem
    have honly : ms.filter (fun m' => textOf? m'.1 = textOf? m.1) = [m] :=
      filter_key_eq_singleton (by rw [hkeys]; exact hnodup.map (Option.some_injective _)) hm
    have hnone : others.filter (fun m' => textOf? m'.1 = some name) = [] := by
      rw [List.filter_eq_nil_iff]
      intro m' hm'
      obtain ⟨k, hk, hknames⟩ := hothers m' hm'
      have hne : k ≠ name := fun heq => hknames (heq ▸ hname)
      simpa [hk] using hne
    have hvalues := (hperm.filter fun m' => textOf? m'.1 = some name).map (·.2)
    rw [List.filter_append, hnone, List.append_nil, ← hkey hmem, honly] at hvalues
    rw [valuesAt, ← hkey hmem]
    exact List.perm_singleton.1 hvalues

end

/-! ## Values of fields -/

section

variable {depth : Nat} {t : Term}

theorem Term.text?_of_value? {s : String} (h : t.value? depth = some (.string s)) :
    t.text? = some s := by
  cases matches_of_value? h with
  | string text => exact text

theorem Term.bool?_of_value? {b : Bool} (h : t.value? depth = some (.bool b)) :
    t.bool? = some b := by
  cases matches_of_value? h with
  | bool => rfl

theorem Term.word?_of_value? {w : UInt64}
    (h : t.value? depth = some (.number (.integer w.toNat))) : t.word? = some w := by
  cases matches_of_value? h with
  | number number => simp [word?, number]

/-- A list is read when its items are. -/
theorem Term.list?_of_value? {α : Type} {item? : Term → Option α} {json : α → Json}
    (hitem : ∀ {t x}, Term.value? depth t = some (json x) → item? t = some x) {xs : List α}
    (h : t.value? (depth + 1) = some (.array (xs.map json))) : t.list? item? = some xs := by
  cases matches_of_value? h with
  | array items =>
    obtain ⟨vs, hvs, heq⟩ := Option.map_eq_some_iff.1 h
    cases heq
    rw [itemValuesWith?_eq_some_iff, List.forall₂_map_right_iff] at hvs
    exact mapM_eq_some_iff.2 (hvs.imp fun _ _ => hitem)

end

/-! ## Records that survive -/

/-- Whether a value is written and read at some depth without looking at doubles. -/
structure Plain (depth : Nat) (v : Json) : Prop where
  wellFormed : v.WellFormed depth
  doubles : v.doubles = []

theorem plain_string (depth : Nat) (s : String) : Plain depth (.string s) :=
  ⟨.string depth s, rfl⟩

theorem plain_bool (depth : Nat) (b : Bool) : Plain depth (.bool b) :=
  ⟨.bool depth b, rfl⟩

theorem plain_word (depth : Nat) (w : UInt64) : Plain depth (.number (.integer w.toNat)) := by
  have hlt := w.toNat_lt
  exact ⟨.integer depth (by omega) (by omega), rfl⟩

theorem plain_array {α : Type} {depth : Nat} {json : α → Json} (h : ∀ x, Plain depth (json x))
    (xs : List α) : Plain (depth + 1) (.array (xs.map json)) := by
  refine ⟨.array fun v hv => ?_, ?_⟩
  · obtain ⟨x, -, rfl⟩ := List.mem_map.1 hv
    exact (h x).wellFormed
  · rw [List.eq_nil_iff_forall_not_mem]
    intro x hx
    obtain ⟨v, hv, hx⟩ := mem_itemDoubles_iff.1 hx
    obtain ⟨y, -, rfl⟩ := List.mem_map.1 hv
    rw [(h y).doubles] at hx
    cases hx

/-- Whether a value is read of a text and of every other that says the same of the fields. -/
structure Survives {α : Type} (names : List String) (decode? : String → Option α) (text : String)
    (x : α) : Prop where
  read : decode? text = some x
  /-- The blanks between tokens make no difference. -/
  spaced : ∀ t tokens text', Tokens (.value t) tokens → ConsistsOf text tokens →
    ConsistsOf text' tokens → decode? text' = some x
  /-- Neither does the order of the members, nor do further members or the keys: an array of the
  values in order is read alike. -/
  rearranged : ∃ ms, Document text (.object ms) ∧
    ms.map (fun m => textOf? m.1) = names.map some ∧
    (∀ others ms' text', (∀ m ∈ others, ∃ k, textOf? m.1 = some k ∧ k ∉ names) →
      ms'.Perm (ms ++ others) → Document text' (.object ms') → decode? text' = some x) ∧
    ∀ text', Document text' (.array (ms.map (·.2))) → decode? text' = some x
  /-- A name that stands nowhere or repeatedly is an error. -/
  counted : ∀ ms' text' name, Document text' (.object ms') → name ∈ names →
    (valuesAt name ms').length ≠ 1 → decode? text' = none
  /-- So is an array of another length. -/
  measured : ∀ items text', Document text' (.array items) → items.length ≠ names.length →
    decode? text' = none

section

variable {α : Type} {names : List String} {fields : List (String × Json)}
  {ofTerm? : Term → Option α} {x : α}

/-- A record survives when reading goes by its fields alone. -/
theorem survives (hnames : fields.map (·.1) = names) (hnodup : names.Nodup) (hne : fields ≠ [])
    (hplain : ∀ v ∈ fields.map (·.2), Plain 1 v)
    (hnone : ∀ t, fieldsOf? names t = none → ofTerm? t = none)
    (hread : ∀ t ts, fieldsOf? names t = some ts →
      List.Forall₂ (fun t v => t.value? 1 = some v) ts (fields.map (·.2)) → ofTerm? t = some x) :
    Survives names (fun text => (termOf? text).bind ofTerm?) (recordText fields) x := by
  have hdoubles : ∀ f ∈ fields, ∀ x ∈ f.2.doubles, ReadsBack x := by
    intro f hf x hx
    rw [(hplain f.2 (List.mem_map_of_mem hf)).doubles] at hx
    cases hx
  have hdocument : Document (recordText fields) (.object (memberTerms fields)) :=
    document_recordText hne hdoubles
  have hmembers : memberValues? 1 (memberTerms fields) = some fields :=
    memberValues?_memberTerms (fun f hf => (hplain f.2 (List.mem_map_of_mem hf)).wellFormed)
      hdoubles
  generalize memberTerms fields = ms at hdocument hmembers
  have hkeys : ms.map (fun m => textOf? m.1) = names.map some := by
    rw [map_textOf?_eq hmembers, hnames]
  have hvalues : List.Forall₂ (fun t v => t.value? 1 = some v) (ms.map (·.2))
      (fields.map (·.2)) :=
    List.forall₂_map_left_iff.2 <| List.forall₂_map_right_iff.2 <|
      (memberValuesWith?_eq_some_iff.1 hmembers).imp fun _ _ hmp => hmp.2
  have hsome : ∀ {text' t}, Document text' t → fieldsOf? names t = some (ms.map (·.2)) →
      (termOf? text').bind ofTerm? = some x := by
    intro text' t hdocument' hfields
    rw [termOf?_eq_some_iff.2 hdocument', Option.bind_some, hread t _ hfields hvalues]
  have hrefused : ∀ {text' t}, Document text' t → fieldsOf? names t = none →
      (termOf? text').bind ofTerm? = none := by
    intro text' t hdocument' hfields
    rw [termOf?_eq_some_iff.2 hdocument', Option.bind_some, hnone t hfields]
  have hsame : fieldsOf? names (.object ms) = some (ms.map (·.2)) :=
    fieldsOf?_of_perm hkeys hnodup (by simp) (.of_eq (List.append_nil ms).symm)
  constructor
  case read => exact hsome hdocument hsame
  case spaced =>
    intro t tokens text' htokens htext htext'
    cases (htokens.document htext).unique hdocument
    exact hsome (htokens.document htext') hsame
  case rearranged =>
    refine ⟨ms, hdocument, hkeys, ?_, ?_⟩
    · intro others ms' text' hothers hperm hdocument'
      exact hsome hdocument' (fieldsOf?_of_perm hkeys hnodup hothers hperm)
    · intro text' hdocument'
      have hlength : (ms.map (·.2)).length = names.length := by
        simpa using congrArg List.length hkeys
      exact hsome hdocument' (if_pos hlength)
  case counted =>
    intro ms' text' name hdocument' hname hcount
    exact hrefused hdocument' (fieldsOf?_object_eq_none hname hcount)
  case measured =>
    intro items text' hdocument' hlength
    exact hrefused hdocument' (fieldsOf?_array_eq_none hlength)

end

end WebhookRelay.Json

-- SUMMARY: Which payloads are messages, which error each of the others gives, and what the event of a message holds.
import WebhookRelay.Proofs.Event.Decoding
import WebhookRelay.Proofs.Json.NumberText
import WebhookRelay.Proofs.Json.Within

/-!
# Acceptance

Whether a payload is accepted is told apart from how it is decoded: it is the text of one
object, the object has a value, and the three interpreted members occur once at most and are of
their kinds (`IsMessage`). Texts that are embedded count as well: the chain may stand in one
(`textFor?_chainId_iff`), and those in the other members must be texts that can be read. What the
chain or the type lack is looked at after all that, so the four outcomes exclude each other in this
order (`ofPayload_outcome`).
-/

namespace WebhookRelay.Event

open Json

/-! ## Messages -/

/-- Whether a term is of a kind that names a chain. -/
def GivesChain (t : Term) : Prop :=
  t = .null ∨ (∃ units, t = .string units) ∨ ∃ l, t = .number l

/-- Whether a term names nothing: it is null or the empty string. -/
def Nameless (t : Term) : Prop :=
  t = .null ∨ t = .string []

/-- Whether a text is a message with some members, when numbers of a kind can be read: one
object with bounded nesting and no surrogate alone, in which the interpreted keys do not repeat
and have a string or null, or for the chain a number. The chain may stand in an embedded text, and
the other members are intact. -/
structure IsMessage (readable : Literal → Prop) (text : String)
    (members : List (List StringUnit × Term)) : Prop where
  document : Document text (.object members)
  within : (Term.object members).Within readable maxDepth
  once : ∀ key ∈ interpreted, (occurrences key members).length ≤ 1
  chainId : ∀ t ∈ occurrences "chainId" members, ∃ t', t.StandsFor readable t' ∧ GivesChain t'
  plain : ∀ key ∈ ["address", "type"], ∀ t ∈ occurrences key members,
    t = .null ∨ ∃ units, t = .string units
  intact : ∀ m ∈ othersOf members, m.2.Intact readable

/-- Whether no chain is named: it is absent, or what stands there names nothing. -/
def NoChain (readable : Literal → Prop) (members : List (List StringUnit × Term)) : Prop :=
  ∀ t ∈ occurrences "chainId" members, ∃ t', t.StandsFor readable t' ∧ Nameless t'

/-- Whether no type is named: it is absent, or what stands there names nothing. -/
def NoType (members : List (List StringUnit × Term)) : Prop :=
  ∀ t ∈ occurrences "type" members, Nameless t

/-! ## Texts of interpreted members -/

section

variable {depth : Nat} {t : Term} {v : Json} {s : String}

theorem isSome_chainText?_iff (h : t.value? depth = some v) :
    GivesChain t ↔ (chainText? v).isSome := by
  cases Term.matches_of_value? h <;> simp [GivesChain, chainText?]

theorem isSome_plainText?_iff (h : t.value? depth = some v) :
    (t = .null ∨ ∃ units, t = .string units) ↔ (plainText? v).isSome := by
  cases Term.matches_of_value? h <;> simp [plainText?]

theorem nameless_iff (h : t.value? depth = some v) : Nameless t ↔ v = .null ∨ v = .string "" := by
  cases Term.matches_of_value? h with
  | string text => simp [Nameless, textOf?_eq_empty_iff text]
  | null | bool | number | array | object => simp [Nameless]

theorem chainText?_eq_empty_iff (h : chainText? v = some s) :
    s = "" ↔ v = .null ∨ v = .string "" := by
  cases v with
  | null =>
    cases h
    simp
  | string s => simp_all [chainText?]
  | number n =>
    cases h
    simp [n.text_ne_empty]
  | bool | array | object => cases h

theorem plainText?_eq_empty_iff (h : plainText? v = some s) :
    s = "" ↔ v = .null ∨ v = .string "" := by
  rcases plainText?_eq_some_iff.1 h with ⟨rfl, rfl⟩ | rfl <;> simp

/-- Whether a text says a value: the term of the text stands for one with this value. -/
def Says (text : String) (v : Json) : Prop :=
  ∃ t t', Document text t ∧ t.Within Literal.Readable maxDepth ∧
    t.StandsFor Literal.Readable t' ∧ t'.value? maxDepth = some v

/-- What is read of a term and names a chain is the value of a term that it stands for, if that is
so of the texts in it. -/
theorem exists_standsFor {inner : String → Option Json}
    (hinner : ∀ text w, inner text = some w → (chainText? w).isSome → Says text w)
    (h : t.valueWith? (embedding inner) depth = some v) (hv : (chainText? v).isSome) :
    ∃ t', t.StandsFor Literal.Readable t' ∧ t'.value? maxDepth = some v := by
  obtain hvalue | ⟨d, key, units, text, -, rfl, hkey, htext, hw⟩ := value?_or_embeds h hv
  · exact ⟨t, .self t, hvalue maxDepth⟩
  · obtain ⟨t, t', hdocument, hwithin, hstands, hvalue⟩ := hinner text v hw hv
    exact ⟨t', .embedding hkey htext hdocument hwithin hstands, hvalue⟩

theorem says_of_parse? {text : String} (h : parse? text = some v) (hv : (chainText? v).isSome) :
    Says text v := by
  refine parse?_induction (P := fun text v => (chainText? v).isSome → Says text v)
    (fun inner text t v hinner hdocument hread hv => ?_) h hv
  obtain ⟨t', hstands, hvalue⟩ := exists_standsFor hinner hread hv
  exact ⟨t, t', hdocument, Term.within_of_read hread, hstands, hvalue⟩

/-- A term is read like the one that it stands for, when that one names a chain. -/
theorem read?_of_standsFor {t' : Term} (h : t.StandsFor Literal.Readable t')
    (hwithin : t.Within Literal.Readable depth) (hvalue : t'.value? maxDepth = some v)
    (hv : (chainText? v).isSome) : t.read? depth = some v := by
  induction h generalizing depth with
  | self t =>
    cases t with
    | null | number | string => exact hvalue
    | bool | array | object =>
      cases Term.matches_of_value? hvalue
      cases hv
  | embedding marked string document within _ ih =>
    obtain ⟨depth, rfl⟩ := hwithin.exists_succ
    rw [Term.read?_embedding marked string document]
    exact ih within hvalue

/-- A chain is named by the value of a term that another stands for. -/
theorem textFor?_chainId_iff : textFor? "chainId" t = some s ↔
    t.Within Literal.Readable (maxDepth - 1) ∧ ∃ t' v, t.StandsFor Literal.Readable t' ∧
      t'.value? maxDepth = some v ∧ chainText? v = some s := by
  rw [textFor?, if_pos rfl, Option.bind_eq_some_iff]
  constructor
  · rintro ⟨v, hread, hs⟩
    obtain ⟨t', hstands, hvalue⟩ :=
      exists_standsFor (fun _ _ => says_of_parse?) hread (Option.isSome_of_eq_some hs)
    exact ⟨Term.within_of_read hread, t', v, hstands, hvalue, hs⟩
  · rintro ⟨hwithin, t', v, hstands, hvalue, hs⟩
    exact ⟨v, read?_of_standsFor hstands hwithin hvalue (Option.isSome_of_eq_some hs), hs⟩

/-- What a term within bounds stands for has a value, when it is of a kind that names a chain. -/
theorem exists_chainText? {t' : Term} (h : t.StandsFor Literal.Readable t')
    (hwithin : t.Within Literal.Readable depth) (hgives : GivesChain t') :
    ∃ v s, t'.value? maxDepth = some v ∧ chainText? v = some s := by
  induction h generalizing depth with
  | self t =>
    have hvalued : t.Within Literal.Readable maxDepth := by
      cases hwithin with
      | null => exact .null _
      | number _ readable => exact .number _ readable
      | string _ paired => exact .string _ paired
      | bool | array | object => simp [GivesChain] at hgives
    obtain ⟨v, hv⟩ := Option.isSome_iff_exists.1 (isSome_value?_iff.2 hvalued)
    obtain ⟨s, hs⟩ := Option.isSome_iff_exists.1 ((isSome_chainText?_iff hv).1 hgives)
    exact ⟨v, s, hv, hs⟩
  | embedding _ _ _ within _ ih => exact ih within hgives

theorem Nameless.givesChain (h : Nameless t) : GivesChain t :=
  h.imp_right fun h => .inl ⟨[], h⟩

theorem isSome_textFor?_chainId_iff : (textFor? "chainId" t).isSome ↔
    t.Within Literal.Readable (maxDepth - 1) ∧
      ∃ t', t.StandsFor Literal.Readable t' ∧ GivesChain t' := by
  simp only [Option.isSome_iff_exists, textFor?_chainId_iff]
  constructor
  · rintro ⟨s, hwithin, t', v, hstands, hvalue, hs⟩
    exact ⟨hwithin, t', hstands, (isSome_chainText?_iff hvalue).2 (Option.isSome_of_eq_some hs)⟩
  · rintro ⟨hwithin, t', hstands, hgives⟩
    obtain ⟨v, s, hvalue, hs⟩ := exists_chainText? hstands hwithin hgives
    exact ⟨s, hwithin, t', v, hstands, hvalue, hs⟩

theorem eq_empty_iff_of_textFor?_chainId (h : textFor? "chainId" t = some s) :
    s = "" ↔ ∃ t', t.StandsFor Literal.Readable t' ∧ Nameless t' := by
  obtain ⟨hwithin, t', v, hstands, hvalue, hs⟩ := textFor?_chainId_iff.1 h
  constructor
  · intro hempty
    exact ⟨t', hstands, (nameless_iff hvalue).2 ((chainText?_eq_empty_iff hs).1 hempty)⟩
  · rintro ⟨t'', hstands', hnameless⟩
    obtain ⟨v', s', hvalue', hs'⟩ := exists_chainText? hstands' hwithin hnameless.givesChain
    cases h.symm.trans (textFor?_chainId_iff.2 ⟨hwithin, t'', v', hstands', hvalue', hs'⟩)
    exact (chainText?_eq_empty_iff hs').2 ((nameless_iff hvalue').1 hnameless)

theorem isSome_textFor?_iff {key : String} (hkey : key ≠ "chainId") :
    (textFor? key t).isSome ↔
      t.Within Literal.Readable (maxDepth - 1) ∧ (t = .null ∨ ∃ units, t = .string units) := by
  rw [textFor?, if_neg hkey, ← isSome_value?_iff]
  cases hvalue : t.value? (maxDepth - 1) with
  | none => simp
  | some v => simp [isSome_plainText?_iff hvalue]

theorem eq_empty_iff_of_textFor? {key : String} (hkey : key ≠ "chainId")
    (h : textFor? key t = some s) : s = "" ↔ Nameless t := by
  rw [textFor?, if_neg hkey] at h
  obtain ⟨v, hvalue, hs⟩ := Option.bind_eq_some_iff.1 h
  rw [plainText?_eq_empty_iff hs, nameless_iff hvalue]

end

/-! ## Drafts -/

namespace Draft

/-- Whether members make a draft: all have values, the interpreted keys do not repeat, and what
stands under them gives a text. -/
structure Takeable (members : List (List StringUnit × Term)) : Prop where
  valued : (memberValues? (maxDepth - 1) members).isSome
  once : ∀ key ∈ interpreted, (occurrences key members).length ≤ 1
  texts : ∀ key ∈ interpreted, ∀ t ∈ occurrences key members, (textFor? key t).isSome

section

variable {key : String} {members : List (List StringUnit × Term)} {place : Option String}

theorem Filled.length_le (h : Filled key members place) :
    (occurrences key members).length ≤ 1 := by
  have hlength := congrArg List.length h
  rw [List.length_map, List.length_map] at hlength
  cases place <;> simp [hlength]

theorem Filled.isSome_textFor? (h : Filled key members place) {t : Term}
    (ht : t ∈ occurrences key members) : (textFor? key t).isSome := by
  have hmem := List.mem_map_of_mem (f := textFor? key) ht
  rw [h] at hmem
  obtain ⟨s, -, hs⟩ := List.mem_map.1 hmem
  rw [← hs]
  rfl

/-- The place of a key is empty before the only member with this key. -/
theorem Filled.eq_none (h : Filled key members place) {m : List StringUnit × Term}
    {more : List (List StringUnit × Term)} (hkey : textOf? m.1 = some key)
    (honce : (occurrences key (members ++ m :: more)).length ≤ 1) : place = none := by
  cases place with
  | none => rfl
  | some s =>
    obtain ⟨t, ht, -⟩ := h.exists_occurrences_eq
    have htwo : occurrences key (members ++ m :: more) = t :: m.2 :: occurrences key more := by
      rw [occurrences, List.filter_append, List.map_append, ← occurrences, ht]
      simp [occurrences, hkey]
    rw [htwo] at honce
    simp at honce

theorem Filled.getD_eq_empty_iff (h : Filled key members place) {P : Term → Prop}
    (htext : ∀ t s, textFor? key t = some s → (s = "" ↔ P t)) :
    place.getD "" = "" ↔ ∀ t ∈ occurrences key members, P t := by
  cases place with
  | none => simp [h.occurrences_eq_nil]
  | some s =>
    obtain ⟨t, ht, hs⟩ := h.exists_occurrences_eq
    simpa [ht] using htext t s hs

end

section

variable {d : Draft} {front more members : List (List StringUnit × Term)}

theorem Holds.takeable (h : d.Holds members) : Takeable members := by
  refine ⟨h.valued, fun key hkey => ?once, fun key hkey t ht => ?texts⟩
  case once =>
    rcases mem_interpreted_iff.1 hkey with rfl | rfl | rfl
    · exact h.chainId.length_le
    · exact h.address.length_le
    · exact h.type.length_le
  case texts =>
    rcases mem_interpreted_iff.1 hkey with rfl | rfl | rfl
    · exact h.chainId.isSome_textFor? ht
    · exact h.address.isSome_textFor? ht
    · exact h.type.isSome_textFor? ht

theorem Holds.exists_add {m : List StringUnit × Term} (h : d.Holds front)
    (htake : Takeable (front ++ m :: more)) : ∃ d', d.add m = .ok d' := by
  have hmem : m ∈ front ++ m :: more := by simp
  obtain ⟨hkeyed, hvalued⟩ := isSome_memberValuesWith?_iff.1 htake.valued m hmem
  obtain ⟨key, hkey⟩ := Option.isSome_iff_exists.1 hkeyed
  simp only [add_eq_ok_iff, hkey, Option.some.injEq, exists_eq_left']
  by_cases hinterpreted : key ∈ interpreted
  · have honce := htake.once key hinterpreted
    obtain ⟨s, hs⟩ := Option.isSome_iff_exists.1
      (htake.texts key hinterpreted m.2 (by simp [occurrences, hkey]))
    rcases mem_interpreted_iff.1 hinterpreted with rfl | rfl | rfl
    · exact ⟨_, by simp [take?, h.chainId.eq_none hkey honce, hs]; rfl⟩
    · exact ⟨_, by simp [take?, h.address.eq_none hkey honce, hs]; rfl⟩
    · exact ⟨_, by simp [take?, h.type.eq_none hkey honce, hs]; rfl⟩
  · obtain ⟨v, hv⟩ := Option.isSome_iff_exists.1 hvalued
    have hvalue : m.2.value? (maxDepth - 1) = some v := hv
    exact ⟨_, by rw [take?_of_not_mem d hinterpreted, hvalue]; rfl⟩

theorem Holds.exists_foldlM (h : d.Holds front) (htake : Takeable (front ++ more)) :
    ∃ d', more.foldlM Draft.add d = .ok d' := by
  induction more generalizing d front with
  | nil => exact ⟨d, rfl⟩
  | cons m more ih =>
    obtain ⟨d₁, hd₁⟩ := h.exists_add htake
    rw [List.append_cons] at htake
    obtain ⟨d', hd'⟩ := ih (h.add hd₁) htake
    exact ⟨d', bind_eq_ok_iff.2 ⟨d₁, hd₁, hd'⟩⟩

/-- Which members make a draft. -/
theorem exists_foldlM_add_iff : (∃ d, members.foldlM Draft.add empty = .ok d) ↔ Takeable members :=
  ⟨fun ⟨_, hd⟩ => (holds_empty.foldlM hd).takeable, fun h => holds_empty.exists_foldlM h⟩

end

end Draft

/-! ## Faults -/

/-- Whether a computation fails only for a fault of the text. -/
def Faulty {α : Type} (x : Except EventError α) : Prop :=
  ∀ error, x = .error error → ∃ fault, error = .invalidJson fault

theorem Faulty.ok {α : Type} (a : α) : Faulty (.ok a) :=
  nofun

theorem Faulty.invalidJson {α : Type} (fault : JsonFault) :
    Faulty (.error (.invalidJson fault) : Except EventError α) := by
  rintro _ ⟨⟩
  exact ⟨fault, rfl⟩

theorem Faulty.bind {α β : Type} {x : Except EventError α} {f : α → Except EventError β}
    (hx : Faulty x) (hf : ∀ a, Faulty (f a)) : Faulty (x >>= f) := by
  cases x with
  | error error => exact fun _ h => by cases h; exact hx error rfl
  | ok a => exact hf a

namespace Draft

theorem faulty_chainIdOf (t : Term) : Faulty (chainIdOf t) := by
  unfold chainIdOf
  split
  · exact .ok _
  · exact .ok _
  · exact .ok _
  · exact .invalidJson _
  · exact .invalidJson _

theorem faulty_textOrNull (t : Term) : Faulty (textOrNull t) := by
  unfold textOrNull
  split
  · exact .ok _
  · next units => cases textOf? units with
    | none => exact .invalidJson _
    | some s => exact .ok _
  · exact .invalidJson _

theorem faulty_add (d : Draft) (member : List StringUnit × Term) : Faulty (d.add member) := by
  have honce : ∀ (taken : Bool) {found : Except EventError String} (make : String → Draft),
      Faulty found → Faulty (do
        if taken then throw malformed
        return make (← found)) := by
    intro taken found make hfound
    cases taken with
    | true => exact .invalidJson _
    | false => exact hfound.bind fun s => .ok _
  unfold add
  split
  · exact .invalidJson _
  · exact honce _ _ (faulty_chainIdOf _)
  · exact honce _ _ (faulty_textOrNull _)
  · exact honce _ _ (faulty_textOrNull _)
  · split
    · exact .ok _
    · exact .invalidJson _

theorem faulty_foldlM_add (members : List (List StringUnit × Term)) (d : Draft) :
    Faulty (members.foldlM add d) := by
  induction members generalizing d with
  | nil => exact .ok d
  | cons member members ih => exact (faulty_add d member).bind ih

theorem faulty_finish (d : Draft) : Faulty d.finish := by
  unfold finish
  split
  · exact .ok _
  · exact .invalidJson _

end Draft

theorem faulty_decode (text : String) : Faulty (decode text) := by
  unfold decode
  split
  · exact .invalidJson _
  · next members complete _ =>
    refine (Draft.faulty_foldlM_add members _).bind fun d => ?_
    cases complete with
    | true => exact Draft.faulty_finish d
    | false => exact .invalidJson _

/-! ## Which texts are messages -/

section

variable {text : String} {members : List (List StringUnit × Term)}

theorem mem_of_mem_occurrences {key : String} {t : Term} (h : t ∈ occurrences key members) :
    ∃ m ∈ members, m.2 = t := by
  obtain ⟨m, hm, rfl⟩ := List.mem_map.1 h
  exact ⟨m, List.mem_of_mem_filter hm, rfl⟩

theorem unmarked_of_mem_occurrences (h : ∀ m ∈ members, m.2.Unmarked) {key : String} {t : Term}
    (ht : t ∈ occurrences key members) : t.Unmarked := by
  obtain ⟨m, hm, rfl⟩ := mem_of_mem_occurrences ht
  exact h m hm

/-- Members are of their kinds when they make a draft. -/
theorem takeable_iff : Draft.Takeable members ↔
    (Term.object members).Within Literal.Readable maxDepth ∧
      (∀ key ∈ interpreted, (occurrences key members).length ≤ 1) ∧
      (∀ t ∈ occurrences "chainId" members, ∃ t', t.StandsFor Literal.Readable t' ∧ GivesChain t') ∧
      ∀ key ∈ ["address", "type"], ∀ t ∈ occurrences key members,
        t = .null ∨ ∃ units, t = .string units := by
  have hwithin : (memberValues? (maxDepth - 1) members).isSome ↔
      (Term.object members).Within Literal.Readable maxDepth := by
    rw [← isSome_value?_iff]
    exact (Bool.eq_iff_iff.1 Option.isSome_map).symm
  constructor
  · rintro ⟨hvalued, honce, htexts⟩
    refine ⟨hwithin.1 hvalued, honce, fun t ht => ?chainId, fun key hkey t ht => ?plain⟩
    case chainId => exact (isSome_textFor?_chainId_iff.1 (htexts "chainId" (by decide) t ht)).2
    case plain =>
      rcases List.mem_pair.1 hkey with rfl | rfl
      · exact ((isSome_textFor?_iff (by decide)).1 (htexts _ (by decide) t ht)).2
      · exact ((isSome_textFor?_iff (by decide)).1 (htexts _ (by decide) t ht)).2
  · rintro ⟨hmembers, honce, hchain, hplain⟩
    refine ⟨hwithin.2 hmembers, honce, fun key hkey t ht => ?_⟩
    have ht' : t.Within Literal.Readable (maxDepth - 1) := by
      obtain ⟨m, hm, rfl⟩ := mem_of_mem_occurrences ht
      exact (within_object_iff.1 hmembers m hm).2
    rcases mem_interpreted_iff.1 hkey with rfl | rfl | rfl
    · exact isSome_textFor?_chainId_iff.2 ⟨ht', hchain t ht⟩
    · exact (isSome_textFor?_iff (by decide)).2 ⟨ht', hplain "address" (by decide) t ht⟩
    · exact (isSome_textFor?_iff (by decide)).2 ⟨ht', hplain "type" (by decide) t ht⟩

/-- The other members of a message can be read when they are intact. -/
theorem isSome_memberReadings?_othersOf_iff
    (h : (Term.object members).Within Literal.Readable maxDepth) :
    (memberReadings? (maxDepth - 1) (othersOf members)).isSome ↔
      ∀ m ∈ othersOf members, m.2.Intact Literal.Readable := by
  refine isSome_memberValuesWith?_iff.trans (forall₂_congr fun m hm => ?_)
  obtain ⟨hkey, hwithin⟩ := within_object_iff.1 h m (List.mem_of_mem_filter hm)
  rw [isSome_textOf?_iff, and_iff_right hkey]
  exact isSome_read?_iff.trans (and_iff_right hwithin)

/-- A text is decoded when it is a message. -/
theorem exists_decode_iff :
    (∃ decoded, decode text = .ok decoded) ↔
      ∃ members, IsMessage Literal.Readable text members := by
  constructor
  · rintro ⟨decoded, h⟩
    obtain ⟨members, d, hdocument, hholds, hfinish⟩ := exists_holds_of_decode h
    obtain ⟨readings, hreadings, -⟩ := Draft.finish_eq_ok_iff.1 hfinish
    obtain ⟨hwithin, honce, hchain, hplain⟩ := takeable_iff.1 hholds.takeable
    refine ⟨members, hdocument, hwithin, honce, hchain, hplain, ?_⟩
    rw [← isSome_memberReadings?_othersOf_iff hwithin, ← hholds.others, hreadings]
    rfl
  · rintro ⟨members, hdocument, hwithin, honce, hchain, hplain, hintact⟩
    obtain ⟨d, hfold⟩ :=
      Draft.exists_foldlM_add_iff.2 (takeable_iff.2 ⟨hwithin, honce, hchain, hplain⟩)
    obtain ⟨readings, hreadings⟩ := Option.isSome_iff_exists.1
      ((isSome_memberReadings?_othersOf_iff hwithin).2 hintact)
    have hholds : d.Holds members := Draft.holds_empty.foldlM hfold
    rw [← hholds.others] at hreadings
    exact ⟨_, decode_eq_ok_iff.2
      ⟨members, d, hdocument, hfold, Draft.finish_eq_ok_iff.2 ⟨readings, hreadings, rfl⟩⟩⟩

/-- Where no object is marked, a message is told by its grammar and the kinds of its members. -/
theorem isMessage_iff_of_unmarked {readable : Literal → Prop} (h : ∀ m ∈ members, m.2.Unmarked) :
    IsMessage readable text members ↔ Document text (.object members) ∧
      (Term.object members).Within readable maxDepth ∧
      (∀ key ∈ interpreted, (occurrences key members).length ≤ 1) ∧
      (∀ t ∈ occurrences "chainId" members, GivesChain t) ∧
      ∀ key ∈ ["address", "type"], ∀ t ∈ occurrences key members,
        t = .null ∨ ∃ units, t = .string units := by
  have hchain : (∀ t ∈ occurrences "chainId" members,
      ∃ t', t.StandsFor readable t' ∧ GivesChain t') ↔
      ∀ t ∈ occurrences "chainId" members, GivesChain t := by
    refine forall₂_congr fun t ht => ?_
    simp only [(unmarked_of_mem_occurrences h ht).standsFor_iff, exists_eq_left]
  constructor
  · rintro ⟨hdocument, hwithin, honce, hgives, hplain, -⟩
    exact ⟨hdocument, hwithin, honce, hchain.1 hgives, hplain⟩
  · rintro ⟨hdocument, hwithin, honce, hgives, hplain⟩
    exact ⟨hdocument, hwithin, honce, hchain.2 hgives, hplain,
      fun m hm => (h m (List.mem_of_mem_filter hm)).intact⟩

theorem noChain_iff_of_unmarked {readable : Literal → Prop} (h : ∀ m ∈ members, m.2.Unmarked) :
    NoChain readable members ↔ ∀ t ∈ occurrences "chainId" members, Nameless t := by
  refine forall₂_congr fun t ht => ?_
  simp only [(unmarked_of_mem_occurrences h ht).standsFor_iff, exists_eq_left]

/-- What decoding makes of a message. -/
theorem exists_decode_of_isMessage (h : IsMessage Literal.Readable text members) :
    ∃ decoded pairs, decode text = .ok decoded ∧
      memberValues? (maxDepth - 1) members = some pairs ∧
      (decoded.chainId = "" ↔ NoChain Literal.Readable members) ∧
      (decoded.type = "" ↔ NoType members) ∧ decoded.KeepsOthers members ∧
      (decoded.chainId ≠ "" → decoded.type ≠ "" → decoded.Shows pairs) := by
  obtain ⟨decoded, hdecode⟩ := exists_decode_iff.2 ⟨members, h⟩
  obtain ⟨members', d, hdocument, hholds, hfinish⟩ := exists_holds_of_decode hdecode
  cases hdocument.unique h.document
  obtain ⟨pairs, hpairs⟩ := Option.isSome_iff_exists.1 hholds.valued
  refine ⟨decoded, pairs, hdecode, hpairs, ?chainId, ?type, hholds.keepsOthers hfinish,
    hholds.shows hfinish hpairs⟩
  case chainId =>
    obtain ⟨readings, -, rfl⟩ := Draft.finish_eq_ok_iff.1 hfinish
    exact hholds.chainId.getD_eq_empty_iff fun t s => eq_empty_iff_of_textFor?_chainId
  case type =>
    obtain ⟨readings, -, rfl⟩ := Draft.finish_eq_ok_iff.1 hfinish
    exact hholds.type.getD_eq_empty_iff fun t s => eq_empty_iff_of_textFor? (by decide)

end

/-! ## Outcomes -/

theorem ofPayload_toUTF8 (text : String) : ofPayload text.toUTF8 = ofText text := by
  rw [ofPayload, fromUTF8?_eq_some_iff.2 rfl]

theorem ofText_of_error {text : String} {error : EventError} (h : decode text = .error error) :
    ofText text = .error error := by
  rw [ofText, h]
  rfl

theorem ofText_of_ok {text : String} {decoded : Event} (h : decode text = .ok decoded) :
    ofText text = if decoded.chainId = "" then .error (.missingField "chainId")
      else if decoded.type = "" then .error (.missingField "type")
      else .ok { decoded with raw := some text } := by
  rw [ofText, h]
  change decoded.validate.bind _ = _
  unfold validate
  split_ifs <;> rfl

theorem ofText_ne_invalidUtf8 (text : String) : ofText text ≠ .error .invalidUtf8 := by
  cases hdecode : decode text with
  | error error =>
    obtain ⟨fault, rfl⟩ := faulty_decode text error hdecode
    rw [ofText_of_error hdecode]
    nofun
  | ok decoded =>
    rw [ofText_of_ok hdecode]
    split_ifs <;> nofun

/-- What becomes of a payload, in this order: it is no UTF-8; it is no message; it names no
chain; it names no type; or it gives an event, which shows the members and keeps, of every other
key, what is read of the last one. Where no object is marked, a message is told by the kinds of its
members, its chain is the one that stands there, and the last value of every other key is kept. -/
theorem ofPayload_outcome (payload : ByteArray) :
    (ofPayload payload = .error .invalidUtf8 ↔ ¬ payload.IsValidUTF8) ∧
    ∀ text : String, text.toUTF8 = payload →
      ((∃ fault, ofPayload payload = .error (.invalidJson fault)) ↔
        ¬ ∃ members, IsMessage Literal.Readable text members) ∧
      (∀ members, (∀ m ∈ members, m.2.Unmarked) →
        (IsMessage Literal.Readable text members ↔ Document text (.object members) ∧
          (Term.object members).Within Literal.Readable maxDepth ∧
          (∀ key ∈ interpreted, (occurrences key members).length ≤ 1) ∧
          (∀ t ∈ occurrences "chainId" members, GivesChain t) ∧
          ∀ key ∈ ["address", "type"], ∀ t ∈ occurrences key members,
            t = .null ∨ ∃ units, t = .string units) ∧
        (NoChain Literal.Readable members ↔ ∀ t ∈ occurrences "chainId" members, Nameless t)) ∧
      ∀ members, IsMessage Literal.Readable text members →
        (ofPayload payload = .error (.missingField "chainId") ↔
          NoChain Literal.Readable members) ∧
        (ofPayload payload = .error (.missingField "type") ↔
          ¬ NoChain Literal.Readable members ∧ NoType members) ∧
        (¬ NoChain Literal.Readable members → ¬ NoType members → ∃ e pairs,
          ofPayload payload = .ok e ∧ e.body = text ∧
          memberValues? (maxDepth - 1) members = some pairs ∧ e.Shows pairs ∧
          ((∃ v, valuesOf "chainId" pairs = [v] ∧
              (v = .string e.chainId ∨ ∃ n, v = .number n ∧ e.chainId = n.text)) ↔
            ∀ v ∈ valuesOf "chainId" pairs, ∀ ms, v ≠ .object ms) ∧
          e.KeepsOthers members ∧
          ∀ key ∉ interpreted, (∀ t ∈ occurrences key members, t.Unmarked) →
            Members.find? key e.extra = pairs.reverse.lookup key) := by
  refine ⟨?utf8, ?text⟩
  case utf8 =>
    by_cases hvalid : payload.IsValidUTF8
    · obtain ⟨text, htext⟩ : ∃ text, String.fromUTF8? payload = some text :=
        ⟨_, dif_pos hvalid⟩
      rw [← fromUTF8?_eq_some_iff.1 htext, ofPayload_toUTF8]
      exact iff_of_false (ofText_ne_invalidUtf8 text) (not_not.2 text.isValidUTF8)
    · refine iff_of_true ?_ hvalid
      have hnone : String.fromUTF8? payload = none := dif_neg hvalid
      rw [ofPayload, hnone]
  case text =>
    rintro text rfl
    rw [ofPayload_toUTF8]
    refine ⟨?fault, fun members h => ⟨isMessage_iff_of_unmarked h, noChain_iff_of_unmarked h⟩,
      ?message⟩
    case fault =>
      rw [← exists_decode_iff]
      cases hdecode : decode text with
      | error error =>
        obtain ⟨fault, rfl⟩ := faulty_decode text error hdecode
        exact iff_of_true ⟨fault, ofText_of_error hdecode⟩ nofun
      | ok decoded =>
        refine iff_of_false ?_ (not_not.2 ⟨decoded, rfl⟩)
        rintro ⟨fault, hfault⟩
        rw [ofText_of_ok hdecode] at hfault
        split_ifs at hfault <;> cases hfault
    case message =>
      intro members hmessage
      obtain ⟨decoded, pairs, hdecode, hpairs, hchain, htype, hkeeps, hshows⟩ :=
        exists_decode_of_isMessage hmessage
      rw [ofText_of_ok hdecode, ← hchain, ← htype]
      refine ⟨?chainId, ?type, ?event⟩
      case chainId =>
        by_cases hnoChain : decoded.chainId = ""
        · simp [hnoChain]
        · by_cases hnoType : decoded.type = "" <;> simp [hnoChain, hnoType]
      case type =>
        by_cases hnoChain : decoded.chainId = ""
        · simp [hnoChain]
        · by_cases hnoType : decoded.type = "" <;> simp [hnoChain, hnoType]
      case event =>
        intro hnoChain hnoType
        rw [if_neg hnoChain, if_neg hnoType]
        have hshows := (hshows hnoChain hnoType).withText (some text)
        exact ⟨_, pairs, rfl, rfl, hpairs, hshows, hshows.chainId_iff, fun key => hkeeps key,
          fun key hkey => hkeeps.find?_eq hpairs hkey⟩

/-- A message without a type. -/
def untypedText : String :=
  "\x7b\"chainId\":1,\"type\":null\x7d"

/-- The one message gives an event, and the other names no type. -/
theorem ofPayload_outcome_of_types :
    (∃ e, ofPayload plainText.toUTF8 = .ok e ∧ e.body = plainText) ∧
    ofPayload untypedText.toUTF8 = .error (.missingField "type") := by
  have hplain : ∃ members, IsMessage Literal.Readable plainText members :=
    exists_decode_iff.1 ⟨⟨"1", "", "A", [], none⟩, by cbv⟩
  have huntyped : ∃ members, IsMessage Literal.Readable untypedText members :=
    exists_decode_iff.1 ⟨⟨"1", "", "", [], none⟩, by cbv⟩
  obtain ⟨typed, hscan, hchain, htype⟩ : ∃ ms, scanObject? plainText = some (ms, true) ∧
      (∃ l, occurrences "chainId" ms = [.number l]) ∧
      ∃ u us, occurrences "type" ms = [.string (u :: us)] :=
    ⟨_, by cbv, ⟨_, rfl⟩, _, _, rfl⟩
  obtain ⟨untyped, hscan', hchain', htype'⟩ : ∃ ms, scanObject? untypedText = some (ms, true) ∧
      (∃ l, occurrences "chainId" ms = [.number l]) ∧ occurrences "type" ms = [.null] :=
    ⟨_, by cbv, ⟨_, rfl⟩, rfl⟩
  obtain ⟨members, hmembers⟩ := hplain
  obtain ⟨members', hmembers'⟩ := huntyped
  cases hmembers.document.unique (scanObject?_eq_some_iff.1 hscan)
  cases hmembers'.document.unique (scanObject?_eq_some_iff.1 hscan')
  have hchained : ∀ {ms}, (∃ l, occurrences "chainId" ms = [.number l]) →
      ¬ NoChain Literal.Readable ms := by
    rintro ms ⟨l, hl⟩ hno
    obtain ⟨t', ⟨⟩, hnameless⟩ := hno (.number l) (by simp [hl])
    simp [Nameless] at hnameless
  refine ⟨?event, ?missing⟩
  case event =>
    obtain ⟨e, -, he, hbody, -⟩ := (((ofPayload_outcome _).2 plainText rfl).2.2 _ hmembers).2.2
      (hchained hchain) (by obtain ⟨u, us, h⟩ := htype; simp [NoType, Nameless, h])
    exact ⟨e, he, hbody⟩
  case missing =>
    exact (((ofPayload_outcome _).2 untypedText rfl).2.2 _ hmembers').2.1.2
      ⟨hchained hchain', by simp [NoType, Nameless, htype']⟩

/-! ## Numbers near the greatest double -/

/-- The number that a literal writes. -/
def exactValue (l : Literal) : ℚ :=
  let fraction := l.fraction.getD []
  let power : ℤ := match l.exponent with
    | none => 0
    | some (minus, ds) => if minus then -Text.ofDigits 10 ds else Text.ofDigits 10 ds
  (if l.negative then -1 else 1) * Text.ofDigits 10 (l.whole ++ fraction)
    * 10 ^ (power - fraction.length)

/-- Whether a literal writes a number within the range of doubles, not beyond the greatest. -/
def InRange (l : Literal) : Prop :=
  |exactValue l| ≤ ((2 ^ 53 - 1) * 2 ^ 971 : ℕ)

/-- A literal just below the greatest double, `1.797693134862315708e308`. -/
def largeLiteral : Literal :=
  ⟨false, [1], some [7, 9, 7, 6, 9, 3, 1, 3, 4, 8, 6, 2, 3, 1, 5, 7, 0, 8], some (false, [3, 0, 8])⟩

/-- A message with this number. -/
def largeNumberText : String :=
  "\x7b\"chainId\":\"1\",\"type\":\"SAFE_CREATED\",\"size\":1.797693134862315708e308\x7d"

theorem inRange_largeLiteral : InRange largeLiteral := by
  have hle : 1797693134862315708 * 10 ^ 290 ≤ (2 ^ 53 - 1) * 2 ^ 971 := by decide +kernel
  have hvalue : exactValue largeLiteral = (1797693134862315708 * 10 ^ 290 : ℕ) := by
    norm_num [exactValue, largeLiteral, Text.ofDigits]
  rw [InRange, hvalue, abs_of_nonneg (Nat.cast_nonneg _)]
  exact Nat.cast_le.2 hle

/-- The product of the two roundings is beyond the doubles. -/
theorem not_readable_largeLiteral : ¬ largeLiteral.Readable := by
  have hnone : largeLiteral.number?.isSome = false := by decide +kernel
  exact Bool.eq_false_iff.1 hnone

/-- A literal near the greatest double is read by two roundings, and they can take it beyond:
this one is less than the greatest double, and cannot be read. -/
theorem invalidJson_of_inRange :
    (∃ members, IsMessage InRange largeNumberText members) ∧
    ∃ fault, ofPayload largeNumberText.toUTF8 = .error (.invalidJson fault) := by
  let members : List (List StringUnit × Term) :=
    [("chainId".toList.map .char, .string ("1".toList.map .char)),
      ("type".toList.map .char, .string ("SAFE_CREATED".toList.map .char)),
      ("size".toList.map .char, .number largeLiteral)]
  have hdocument : Document largeNumberText (.object members) :=
    scanObject?_eq_some_iff.1 (by cbv)
  refine ⟨⟨members, hdocument, .object ?keys ?values, ?once, ?chainId, ?plain, ?intact⟩, ?fault⟩
  case keys =>
    have hkeys : ∀ m ∈ members, (textOf? m.1).isSome := by decide
    exact fun m hm => isSome_textOf?_iff.1 (hkeys m hm)
  case values =>
    intro m hm
    simp only [members, List.mem_cons, List.not_mem_nil, or_false] at hm
    rcases hm with rfl | rfl | rfl
    · exact .string _ (isSome_textOf?_iff.1 rfl)
    · exact .string _ (isSome_textOf?_iff.1 rfl)
    · exact .number _ inRange_largeLiteral
  case once => decide
  case chainId =>
    have hchain : occurrences "chainId" members = [.string ("1".toList.map .char)] := rfl
    rw [hchain]
    exact List.forall_mem_singleton.2 ⟨_, .self _, .inr (.inl ⟨_, rfl⟩)⟩
  case plain =>
    have haddress : occurrences "address" members = [] := rfl
    have htype : occurrences "type" members = [.string ("SAFE_CREATED".toList.map .char)] := rfl
    simp [haddress, htype]
  case intact =>
    have hothers : othersOf members = [("size".toList.map .char, .number largeLiteral)] := rfl
    rw [hothers]
    exact List.forall_mem_singleton.2 (.number _)
  case fault =>
    rw [ofPayload_toUTF8]
    cases hdecode : decode largeNumberText with
    | error error =>
      obtain ⟨fault, rfl⟩ := faulty_decode _ error hdecode
      exact ⟨fault, ofText_of_error hdecode⟩
    | ok decoded =>
      obtain ⟨members', hmessage⟩ := exists_decode_iff.1 ⟨decoded, hdecode⟩
      cases hmessage.document.unique hdocument
      have hmember : ("size".toList.map .char, .number largeLiteral) ∈ members := by
        simp [members]
      cases (within_object_iff.1 hmessage.within _ hmember).2 with
      | number _ readable => exact absurd readable not_readable_largeLiteral

end WebhookRelay.Event

-- SUMMARY: Which values are read of the text they are written as.
import WebhookRelay.Proofs.Json.Embedding
import WebhookRelay.Proofs.Json.Members
import WebhookRelay.Proofs.Json.Writing

/-!
# Reading again

A reader looks into embedded texts, and what it makes of them is written without a trace of that.
So not every value that was read is read again of its own text. It may have too many levels, since
an embedded text starts counting anew. And members are written in key order, so an object that had
the marked key in another place may be written as one that embeds a text: then the text is read, or
nothing. Whatever is read, it is not this object (`parse?_ne_marked`), so the values that are read
again are those without either (`read?_term_iff`).
-/

namespace WebhookRelay.Json

/-! ## Values that were read -/

/-- What is read never has a marked key for its only one: the first key of the text would have been
this one. -/
theorem ne_marked_of_read {inner : String → Option Json} {depth : Nat} {w : Json}
    (hinner : ∀ s v, inner s = some v → v ≠ .object [(embeddingKey, w)]) {t : Term} {v : Json}
    (h : t.valueWith? (embedding inner) depth = some v) : v ≠ .object [(embeddingKey, w)] := by
  refine Term.valueWith?_induction (P := fun _ _ v => v ≠ .object [(embeddingKey, w)]) nofun nofun
    nofun nofun nofun ?special ?object h
  case special =>
    intro _ members v hspecial
    obtain ⟨_, _, text, -, -, -, hv⟩ := embedding_eq_some_some_iff.1 hspecial
    exact hinner text v hv
  case object =>
    intro _ members pairs hplain hmembers heq
    have heq : Members.ofList pairs = [(embeddingKey, w)] := Json.object.inj heq
    cases hmembers with
    | nil => cases heq
    | @cons m p members pairs hmp _ =>
      have hfind := Members.find?_ofList p.1 (p :: pairs)
      have hset : (p :: pairs).reverse.lookup p.1 ≠ none := by
        rw [ne_eq, List.lookup_eq_none_iff]
        exact fun hnone => by simpa using hnone p (by simp)
      rw [heq, Members.find?, lookup_cons_eq] at hfind
      split at hfind
      · next hkey =>
        have hmarked : isEmbedding (m :: members) = true := by
          simp [isEmbedding, hmp.1, hkey]
        rw [embedding_eq_none_iff.1 hplain] at hmarked
        cases hmarked
      · exact hset hfind.symm

theorem parse?_ne_marked {text : String} {w : Json} :
    parse? text ≠ some (.object [(embeddingKey, w)]) :=
  fun h => parse?_induction (P := fun _ v => v ≠ .object [(embeddingKey, w)])
    (fun _ _ _ _ hinner _ => ne_marked_of_read hinner) h rfl

/-! ## Reading what was written -/

/-- Whether no object in a value has the marked key for its least one, which is written first. -/
inductive Unmarked : Json → Prop where
  | null : Unmarked .null
  | bool (b : Bool) : Unmarked (.bool b)
  | number (n : Number) : Unmarked (.number n)
  | string (s : String) : Unmarked (.string s)
  | array {items : List Json} (items_unmarked : ∀ v ∈ items, Unmarked v) : Unmarked (.array items)
  | object {members : Members} (least : ∀ m ∈ members.head?, m.1 ≠ embeddingKey)
      (members_unmarked : ∀ m ∈ members, Unmarked m.2) : Unmarked (.object members)

theorem isEmbedding_memberTerms_iff {members : List (String × Json)} :
    isEmbedding (memberTerms members) = false ↔ ∀ m ∈ members.head?, m.1 ≠ embeddingKey := by
  cases members <;> simp [memberTerms, isEmbedding, textOf?_map_char]

theorem Unmarked.term {v : Json} (h : v.Unmarked) : v.term.Unmarked := by
  induction h with
  | null => exact .null
  | bool b => exact .bool b
  | number n => exact .number _
  | string s => exact .string _
  | array _ ih =>
    refine .array fun t ht => ?_
    rw [itemTerms_eq_map] at ht
    obtain ⟨v, hv, rfl⟩ := List.mem_map.1 ht
    exact ih v hv
  | object least _ ih =>
    refine .object (isEmbedding_memberTerms_iff.2 least) fun t ht => ?_
    rw [memberTerms_eq_map] at ht
    obtain ⟨m, hm, rfl⟩ := List.mem_map.1 ht
    exact ih m hm

/-- Members in order that are made of what has their own keys are just that. -/
theorem eq_of_ofList_eq {special : List (List StringUnit × Term) → Option (Option Json)}
    {depth : Nat} {members pairs : List (String × Json)}
    (h : memberValuesWith? special depth (memberTerms members) = some pairs)
    (heq : Members.ofList pairs = members) : pairs = members := by
  have hordered : Members.Ordered members := heq ▸ Members.ordered_ofList pairs
  rw [← heq, Members.ofList_of_ordered]
  rw [Members.Ordered, ← List.pairwise_map] at hordered ⊢
  rwa [map_fst_of_memberTerms h]

/-- A value that is read of its own term has no marked object in it: the text in it would have been
read instead. -/
theorem wellFormed_of_read?_term {depth : Nat} {v : Json} (h : v.term.read? depth = some v) :
    v.WellFormed depth ∧ v.Unmarked := by
  induction v using induction generalizing depth with
  | null => exact ⟨.null _, .null⟩
  | bool b => exact ⟨.bool _ b, .bool b⟩
  | string s => exact ⟨.string _ s, .string s⟩
  | number n =>
    obtain ⟨m, hm, heq⟩ := Option.map_eq_some_iff.1 h
    cases heq
    cases n with
    | integer n =>
      obtain ⟨lower, upper⟩ := Literal.bounds_of_number? hm
      exact ⟨.integer _ lower upper, .number _⟩
    | float x => exact ⟨.float _ x, .number _⟩
  | array items ih =>
    cases depth with
    | zero => cases h
    | succ depth =>
      obtain ⟨vs, hvs, heq⟩ := Option.map_eq_some_iff.1 h
      cases heq
      have hitems := itemValuesWith?_itemTerms_iff.1 hvs
      exact ⟨.array fun v hv => (ih v hv (hitems v hv)).1,
        .array fun v hv => (ih v hv (hitems v hv)).2⟩
  | object members ih =>
    cases depth with
    | zero => cases h
    | succ depth =>
      simp only [Json.term, Term.read?, Term.valueWith?] at h
      split at h
      · next value hspecial =>
        subst h
        obtain ⟨key, units, text, hmembers, hkey, -, hv⟩ :=
          embedding_eq_some_some_iff.1 hspecial
        rw [memberTerms_eq_map, List.map_eq_singleton_iff] at hmembers
        obtain ⟨⟨k, w⟩, rfl, heq⟩ := hmembers
        obtain ⟨rfl, -⟩ := Prod.mk.inj heq
        obtain rfl : k = embeddingKey := Option.some.inj ((textOf?_map_char k).symm.trans hkey)
        exact absurd hv parse?_ne_marked
      · next hplain =>
        obtain ⟨pairs, hpairs, heq⟩ := Option.map_eq_some_iff.1 h
        have heq : Members.ofList pairs = members := Json.object.inj heq
        have hordered : Members.Ordered members := heq ▸ Members.ordered_ofList pairs
        obtain rfl := eq_of_ofList_eq hpairs heq
        have hmembers := memberValuesWith?_memberTerms_iff.1 hpairs
        exact ⟨.object hordered fun m hm => (ih m hm (hmembers m hm)).1,
          .object (isEmbedding_memberTerms_iff.1 (embedding_eq_none_iff.1 hplain))
            fun m hm => (ih m hm (hmembers m hm)).2⟩

/-- A value is read of its own term exactly when it is well formed and no object in it is marked. -/
theorem read?_term_iff {depth : Nat} {v : Json} (hdoubles : ∀ x ∈ v.doubles, ReadsBack x) :
    v.term.read? depth = some v ↔ v.WellFormed depth ∧ v.Unmarked :=
  ⟨wellFormed_of_read?_term, fun ⟨hwellFormed, hunmarked⟩ =>
    (hunmarked.term.read?_eq depth).trans (hwellFormed.value?_term hdoubles)⟩

/-- Members in order are read of their own terms exactly when their values are. -/
theorem exists_memberReadings?_iff {depth : Nat} {members : Members} (h : members.Ordered)
    (hdoubles : ∀ m ∈ members, ∀ x ∈ m.2.doubles, ReadsBack x) :
    (∃ readings, memberReadings? depth (memberTerms members) = some readings ∧
      Members.ofList readings = members) ↔ ∀ m ∈ members, m.2.WellFormed depth ∧ m.2.Unmarked := by
  rw [← forall₂_congr fun m hm => read?_term_iff (hdoubles m hm)]
  constructor
  · rintro ⟨readings, hreadings, heq⟩
    obtain rfl := eq_of_ofList_eq hreadings heq
    exact memberValuesWith?_memberTerms_iff.1 hreadings
  · intro hmembers
    exact ⟨members, memberValuesWith?_memberTerms_iff.2 hmembers, Members.ofList_of_ordered h⟩

end WebhookRelay.Json

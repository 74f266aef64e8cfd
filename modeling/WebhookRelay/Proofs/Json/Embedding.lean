-- SUMMARY: Embedded texts: reading looks into them to any depth, and which terms can be read.
import WebhookRelay.Proofs.Json.Completeness
import WebhookRelay.Proofs.Json.Tokens
import WebhookRelay.Proofs.Json.Within

/-!
# Embedded texts

A reader of values takes what an embedded text writes for the object that embeds it, and looks into
that text in the same way. An embedded text is shorter than the text it stands in, so reading a text
is reading its term (`parse?_eq`), and what a text passes on from the texts in it holds of every
text (`parse?_induction`).

`Term.Intact` says which terms can be read, apart from how that is done: each object that embeds a
text has nothing else in it, and the text can be read itself. A term without such objects is read as
what it says (`Term.Unmarked.read?_eq`).
-/

namespace WebhookRelay.Json

/-! ## Lengths -/

theorem length_le_of_resolveUnits {units : List StringUnit} {cs : List Char}
    (h : resolveUnits units = some cs) : cs.length ≤ units.length := by
  fun_induction resolveUnits units generalizing cs with
  | case1 =>
    cases h
    exact Nat.le_refl _
  | case2 c rest ih =>
    obtain ⟨more, hmore, rfl⟩ := Option.map_eq_some_iff.1 h
    exact Nat.succ_le_succ (ih hmore)
  | case3 high low rest ih =>
    simp only [Option.bind_eq_bind, Option.bind_eq_some_iff] at h
    obtain ⟨c, -, more, hmore, heq⟩ := h
    cases heq
    exact Nat.succ_le_succ (Nat.le_succ_of_le (ih hmore))
  | case4 => cases h

theorem length_le_of_textOf? {units : List StringUnit} {s : String} (h : textOf? units = some s) :
    s.length ≤ units.length := by
  obtain ⟨cs, hcs, rfl⟩ := Option.map_eq_some_iff.1 h
  rw [String.length_ofList]
  exact length_le_of_resolveUnits hcs

theorem WritesString.length_lt {cs rest : List Char} {units : List StringUnit}
    (h : WritesString cs units rest) : units.length < cs.length := by
  induction h with
  | close => simp
  | plain | escape | code => simp only [List.length_cons]; omega

/-! ## Embeddings -/

section

variable {inner inner' : String → Option Json} {members : List (List StringUnit × Term)}

theorem embedding_eq_none_iff : embedding inner members = none ↔ isEmbedding members = false := by
  unfold embedding
  split <;> simp [*]

/-- An object that embeds a text has the text in it and nothing else. -/
theorem embedding_eq_some_some_iff {v : Json} : embedding inner members = some (some v) ↔
    ∃ key units text, members = [(key, .string units)] ∧ textOf? key = some embeddingKey ∧
      textOf? units = some text ∧ inner text = some v := by
  constructor
  · intro h
    unfold embedding at h
    split at h
    · next hmarked =>
      obtain ⟨text, htext, hv⟩ := Option.bind_eq_some_iff.1 (Option.some.inj h)
      unfold embeddedText? at htext
      split at htext
      · next key units =>
        exact ⟨key, units, text, rfl, by simpa [isEmbedding] using hmarked, htext, hv⟩
      · cases htext
    · cases h
  · rintro ⟨key, units, text, rfl, hkey, htext, hv⟩
    simp [embedding, isEmbedding, embeddedText?, hkey, htext, hv]

theorem embedding_congr
    (h : ∀ text, embeddedText? members = some text → inner text = inner' text) :
    embedding inner members = embedding inner' members := by
  unfold embedding
  cases htext : embeddedText? members with
  | none => rfl
  | some text => rw [Option.bind_some, Option.bind_some, h text htext]

end

/-! ## Texts in texts -/

section

variable {inner inner' : String → Option Json}

/-- Whether two ways to take special objects come to the same in a piece. -/
def Piece.Agree (special special' : List (List StringUnit × Term) → Option (Option Json)) :
    Piece → Prop
  | .value t => ∀ depth, t.valueWith? special depth = t.valueWith? special' depth
  | .items ts => ∀ t ∈ ts, ∀ depth, t.valueWith? special depth = t.valueWith? special' depth
  | .members ms => special ms = special' ms ∧
    ∀ m ∈ ms, ∀ depth, m.2.valueWith? special depth = m.2.valueWith? special' depth

/-- Only texts that are shorter than a piece are embedded in it. -/
theorem Tokens.agree {piece : Piece} {tokens : List (List Char)} (h : Tokens piece tokens)
    (hinner : ∀ text : String, text.length < tokens.flatten.length → inner text = inner' text) :
    piece.Agree (embedding inner) (embedding inner') := by
  have hmono : ∀ {part whole : List (List Char)}, part.flatten.length ≤ whole.flatten.length →
      (∀ text : String, text.length < whole.flatten.length → inner text = inner' text) →
      ∀ text : String, text.length < part.flatten.length → inner text = inner' text :=
    fun hle hwhole text htext => hwhole text (Nat.lt_of_lt_of_le htext hle)
  induction h with
  | null | boolTrue | boolFalse | number | string => exact fun depth => rfl
  | emptyArray | emptyObject =>
    rintro (_ | depth) <;> rfl
  | array items ih =>
    have hitems := ih (hmono (by simp) hinner)
    rintro (_ | depth)
    · rfl
    · simp only [Term.valueWith?, itemValuesWith?_congr fun t ht => hitems t ht depth]
  | object members ih =>
    obtain ⟨hspecial, hmembers⟩ := ih (hmono (by simp) hinner)
    rintro (_ | depth)
    · rfl
    · simp only [Term.valueWith?, hspecial, memberValuesWith?_congr fun m hm => hmembers m hm depth]
  | lastItem item ih => exact List.forall_mem_singleton.2 (ih (hmono (by simp) hinner))
  | item item items ih ihitems =>
    exact List.forall_mem_cons.2
      ⟨ih (hmono (by simp) hinner), ihitems (hmono (by simp; omega) hinner)⟩
  | lastMember name value ih =>
    refine ⟨embedding_congr fun text htext => ?_,
      List.forall_mem_singleton.2 (ih (hmono (by simp; omega) hinner))⟩
    -- The text is that of the member, which is a token of its own.
    cases value with
    | @string chars units string =>
      have hunits := (string []).length_lt
      have hle := length_le_of_textOf? htext
      refine hinner text ?_
      simp at hunits ⊢
      omega
    | _ => cases htext
  | member name value members ih ihmembers =>
    refine ⟨embedding_congr fun text htext => ?_, List.forall_mem_cons.2
      ⟨ih (hmono (by simp; omega) hinner), (ihmembers (hmono (by simp; omega) hinner)).2⟩⟩
    cases members <;> simp [embeddedText?] at htext

end

theorem Blanks.length_le {cs rest : List Char} (h : Blanks cs rest) : rest.length ≤ cs.length := by
  induction h with
  | nil => exact Nat.le_refl _
  | cons blank more ih => exact Nat.le_succ_of_le ih

theorem length_flatten_le_of_spaced {cs rest : List Char} {tokens : List (List Char)}
    (h : Spaced cs tokens rest) : tokens.flatten.length ≤ cs.length := by
  induction h with
  | nil => simp
  | cons before more ih =>
    have hle := before.length_le
    simp only [List.length_append, List.flatten_cons] at hle ⊢
    omega

/-- Texts that are shorter than a text settle what is read of it. -/
theorem Document.valueWith?_congr {text : String} {t : Term} (h : Document text t)
    {inner inner' : String → Option Json}
    (hinner : ∀ s : String, s.length < text.length → inner s = inner' s) (depth : Nat) :
    t.valueWith? (embedding inner) depth = t.valueWith? (embedding inner') depth := by
  obtain ⟨value, behind, before, hvalue, -⟩ := h
  obtain ⟨tokens, htokens, hspaced⟩ := hvalue.exists_tokens
  have hle := Nat.le_trans (length_flatten_le_of_spaced hspaced) before.length_le
  exact htokens.agree (fun s hs => hinner s (Nat.lt_of_lt_of_le hs hle)) depth

/-! ## Reading texts -/

theorem termOf?_eq_none_of_length_eq_zero {text : String} (h : text.length = 0) :
    termOf? text = none := by
  obtain rfl : text = "" := String.length_eq_zero_iff.1 h
  rfl

/-- As many levels as a text has characters are enough for the texts in it. -/
theorem parseWithin?_eq_of_le {text : String} {m n : Nat} (hm : text.length ≤ m)
    (hn : text.length ≤ n) : parseWithin? m text = parseWithin? n text := by
  induction m generalizing text n with
  | zero =>
    have hnone := termOf?_eq_none_of_length_eq_zero (Nat.le_zero.1 hm)
    cases n with
    | zero => rfl
    | succ n => simp [parseWithin?, hnone]
  | succ m ih =>
    cases n with
    | zero =>
      have hnone := termOf?_eq_none_of_length_eq_zero (Nat.le_zero.1 hn)
      simp [parseWithin?, hnone]
    | succ n =>
      simp only [parseWithin?]
      cases ht : termOf? text with
      | none => rfl
      | some t =>
        exact (termOf?_eq_some_iff.1 ht).valueWith?_congr
          (fun s hs => ih (by omega) (by omega)) maxDepth

/-- A text is read by reading its term. -/
theorem parse?_eq (text : String) : parse? text = (termOf? text).bind (Term.read? maxDepth) := by
  rw [parse?, parseWithin?_eq_of_le (n := text.length + 1) (Nat.le_refl _) (Nat.le_succ _),
    parseWithin?]
  cases ht : termOf? text with
  | none => rfl
  | some t =>
    exact (termOf?_eq_some_iff.1 ht).valueWith?_congr
      (fun s hs => parseWithin?_eq_of_le (Nat.le_of_lt hs) (Nat.le_refl _)) maxDepth

/-- What a text passes on from the texts that are embedded in it holds of every text. -/
theorem parse?_induction {P : String → Json → Prop}
    (step : ∀ inner text t v, (∀ s w, inner s = some w → P s w) → Document text t →
      t.valueWith? (embedding inner) maxDepth = some v → P text v) {text : String} {v : Json}
    (h : parse? text = some v) : P text v := by
  rw [parse?] at h
  generalize text.length = fuel at h
  induction fuel generalizing text v with
  | zero => cases h
  | succ fuel ih =>
    obtain ⟨t, ht, hv⟩ := Option.bind_eq_some_iff.1 h
    exact step _ text t v (fun s w => ih) (termOf?_eq_some_iff.1 ht) hv

theorem parse?_of_document {text : String} {t : Term} (h : Document text t) :
    parse? text = t.read? maxDepth := by
  rw [parse?_eq, termOf?_eq_some_iff.2 h, Option.bind_some]

/-- An object that embeds a text is read as the text is. -/
theorem Term.read?_embedding {depth : Nat} {key units : List StringUnit} {text : String} {t : Term}
    (marked : textOf? key = some embeddingKey) (string : textOf? units = some text)
    (document : Document text t) :
    (Term.object [(key, .string units)]).read? (depth + 1) = t.read? maxDepth := by
  have hspecial : Json.embedding parse? [(key, .string units)] = some (parse? text) := by
    simp [Json.embedding, isEmbedding, embeddedText?, marked, string]
  simp only [read?, valueWith?, hspecial]
  exact parse?_of_document document

/-! ## Terms that can be read -/

/-- Whether the texts that are embedded in a term can be read: an object that embeds one has nothing
else in it, and the term of the text is within bounds, as far as numbers of a kind can be read, and
intact itself. -/
inductive Term.Intact (readable : Literal → Prop) : Term → Prop where
  | null : Intact readable .null
  | bool (b : Bool) : Intact readable (.bool b)
  | number (l : Literal) : Intact readable (.number l)
  | string (units : List StringUnit) : Intact readable (.string units)
  | array {items : List Term} (items_intact : ∀ t ∈ items, Intact readable t) :
      Intact readable (.array items)
  | object {members : List (List StringUnit × Term)} (plain : isEmbedding members = false)
      (members_intact : ∀ m ∈ members, Intact readable m.2) : Intact readable (.object members)
  | embedding {key units : List StringUnit} {text : String} {t : Term}
      (marked : textOf? key = some embeddingKey) (string : textOf? units = some text)
      (document : Document text t) (within : t.Within readable maxDepth)
      (intact : Intact readable t) : Intact readable (.object [(key, .string units)])

/-- Whether a term stands for another: it is this term, or it embeds a text within bounds, and the
term of the text stands for it. -/
inductive Term.StandsFor (readable : Literal → Prop) : Term → Term → Prop where
  | self (t : Term) : StandsFor readable t t
  | embedding {key units : List StringUnit} {text : String} {t t' : Term}
      (marked : textOf? key = some embeddingKey) (string : textOf? units = some text)
      (document : Document text t) (within : t.Within readable maxDepth)
      (stands : StandsFor readable t t') : StandsFor readable (.object [(key, .string units)]) t'

theorem Term.within_of_read {inner : String → Option Json} {depth : Nat} {t : Term} {v : Json}
    (h : t.valueWith? (Json.embedding inner) depth = some v) :
    t.Within Literal.Readable depth := by
  refine within_of_valueWith? (fun depth members v hspecial => ?_) h
  obtain ⟨key, units, text, rfl, hkey, htext, -⟩ := embedding_eq_some_some_iff.1 hspecial
  refine within_object_iff.2 (List.forall_mem_singleton.2 ⟨?_, .string depth ?_⟩)
  · exact isSome_textOf?_iff.1 (Option.isSome_of_eq_some hkey)
  · exact isSome_textOf?_iff.1 (Option.isSome_of_eq_some htext)

/-- A term that is read is intact, when the texts in it that are read are. -/
theorem Term.intact_of_read {inner : String → Option Json} {depth : Nat}
    (hinner : ∀ s w, inner s = some w → ∃ t, Document s t ∧
      t.Within Literal.Readable maxDepth ∧ t.Intact Literal.Readable) {t : Term} {v : Json}
    (h : t.valueWith? (Json.embedding inner) depth = some v) : t.Intact Literal.Readable := by
  refine valueWith?_induction (P := fun _ t _ => t.Intact Literal.Readable) (fun _ => .null)
    (fun _ => .bool) (fun _ l _ _ => .number l) (fun _ units _ _ => .string units) ?array ?special
    ?object h
  case array =>
    intro _ items vs hitems
    refine .array fun t ht => ?_
    obtain ⟨_, -, hintact⟩ := exists_of_forall₂ hitems ht
    exact hintact
  case special =>
    intro _ members v hspecial
    obtain ⟨key, units, text, rfl, hkey, htext, hv⟩ := embedding_eq_some_some_iff.1 hspecial
    obtain ⟨t, hdocument, hwithin, hintact⟩ := hinner text v hv
    exact .embedding hkey htext hdocument hwithin hintact
  case object =>
    intro _ members pairs hplain hmembers
    refine .object (embedding_eq_none_iff.1 hplain) fun m hm => ?_
    obtain ⟨_, -, -, hintact⟩ := exists_of_forall₂ hmembers hm
    exact hintact

theorem exists_document_of_parse? {text : String} {v : Json} (h : parse? text = some v) :
    ∃ t, Document text t ∧ t.Within Literal.Readable maxDepth ∧ t.Intact Literal.Readable :=
  parse?_induction (P := fun text _ => ∃ t, Document text t ∧ t.Within Literal.Readable maxDepth ∧
    t.Intact Literal.Readable) (fun _ _ t _ hinner hdocument hv =>
      ⟨t, hdocument, Term.within_of_read hv, Term.intact_of_read hinner hv⟩) h

/-- A term is read when it is within bounds and intact. -/
theorem isSome_read?_iff {depth : Nat} {t : Term} : (t.read? depth).isSome ↔
    t.Within Literal.Readable depth ∧ t.Intact Literal.Readable := by
  constructor
  · intro h
    obtain ⟨v, hv⟩ := Option.isSome_iff_exists.1 h
    exact ⟨Term.within_of_read hv, Term.intact_of_read (fun s w => exists_document_of_parse?) hv⟩
  · rintro ⟨hwithin, hintact⟩
    induction hintact generalizing depth with
    | null | bool => rfl
    | number | string => exact isSome_value?_iff.2 hwithin
    | array _ ih =>
      obtain ⟨depth, rfl⟩ : ∃ d, depth = d + 1 := by cases hwithin; exact ⟨_, rfl⟩
      exact Option.isSome_map.trans (isSome_itemValuesWith?_iff.2 fun t ht =>
        ih t ht (within_array_iff.1 hwithin t ht))
    | object plain _ ih =>
      obtain ⟨depth, rfl⟩ := hwithin.exists_succ
      simp only [Term.read?, Term.valueWith?, embedding_eq_none_iff.2 plain, Option.isSome_map]
      refine isSome_memberValuesWith?_iff.2 fun m hm => ?_
      obtain ⟨hkey, hmember⟩ := within_object_iff.1 hwithin m hm
      exact ⟨isSome_textOf?_iff.2 hkey, ih m hm hmember⟩
    | embedding marked string document within _ ih =>
      obtain ⟨depth, rfl⟩ := hwithin.exists_succ
      rw [Term.read?_embedding marked string document]
      exact ih within

/-! ## Terms without embedded texts -/

/-- Whether no object in a term embeds a text. -/
inductive Term.Unmarked : Term → Prop where
  | null : Unmarked .null
  | bool (b : Bool) : Unmarked (.bool b)
  | number (l : Literal) : Unmarked (.number l)
  | string (units : List StringUnit) : Unmarked (.string units)
  | array {items : List Term} (items_unmarked : ∀ t ∈ items, Unmarked t) :
      Unmarked (.array items)
  | object {members : List (List StringUnit × Term)} (plain : isEmbedding members = false)
      (members_unmarked : ∀ m ∈ members, Unmarked m.2) : Unmarked (.object members)

/-- Such a term is read as what it says. -/
theorem Term.Unmarked.read?_eq {t : Term} (h : t.Unmarked) (depth : Nat) :
    t.read? depth = t.value? depth := by
  induction h generalizing depth with
  | null | bool | number | string => rfl
  | array _ ih =>
    cases depth with
    | zero => rfl
    | succ depth =>
      exact congrArg (Option.map Json.array) (itemValuesWith?_congr fun t ht => ih t ht depth)
  | object plain _ ih =>
    cases depth with
    | zero => rfl
    | succ depth =>
      simp only [read?, value?, valueWith?, embedding_eq_none_iff.2 plain, nothingSpecial,
        memberValuesWith?_congr fun m hm => ih m hm depth]

/-- It is intact, and stands for nothing but itself. -/
theorem Term.Unmarked.intact {readable : Literal → Prop} {t : Term} (h : t.Unmarked) :
    t.Intact readable := by
  induction h with
  | null => exact .null
  | bool b => exact .bool b
  | number l => exact .number l
  | string units => exact .string units
  | array _ ih => exact .array ih
  | object plain _ ih => exact .object plain ih

theorem Term.Unmarked.standsFor_iff {readable : Literal → Prop} {t t' : Term} (h : t.Unmarked) :
    t.StandsFor readable t' ↔ t' = t := by
  constructor
  · rintro (_ | ⟨marked, _, _, _, _⟩)
    · rfl
    · cases h with
      | object plain _ => simp [isEmbedding, marked] at plain
  · rintro rfl
    exact .self _

end WebhookRelay.Json

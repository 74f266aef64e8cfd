-- SUMMARY: The written text of a value is one that the grammar gives, and it stands for that value.
import WebhookRelay.Json.Record
import WebhookRelay.Proofs.Json.Front
import WebhookRelay.Proofs.Json.Integer
import WebhookRelay.Proofs.Json.Order
import WebhookRelay.Proofs.Json.Values
import WebhookRelay.Proofs.Text.Hexadecimal

/-!
# Written values

What is written for a value can be read: it is the text of a term of its own (`stands_term`), and
the value is that of the term (`WellFormed.value?_term`). Of the value this asks for integers of 64
bits, members in key order, and no more nesting than is read. Of each double in it this asks that
its own text is read as that double, which the two roundings of the reader do not promise for all of
them.
-/

namespace WebhookRelay.Json

/-- Whether a value has integers of 64 bits only, all members in key order, and at most `depth`
levels of arrays and objects. -/
inductive WellFormed : Nat → Json → Prop where
  | null (depth : Nat) : WellFormed depth .null
  | bool (depth : Nat) (b : Bool) : WellFormed depth (.bool b)
  | integer (depth : Nat) {n : Int} (lower : -2 ^ 63 ≤ n) (upper : n < 2 ^ 64) :
      WellFormed depth (.number (.integer n))
  | float (depth : Nat) (x : Float) : WellFormed depth (.number (.float x))
  | string (depth : Nat) (s : String) : WellFormed depth (.string s)
  | array {depth : Nat} {items : List Json} (items_wellFormed : ∀ v ∈ items, WellFormed depth v) :
      WellFormed (depth + 1) (.array items)
  | object {depth : Nat} {members : Members} (ordered : members.Ordered)
      (members_wellFormed : ∀ m ∈ members, WellFormed depth m.2) :
      WellFormed (depth + 1) (.object members)

/-- Whether the text that is written for a double is read as that double. -/
def ReadsBack (x : Float) : Prop :=
  ∃ l, readLiteral (Number.float x).text.toList = some (l, []) ∧ l.number? = some (.float x)

theorem readsBack_half : ReadsBack 0.5 :=
  ⟨⟨false, [0], some [5], none⟩, by decide +kernel, by decide +kernel⟩

/-- Not every double is read back: the text of this one is read as a neighbour of it. -/
theorem not_readsBack : ¬ ReadsBack 0.0012648183688864143 := by
  rintro ⟨l, hread, hnumber⟩
  have hliteral : readLiteral (Number.float 0.0012648183688864143).text.toList
      = some (⟨false, [0], some [0, 0, 1, 2, 6, 4, 8, 1, 8, 3, 6, 8, 8, 8, 6, 4, 1, 4, 3], none⟩,
        []) := by
    decide +kernel
  cases hliteral.symm.trans hread
  revert hnumber
  decide +kernel

mutual

/-- The doubles in a value. -/
def doubles : Json → List Float
  | .number (.float x) => [x]
  | .array items => itemDoubles items
  | .object members => memberDoubles members
  | _ => []

/-- The doubles in a list of values. -/
def itemDoubles : List Json → List Float
  | [] => []
  | v :: vs => v.doubles ++ itemDoubles vs

/-- The doubles in the values of members. -/
def memberDoubles : List (String × Json) → List Float
  | [] => []
  | (_, v) :: ms => v.doubles ++ memberDoubles ms

end

theorem mem_itemDoubles_iff {x : Float} {items : List Json} :
    x ∈ itemDoubles items ↔ ∃ v ∈ items, x ∈ v.doubles := by
  induction items with
  | nil => simp [itemDoubles]
  | cons v items ih => simp [itemDoubles, ih]

theorem mem_memberDoubles_iff {x : Float} {members : List (String × Json)} :
    x ∈ memberDoubles members ↔ ∃ m ∈ members, x ∈ m.2.doubles := by
  induction members with
  | nil => simp [memberDoubles]
  | cons m members ih => simp [memberDoubles, ih]

/-! ## Strings -/

theorem unitOfCode_toNat {c : Char} (h : c.toNat < 0x20) : unitOfCode c.toNat = .char c := by
  rw [unitOfCode, if_neg (by omega), Char.ofNat_toNat]

/-- A character is escaped so that it is read as itself. -/
theorem WritesString.escape_append {cs rest : List Char} {units : List StringUnit}
    (h : WritesString cs units rest) (c : Char) :
    WritesString (Json.escape c ++ cs) (.char c :: units) rest := by
  unfold Json.escape
  split_ifs with hquote hbackslash hb hf hn hr ht hcontrol
  · subst hquote
    exact .escape rfl h
  · subst hbackslash
    exact .escape rfl h
  · subst hb
    exact .escape rfl h
  · subst hf
    exact .escape rfl h
  · subst hn
    exact .escape rfl h
  · subst hr
    exact .escape rfl h
  · subst ht
    exact .escape rfl h
  · rw [← unitOfCode_toNat hcontrol]
    have hcode : Text.natOfDigits? 16 (Text.hexDigits 4 c.toNat) = some c.toNat :=
      Text.natOfDigits?_hexDigits (by decide) (by omega)
    exact .code hcode h
  · exact .plain ⟨hquote, hbackslash, Nat.not_lt.1 hcontrol⟩ h

theorem writesString_escape (cs rest : List Char) :
    WritesString (cs.flatMap escape ++ '"' :: rest) (cs.map .char) rest := by
  induction cs with
  | nil => exact .close rest
  | cons c cs ih =>
    rw [List.flatMap_cons, List.append_assoc]
    exact ih.escape_append c

theorem quote_append (s : String) (rest : List Char) :
    quote s ++ rest = '"' :: (s.toList.flatMap escape ++ '"' :: rest) := by
  simp [quote]

theorem textOf?_map_char (s : String) : textOf? (s.toList.map .char) = some s := by
  rw [textOf?, resolveUnits_map_char, Option.map_some, String.ofList_toList]

/-! ## Numbers -/

/-- The literal that an integer is written as. -/
def Literal.ofInt (n : Int) : Literal :=
  ⟨decide (n < 0), Text.numeral n.natAbs, none, none⟩

theorem writesDigits_toDigits (n : Nat) :
    WritesDigits (Nat.toDigits 10 n) (Text.numeral n) [] := by
  have hspan : Text.spanDecimal (Nat.toDigits 10 n ++ []) = (Text.numeral n, []) :=
    Text.spanDecimal_toDigits_append n (by simp)
  rw [List.append_nil] at hspan
  exact writesDigits_of_spanDecimal hspan (Text.numeral_ne_nil n)

theorem Literal.isInteger_ofInt (n : Int) :
    (ofInt n).IsInteger (Number.integer n).text.toList := by
  refine ⟨?_, rfl, rfl⟩
  have hdigits := writesDigits_toDigits n.natAbs
  have hzero : ∀ ds, Text.numeral n.natAbs = 0 :: ds → ds = [] :=
    fun _ => Text.eq_nil_of_numeral_eq_zero_cons
  rw [Number.toList_text_integer, ofInt]
  by_cases hn : n < 0
  · rw [if_pos hn, decide_eq_true hn]
    exact .mk (.minus _) hdigits hzero (.absent []) (.absent [])
  · rw [if_neg hn, decide_eq_false hn]
    exact .mk (.absent _) hdigits hzero (.absent []) (.absent [])

theorem Literal.integer_ofInt (n : Int) : (ofInt n).integer = n := by
  simp only [integer, ofInt, Text.ofDigits_numeral, decide_eq_true_eq]
  split <;> omega

theorem Literal.number?_ofInt {n : Int} (lower : -2 ^ 63 ≤ n) (upper : n < 2 ^ 64) :
    (ofInt n).number? = some (.integer n) := by
  have hfits : (ofInt n).Fits := by
    refine ⟨by rwa [integer_ofInt], by rwa [integer_ofInt], ?_⟩
    rw [integer_ofInt]
    rintro ⟨hneg, rfl⟩
    cases hneg
  obtain ⟨-, hnumber⟩ | ⟨hnot, -⟩ := (isInteger_ofInt n).number?_cases
  · rwa [integer_ofInt] at hnumber
  · exact absurd hfits hnot

/-- The literal that a number is written as. -/
def Number.literal : Number → Literal
  | .integer n => .ofInt n
  | .float x => (readLiteral (Number.float x).text.toList).elim (.ofInt 0) (·.1)

theorem ReadsBack.literal {x : Float} (h : ReadsBack x) :
    readLiteral (Number.float x).text.toList = some ((Number.float x).literal, []) ∧
      (Number.float x).literal.number? = some (.float x) := by
  obtain ⟨l, hread, hnumber⟩ := h
  have hl : (Number.float x).literal = l := by
    rw [Number.literal, hread]
    rfl
  exact hl ▸ ⟨hread, hnumber⟩

theorem Literal.bounds_of_number? {l : Literal} {n : Int} (h : l.number? = some (.integer n)) :
    -2 ^ 63 ≤ n ∧ n < 2 ^ 64 := by
  have hfloat : ∀ {f : Float → Float} {x? : Option Float},
      x?.map (fun x => Number.float (f x)) ≠ some (.integer n) := by
    intro f x? h
    obtain ⟨x, -, hx⟩ := Option.map_eq_some_iff.1 h
    cases hx
  unfold number? at h
  simp only [significandMax] at h
  split_ifs at h
  · exact absurd h hfloat
  · exact absurd h hfloat
  · cases h
    omega
  · exact absurd h hfloat
  · cases h
    omega
  · exact absurd h hfloat

/-! ## The term of a value -/

mutual

/-- The term that a value is written as. -/
def term : Json → Term
  | .null => .null
  | .bool b => .bool b
  | .number n => .number n.literal
  | .string s => .string (s.toList.map .char)
  | .array items => .array (itemTerms items)
  | .object members => .object (memberTerms members)

/-- The terms that items are written as. -/
def itemTerms : List Json → List Term
  | [] => []
  | v :: vs => v.term :: itemTerms vs

/-- The keys and terms that members are written as. -/
def memberTerms : List (String × Json) → List (List StringUnit × Term)
  | [] => []
  | (k, v) :: ms => (k.toList.map .char, v.term) :: memberTerms ms

end

theorem itemTerms_eq_map (items : List Json) : itemTerms items = items.map term := by
  induction items with
  | nil => rfl
  | cons v items ih => rw [itemTerms, ih, List.map_cons]

theorem memberTerms_eq_map (members : List (String × Json)) :
    memberTerms members = members.map fun m => (m.1.toList.map .char, m.2.term) := by
  induction members with
  | nil => rfl
  | cons m members ih =>
    obtain ⟨k, v⟩ := m
    rw [memberTerms, ih, List.map_cons]

/-- What holds of an array and of an object when it holds of what is in them holds of every
value. -/
@[elab_as_elim]
theorem induction {P : Json → Prop} (null : P .null) (bool : ∀ b, P (.bool b))
    (number : ∀ n, P (.number n)) (string : ∀ s, P (.string s))
    (array : ∀ items, (∀ v ∈ items, P v) → P (.array items))
    (object : ∀ members, (∀ m ∈ members, P m.2) → P (.object members)) (v : Json) : P v := by
  refine (term.mutual_induct P (fun members => ∀ m ∈ members, P m.2)
    (fun items => ∀ v ∈ items, P v) null bool number string array object nofun ?_ nofun ?_).1 v
  · exact fun v vs ihv ihvs => List.forall_mem_cons.2 ⟨ihv, ihvs⟩
  · exact fun k v ms ihv ihms => List.forall_mem_cons.2 ⟨ihv, ihms⟩

theorem stands_itemTerms {items : List Json} (hne : items ≠ [])
    (h : ∀ v ∈ items, Stands Writes v.chars (.value v.term)) :
    Stands Writes (itemChars items ++ [']']) (.items (itemTerms items)) := by
  induction items with
  | nil => exact absurd rfl hne
  | cons v vs ih =>
    intro rest
    obtain ⟨hv, hvs⟩ := List.forall_mem_cons.1 h
    cases vs with
    | nil =>
      rw [itemChars, List.append_assoc]
      exact .lastItem (.nil _) (hv _) (.nil _)
    | cons w ws =>
      have htail := ih (List.cons_ne_nil _ _) hvs rest
      rw [itemChars, List.append_assoc, List.append_assoc]
      exact .item (.nil _) (hv _) (.nil _) (by simpa using htail)
      nofun

theorem stands_memberTerms {members : List (String × Json)} (hne : members ≠ [])
    (h : ∀ m ∈ members, Stands Writes m.2.chars (.value m.2.term)) :
    Stands Writes (memberChars members ++ ['\x7d']) (.members (memberTerms members)) := by
  induction members with
  | nil => exact absurd rfl hne
  | cons m members ih =>
    intro rest
    obtain ⟨k, v⟩ := m
    obtain ⟨hv, hmembers⟩ := List.forall_mem_cons.1 h
    have hkey := writesString_escape k.toList
    cases members with
    | nil =>
      simp only [memberChars, List.append_assoc, List.cons_append, quote_append]
      exact .lastMember (.nil _) (hkey _) (.nil _) (.nil _) (hv _) (.nil _)
    | cons m' members =>
      have htail := ih (List.cons_ne_nil _ _) hmembers rest
      simp only [memberChars, List.append_assoc, List.cons_append, quote_append]
      exact .member (.nil _) (hkey _) (.nil _) (.nil _) (hv _) (.nil _) (by simpa using htail)

/-- The text of a value writes the term of the value. -/
theorem stands_term (v : Json) (hdoubles : ∀ x ∈ v.doubles, ReadsBack x) :
    Stands Writes v.chars (.value v.term) := by
  induction v using induction with
  | null => exact .null
  | bool b =>
    cases b with
    | true => exact .boolTrue
    | false => exact .boolFalse
  | number n =>
    intro rest
    cases n with
    | integer n => exact .number ((Literal.isInteger_ofInt n).writes.stands rest)
    | float x =>
      obtain ⟨hread, -⟩ := (hdoubles x List.mem_cons_self).literal
      exact .number ((writesNumber_of_readLiteral hread).stands rest)
  | string s =>
    intro rest
    rw [chars, quote_append]
    exact .string (writesString_escape s.toList rest)
  | array items ih =>
    -- Brackets with nothing between them are a rule of their own in the grammar.
    intro rest
    by_cases hne : items = []
    · subst hne
      exact .emptyArray (.nil _)
    · refine .array (stands_itemTerms hne (fun v hv => ih v hv fun x hx => ?_) rest)
      exact hdoubles x (mem_itemDoubles_iff.2 ⟨v, hv, hx⟩)
  | object members ih =>
    intro rest
    by_cases hne : members = []
    · subst hne
      exact .emptyObject (.nil _)
    · refine .object (stands_memberTerms hne (fun m hm => ih m hm fun x hx => ?_) rest)
      exact hdoubles x (mem_memberDoubles_iff.2 ⟨m, hm, hx⟩)

/-- The text of a record writes an object with the terms of its fields. -/
theorem document_recordText {fields : List (String × Json)} (hne : fields ≠ [])
    (hdoubles : ∀ f ∈ fields, ∀ x ∈ f.2.doubles, ReadsBack x) :
    Document (recordText fields) (.object (memberTerms fields)) := by
  have hobject := stands_memberTerms hne (fun f hf => stands_term f.2 (hdoubles f hf)) []
  rw [List.append_nil] at hobject
  refine ⟨_, [], .nil _, ?_, .nil []⟩
  rw [recordText, String.toList_ofList]
  exact .object hobject

/-! ## The value of the term -/

theorem forall₂_map_self_iff {α β : Type} {f : α → β} {r : β → α → Prop} {xs : List α} :
    List.Forall₂ r (xs.map f) xs ↔ ∀ x ∈ xs, r (f x) x := by
  rw [List.forall₂_map_left_iff, List.forall₂_same]

section

variable {special : List (List StringUnit × Term) → Option (Option Json)} {depth : Nat}

theorem itemValuesWith?_itemTerms_iff {items : List Json} :
    itemValuesWith? special depth (itemTerms items) = some items ↔
      ∀ v ∈ items, v.term.valueWith? special depth = some v := by
  rw [itemTerms_eq_map, itemValuesWith?_eq_some_iff, forall₂_map_self_iff]

theorem memberValuesWith?_memberTerms_iff {members : List (String × Json)} :
    memberValuesWith? special depth (memberTerms members) = some members ↔
      ∀ m ∈ members, m.2.term.valueWith? special depth = some m.2 := by
  rw [memberTerms_eq_map, memberValuesWith?_eq_some_iff, forall₂_map_self_iff]
  simp [textOf?_map_char]

/-- What has the keys of members in order has them in order. -/
theorem map_fst_of_memberTerms {members pairs : List (String × Json)}
    (h : memberValuesWith? special depth (memberTerms members) = some pairs) :
    pairs.map (·.1) = members.map (·.1) := by
  have hkeys := map_textOf?_eq h
  rw [memberTerms_eq_map, List.map_map] at hkeys
  refine (List.map_injective_iff.2 (Option.some_injective _)) ?_
  rw [← hkeys, List.map_map]
  exact List.map_congr_left fun m _ => textOf?_map_char m.1

end

/-- A value that is well formed is the value of its term. -/
theorem WellFormed.value?_term {depth : Nat} {v : Json} (h : v.WellFormed depth)
    (hdoubles : ∀ x ∈ v.doubles, ReadsBack x) : v.term.value? depth = some v := by
  induction h with
  | null | bool => rfl
  | integer depth lower upper =>
    exact congrArg (Option.map Json.number) (Literal.number?_ofInt lower upper)
  | float depth x =>
    exact congrArg (Option.map Json.number) (hdoubles x List.mem_cons_self).literal.2
  | string depth s => exact congrArg (Option.map Json.string) (textOf?_map_char s)
  | array _ ih =>
    refine congrArg (Option.map Json.array) (itemValuesWith?_itemTerms_iff.2 fun v hv => ?_)
    exact ih v hv fun x hx => hdoubles x (mem_itemDoubles_iff.2 ⟨v, hv, hx⟩)
  | @object depth members ordered _ ih =>
    have hmembers : memberValues? depth (memberTerms members) = some members :=
      memberValuesWith?_memberTerms_iff.2 fun m hm =>
        ih m hm fun x hx => hdoubles x (mem_memberDoubles_iff.2 ⟨m, hm, hx⟩)
    have hvalue : (Json.object members).term.value? (depth + 1)
        = (memberValues? depth (memberTerms members)).map
          fun ms => .object (Members.ofList ms) := rfl
    rw [hvalue, hmembers, Option.map_some, Members.ofList_of_ordered ordered]

theorem memberValues?_memberTerms {depth : Nat} {members : List (String × Json)}
    (h : ∀ m ∈ members, m.2.WellFormed depth)
    (hdoubles : ∀ m ∈ members, ∀ x ∈ m.2.doubles, ReadsBack x) :
    memberValues? depth (memberTerms members) = some members :=
  memberValuesWith?_memberTerms_iff.2 fun m hm => (h m hm).value?_term (hdoubles m hm)

end WebhookRelay.Json

-- SUMMARY: Which terms have a value: bounded nesting, numbers that can be read, and no surrogate alone.
import WebhookRelay.Proofs.Json.Values

/-!
# Terms with a value

The grammar lets more through than has a value. `Term.Within` says what a term must be for
that, apart from how the value is computed: arrays and objects are nested no deeper than
allowed, every number is of a kind that can be read, and in every string, the keys included,
surrogates come in pairs.
-/

namespace WebhookRelay.Json

/-- Whether surrogates come in pairs, a high one before a low one. -/
inductive Paired : List StringUnit → Prop where
  | nil : Paired []
  | char (c : Char) {rest : List StringUnit} (more : Paired rest) : Paired (.char c :: rest)
  | pair {high low : Nat} {rest : List StringUnit} (high_bounds : 0xD800 ≤ high ∧ high < 0xDC00)
      (low_bounds : 0xDC00 ≤ low ∧ low < 0xE000) (more : Paired rest) :
      Paired (.surrogate high :: .surrogate low :: rest)

/-- Whether a term is nested to some depth at most, with all its numbers of a kind and no
surrogate alone. -/
inductive Term.Within (readable : Literal → Prop) : Nat → Term → Prop where
  | null (depth : Nat) : Within readable depth .null
  | bool (depth : Nat) (b : Bool) : Within readable depth (.bool b)
  | number (depth : Nat) {l : Literal} (number : readable l) : Within readable depth (.number l)
  | string (depth : Nat) {units : List StringUnit} (paired : Paired units) :
      Within readable depth (.string units)
  | array {depth : Nat} {items : List Term} (items_within : ∀ t ∈ items, Within readable depth t) :
      Within readable (depth + 1) (.array items)
  | object {depth : Nat} {members : List (List StringUnit × Term)}
      (keys_paired : ∀ m ∈ members, Paired m.1)
      (members_within : ∀ m ∈ members, Within readable depth m.2) :
      Within readable (depth + 1) (.object members)

/-- Whether a literal can be read: as an integer of 64 bits or as a finite double. -/
def Literal.Readable (l : Literal) : Prop :=
  l.number?.isSome

/-! ## Strings -/

theorem isSome_joinSurrogates?_iff {high low : Nat} : (joinSurrogates? high low).isSome ↔
    (0xD800 ≤ high ∧ high < 0xDC00) ∧ 0xDC00 ≤ low ∧ low < 0xE000 := by
  rw [joinSurrogates?, and_assoc]
  split <;> simp [*]

theorem isSome_resolveUnits_iff {units : List StringUnit} :
    (resolveUnits units).isSome ↔ Paired units := by
  fun_induction resolveUnits units with
  | case1 => exact iff_of_true rfl .nil
  | case2 c rest ih =>
    rw [Option.isSome_map, ih]
    exact ⟨.char c, fun h => by cases h; assumption⟩
  | case3 high low rest ih =>
    have hunits : (do return (← joinSurrogates? high low) :: (← resolveUnits rest)
        : Option (List Char)).isSome ↔
        (joinSurrogates? high low).isSome ∧ (resolveUnits rest).isSome := by
      cases joinSurrogates? high low <;> cases resolveUnits rest <;> simp
    rw [hunits, isSome_joinSurrogates?_iff, ih]
    constructor
    · rintro ⟨⟨hhigh, hlow⟩, hrest⟩
      exact .pair hhigh hlow hrest
    · rintro ⟨⟩
      exact ⟨⟨‹_›, ‹_›⟩, ‹_›⟩
  | case4 code rest hrest =>
    refine iff_of_false (by simp) ?_
    rintro ⟨⟩
    exact hrest _ _ rfl

theorem isSome_textOf?_iff {units : List StringUnit} : (textOf? units).isSome ↔ Paired units := by
  rw [textOf?, Option.isSome_map, isSome_resolveUnits_iff]

/-- Only the string without units is empty. -/
theorem textOf?_eq_empty_iff {units : List StringUnit} {s : String} (h : textOf? units = some s) :
    units = [] ↔ s = "" := by
  obtain ⟨cs, hcs, rfl⟩ := Option.map_eq_some_iff.1 h
  rw [← String.toList_inj, String.toList_ofList]
  constructor
  · rintro rfl
    cases hcs
    rfl
  · intro hnil
    have hnil : cs = [] := hnil
    subst hnil
    match units, hcs with
    | [], _ => rfl
    | .char _ :: _, hcs => simp [resolveUnits] at hcs
    | .surrogate _ :: .surrogate _ :: _, hcs =>
      simp [resolveUnits, Option.bind_eq_some_iff] at hcs
    | [.surrogate _], hcs => cases hcs
    | .surrogate _ :: .char _ :: _, hcs => cases hcs

/-! ## Terms -/

/-- Whether a value is of the form of a term, and its number or text the one that stands there. -/
inductive Term.Matches : Term → Json → Prop where
  | null : Matches .null .null
  | bool (b : Bool) : Matches (.bool b) (.bool b)
  | number {l : Literal} {n : Number} (number : l.number? = some n) :
      Matches (.number l) (.number n)
  | string {units : List StringUnit} {s : String} (text : textOf? units = some s) :
      Matches (.string units) (.string s)
  | array (items : List Term) (vs : List Json) : Matches (.array items) (.array vs)
  | object (members : List (List StringUnit × Term)) (pairs : List (String × Json)) :
      Matches (.object members) (.object pairs)

theorem Term.matches_of_value? {depth : Nat} {t : Term} {v : Json} (h : t.value? depth = some v) :
    t.Matches v :=
  valueWith?_induction (P := fun _ => Matches) (fun _ => .null) (fun _ => .bool)
    (fun _ _ _ => .number) (fun _ _ _ => .string) (fun _ items vs _ => .array items vs)
    (fun _ members _ h => absurd h (nothingSpecial_ne members _))
    (fun _ members pairs _ _ => .object members (Members.ofList pairs)) h

theorem within_array_iff {readable : Literal → Prop} {depth : Nat} {items : List Term} :
    Term.Within readable (depth + 1) (.array items) ↔ ∀ t ∈ items, t.Within readable depth :=
  ⟨fun h => by cases h; assumption, .array⟩

theorem within_object_iff {readable : Literal → Prop} {depth : Nat}
    {members : List (List StringUnit × Term)} :
    Term.Within readable (depth + 1) (.object members) ↔
      ∀ m ∈ members, Paired m.1 ∧ m.2.Within readable depth := by
  constructor
  · rintro ⟨⟩ m hm
    exact ⟨‹∀ m ∈ members, Paired m.1› m hm, ‹∀ m ∈ members, m.2.Within readable depth› m hm⟩
  · exact fun h => .object (fun m hm => (h m hm).1) fun m hm => (h m hm).2

theorem Term.Within.exists_succ {readable : Literal → Prop} {depth : Nat}
    {members : List (List StringUnit × Term)} (h : (Term.object members).Within readable depth) :
    ∃ d, depth = d + 1 := by
  cases h
  exact ⟨_, rfl⟩

/-- A term with a value is within bounds, if that is so of the objects that are special. -/
theorem Term.within_of_valueWith? {special : List (List StringUnit × Term) → Option (Option Json)}
    (hspecial : ∀ depth members v, special members = some (some v) →
      (Term.object members).Within Literal.Readable (depth + 1)) {depth : Nat} {t : Term} {v : Json}
    (h : t.valueWith? special depth = some v) : t.Within Literal.Readable depth := by
  refine valueWith?_induction (P := fun depth t _ => t.Within Literal.Readable depth) .null .bool
    ?number ?string ?array hspecial ?object h
  case number =>
    intro depth l n hn
    have hreadable : l.Readable := by rw [Literal.Readable, hn]; rfl
    exact .number depth hreadable
  case string =>
    intro depth units s hs
    exact .string depth (isSome_textOf?_iff.1 (Option.isSome_of_eq_some hs))
  case array =>
    intro depth items vs hitems
    refine .array fun t ht => ?_
    obtain ⟨_, -, hwithin⟩ := exists_of_forall₂ hitems ht
    exact hwithin
  case object =>
    intro depth members pairs _ hmembers
    refine within_object_iff.2 fun m hm => ?_
    obtain ⟨p, -, htext, hwithin⟩ := exists_of_forall₂ hmembers hm
    exact ⟨isSome_textOf?_iff.1 (Option.isSome_of_eq_some htext), hwithin⟩

/-- A term has a value when it is within bounds. -/
theorem isSome_value?_iff {depth : Nat} {t : Term} :
    (t.value? depth).isSome ↔ t.Within Literal.Readable depth := by
  constructor
  · intro h
    obtain ⟨v, hv⟩ := Option.isSome_iff_exists.1 h
    exact Term.within_of_valueWith?
      (fun _ members _ h => absurd h (nothingSpecial_ne members _)) hv
  · intro h
    induction h with
    | null | bool => rfl
    | number depth number => exact Option.isSome_map.trans number
    | string depth paired => exact Option.isSome_map.trans (isSome_textOf?_iff.2 paired)
    | array items_within ih =>
      exact Option.isSome_map.trans (isSome_itemValuesWith?_iff.2 ih)
    | object keys_paired members_within ih =>
      exact Option.isSome_map.trans (isSome_memberValuesWith?_iff.2 fun m hm =>
        ⟨isSome_textOf?_iff.2 (keys_paired m hm), ih m hm⟩)

end WebhookRelay.Json

-- SUMMARY: Decimal texts: which texts are read as a double, told apart from the reader.
import WebhookRelay.Proofs.Text.Integer

/-!
# Decimal texts

`IsDouble cs` says that some characters are an optional sign and either digits, with at most one
point and perhaps an exponent, or the name of a value that is no number. The reader of doubles has
an answer for exactly these texts (`isSome_readFloat?_iff`). No text is too long and no exponent too
large: what is beyond the doubles is read as infinity.
-/

namespace WebhookRelay.Decimal

/-- Whether characters are ASCII digits, of which there may be none. -/
def AreDigits (cs : List Char) : Prop :=
  ∀ c ∈ cs, IsDigit c

/-- An exponent, which may be missing. -/
inductive IsExponent : List Char → Prop where
  | none : IsExponent []
  | some {e : Char} {s ds : List Char} (mark : e = 'e' ∨ e = 'E')
      (sign : s = [] ∨ s = ['+'] ∨ s = ['-']) (digits : AreDigits ds) (present : ds ≠ []) :
      IsExponent (e :: (s ++ ds))

/-- Digits with at most one point and perhaps an exponent, at least one digit beside the point. -/
inductive IsUnsigned : List Char → Prop where
  | whole {ds es : List Char} (digits : AreDigits ds) (present : ds ≠ [])
      (exponent : IsExponent es) : IsUnsigned (ds ++ es)
  | pointed {ds fs es : List Char} (digits : AreDigits ds) (fraction : AreDigits fs)
      (present : ds ≠ [] ∨ fs ≠ []) (exponent : IsExponent es) :
      IsUnsigned (ds ++ '.' :: (fs ++ es))

/-- Whether characters are the name of a value that is no number, in either case. -/
def IsSpecial (cs : List Char) : Prop :=
  String.ofList (Text.lowerAscii cs) ∈ ["inf", "infinity", "nan"]

/-- The characters that write a double. -/
inductive IsDouble : List Char → Prop where
  | bare {cs : List Char} (magnitude : IsSpecial cs ∨ IsUnsigned cs) : IsDouble cs
  | signed {c : Char} {cs : List Char} (sign : c = '+' ∨ c = '-')
      (magnitude : IsSpecial cs ∨ IsUnsigned cs) : IsDouble (c :: cs)

/-! ## Rows of digits -/

theorem isSome_decimalValue?_iff (c : Char) :
    (Text.decimalValue? c).isSome = true ↔ IsDigit c := by
  rw [Option.isSome_iff_exists, Text.decimalValue?]
  constructor
  · rintro ⟨d, hd⟩
    exact (digitValue?_eq_some_iff.1 hd).1
  · exact fun hc => ⟨_, digitValue?_eq_some_iff.2 ⟨hc, rfl⟩⟩

theorem exists_writesNatural_iff {cs : List Char} :
    (∃ n, WritesNatural cs n) ↔ AreDigits cs ∧ cs ≠ [] := by
  constructor
  · rintro ⟨n, h⟩
    exact ⟨h.isDigit_of_mem, h.ne_nil⟩
  · rintro ⟨hdigits, hne⟩
    induction cs using List.reverseRecOn with
    | nil => exact absurd rfl hne
    | append_singleton cs c ih =>
      have hc : IsDigit c := hdigits c (by simp)
      cases cs with
      | nil => exact ⟨_, .single hc⟩
      | cons d cs =>
        obtain ⟨n, hn⟩ := ih (fun x hx => hdigits x (List.mem_append_left _ hx)) (by simp)
        exact ⟨_, .snoc hn hc⟩

theorem isSome_natOfDigits?_iff (cs : List Char) :
    (Text.natOfDigits? 10 cs).isSome = true ↔ AreDigits cs ∧ cs ≠ [] := by
  rw [Option.isSome_iff_exists, ← exists_writesNatural_iff]
  exact exists_congr fun n => natOfDigits?_eq_some_iff

theorem AreDigits.ne_cons {c : Char} {cs rest : List Char} (h : AreDigits cs) (hc : ¬ IsDigit c) :
    cs ≠ c :: rest := by
  rintro rfl
  exact hc (h c List.mem_cons_self)

/-- Every text begins with digits, perhaps none, that do not go on. -/
theorem exists_digits_append (cs : List Char) :
    ∃ ds rest, cs = ds ++ rest ∧ AreDigits ds ∧ ∀ c ∈ rest.head?, ¬ IsDigit c := by
  induction cs with
  | nil => exact ⟨[], [], rfl, nofun, nofun⟩
  | cons c cs ih =>
    by_cases hc : IsDigit c
    · obtain ⟨ds, rest, rfl, hds, hrest⟩ := ih
      exact ⟨c :: ds, rest, rfl, List.forall_mem_cons.2 ⟨hc, hds⟩, hrest⟩
    · exact ⟨[], c :: cs, rfl, nofun, by simpa using hc⟩

/-- Digits are split off a text as far as they go. -/
theorem exists_spanDecimal_append {ds rest : List Char} (hds : AreDigits ds)
    (hrest : ∀ c ∈ rest.head?, ¬ IsDigit c) :
    ∃ values, Text.spanDecimal (ds ++ rest) = (values, rest) ∧ values.isEmpty = ds.isEmpty := by
  induction ds with
  | nil =>
    cases rest with
    | nil => exact ⟨[], rfl, rfl⟩
    | cons c rest =>
      have hc : Text.decimalValue? c = none := by
        rw [← Option.not_isSome_iff_eq_none, isSome_decimalValue?_iff]
        exact hrest c rfl
      exact ⟨[], by rw [List.nil_append, Text.spanDecimal, hc], rfl⟩
  | cons c ds ih =>
    obtain ⟨hc, hds⟩ := List.forall_mem_cons.1 hds
    obtain ⟨d, hd⟩ := Option.isSome_iff_exists.1 ((isSome_decimalValue?_iff c).2 hc)
    obtain ⟨values, hvalues, -⟩ := ih hds
    exact ⟨d :: values, by rw [List.cons_append, Text.spanDecimal, hd, hvalues], rfl⟩

/-! ## Numbers -/

theorem isSome_map_intCast_iff {f : Int → Int} {cs : List Char} :
    (Option.map f (do let n ← Text.natOfDigits? 10 cs; pure (n : Int))).isSome = true ↔
      AreDigits cs ∧ cs ≠ [] := by
  rw [← isSome_natOfDigits?_iff]
  cases Text.natOfDigits? 10 cs <;> simp

theorem isSome_readExponent?_iff (cs : List Char) :
    (readExponent? cs).isSome = true ↔ IsExponent cs := by
  constructor
  · intro h
    unfold readExponent? at h
    split at h
    · exact .none
    · next c cs =>
      split_ifs at h with hmark
      · split at h
        · next ds =>
          obtain ⟨hds, hne⟩ := isSome_map_intCast_iff.1 h
          exact .some hmark (.inr (.inr rfl)) hds hne
        · next ds =>
          obtain ⟨hds, hne⟩ := isSome_map_intCast_iff.1 h
          exact .some hmark (.inr (.inl rfl)) hds hne
        · obtain ⟨hds, hne⟩ := isSome_map_intCast_iff.1 h
          exact .some hmark (.inl rfl) hds hne
      · cases h
  · intro h
    cases h with
    | none => rfl
    | some mark sign digits present =>
      have hvalue {f : Int → Int} := (isSome_map_intCast_iff (f := f)).2 ⟨digits, present⟩
      rcases sign with rfl | rfl | rfl
      · rw [List.nil_append]
        unfold readExponent?
        split
        · rfl
        · next heq =>
          cases heq
          rw [if_pos mark]
          split
          · exact absurd rfl (digits.ne_cons (by unfold IsDigit; decide))
          · exact absurd rfl (digits.ne_cons (by unfold IsDigit; decide))
          · exact hvalue
      · rw [List.singleton_append, readExponent?, if_pos mark]
        exact hvalue
      · rw [List.singleton_append, readExponent?, if_pos mark]
        exact hvalue

theorem IsExponent.head {cs : List Char} (h : IsExponent cs) :
    ∀ c ∈ cs.head?, ¬ IsDigit c ∧ c ≠ '.' := by
  cases h with
  | none => exact nofun
  | some mark =>
    rintro c ⟨⟩
    rcases mark with rfl | rfl <;> (unfold IsDigit; decide)

theorem isSome_readUnsigned?_whole_iff {ds rest : List Char} (hds : AreDigits ds)
    (hrest : ∀ c ∈ rest.head?, ¬ IsDigit c ∧ c ≠ '.') :
    (readUnsigned? (ds ++ rest)).isSome = true ↔ ds ≠ [] ∧ IsExponent rest := by
  obtain ⟨values, hspan, hempty⟩ := exists_spanDecimal_append hds fun c hc => (hrest c hc).1
  simp only [readUnsigned?, hspan]
  split
  · exact absurd rfl (hrest '.' rfl).2
  · simp only [List.isEmpty_nil, Bool.and_true, hempty]
    cases ds <;> simp [isSome_readExponent?_iff]

theorem isSome_readUnsigned?_pointed_iff {ds fs rest : List Char} (hds : AreDigits ds)
    (hfs : AreDigits fs) (hrest : ∀ c ∈ rest.head?, ¬ IsDigit c) :
    (readUnsigned? (ds ++ '.' :: (fs ++ rest))).isSome = true ↔
      (ds ≠ [] ∨ fs ≠ []) ∧ IsExponent rest := by
  have hpoint : ∀ c ∈ ('.' :: (fs ++ rest)).head?, ¬ IsDigit c := by
    rintro c ⟨⟩
    unfold IsDigit
    decide
  obtain ⟨whole, hwhole, hds'⟩ := exists_spanDecimal_append hds hpoint
  obtain ⟨fraction, hfraction, hfs'⟩ := exists_spanDecimal_append hfs hrest
  simp only [readUnsigned?, hwhole, hfraction, hds', hfs']
  cases ds <;> cases fs <;> simp [isSome_readExponent?_iff]

theorem isSome_readUnsigned?_iff (cs : List Char) :
    (readUnsigned? cs).isSome = true ↔ IsUnsigned cs := by
  constructor
  · intro h
    obtain ⟨ds, rest, rfl, hds, hrest⟩ := exists_digits_append cs
    by_cases hpoint : '.' ∈ rest.head?
    · obtain ⟨after, rfl⟩ := List.head?_eq_some_iff.1 hpoint
      obtain ⟨fs, rest, rfl, hfs, hrest⟩ := exists_digits_append after
      obtain ⟨hpresent, hexponent⟩ := (isSome_readUnsigned?_pointed_iff hds hfs hrest).1 h
      exact .pointed hds hfs hpresent hexponent
    · have hhead : ∀ c ∈ rest.head?, ¬ IsDigit c ∧ c ≠ '.' := fun c hc =>
        ⟨hrest c hc, fun heq => hpoint (heq ▸ hc)⟩
      obtain ⟨hpresent, hexponent⟩ := (isSome_readUnsigned?_whole_iff hds hhead).1 h
      exact .whole hds hpresent hexponent
  · intro h
    cases h with
    | whole digits present exponent =>
      exact (isSome_readUnsigned?_whole_iff digits exponent.head).2 ⟨present, exponent⟩
    | pointed digits fraction present exponent =>
      exact (isSome_readUnsigned?_pointed_iff digits fraction fun c hc => (exponent.head c hc).1).2
        ⟨present, exponent⟩

/-! ## Signs and names -/

theorem isSome_readMagnitude?_iff (cs : List Char) :
    (readMagnitude? cs).isSome = true ↔ IsSpecial cs ∨ IsUnsigned cs := by
  rw [← isSome_readUnsigned?_iff, IsSpecial, readMagnitude?]
  simp only [List.mem_cons, List.not_mem_nil, or_false]
  split_ifs with hinfinite hnan
  · exact iff_of_true rfl (.inl (hinfinite.imp_right .inl))
  · exact iff_of_true rfl (.inl (.inr (.inr hnan)))
  · rw [or_iff_right]
    rintro (hspecial | hspecial | hspecial)
    · exact hinfinite (.inl hspecial)
    · exact hinfinite (.inr hspecial)
    · exact hnan hspecial

theorem IsUnsigned.exists_cons {cs : List Char} (h : IsUnsigned cs) :
    ∃ c rest, cs = c :: rest ∧ (IsDigit c ∨ c = '.') := by
  cases h with
  | @whole ds es digits present =>
    cases ds with
    | nil => exact absurd rfl present
    | cons d ds => exact ⟨d, _, rfl, .inl (digits d List.mem_cons_self)⟩
  | @pointed ds fs es digits =>
    cases ds with
    | nil => exact ⟨'.', _, rfl, .inr rfl⟩
    | cons d ds => exact ⟨d, _, rfl, .inl (digits d List.mem_cons_self)⟩

theorem IsSpecial.exists_cons {cs : List Char} (h : IsSpecial cs) :
    ∃ c rest, cs = c :: rest ∧ (c.toLower = 'i' ∨ c.toLower = 'n') := by
  unfold IsSpecial at h
  cases cs with
  | nil => exact absurd h (by decide)
  | cons c rest =>
    have hname : ∀ name ∈ ["inf", "infinity", "nan"], ∀ d ∈ name.toList.head?,
        d = 'i' ∨ d = 'n' := by
      simp
    exact ⟨c, rest, rfl, hname _ h _ (by simp [Text.lowerAscii])⟩

/-- A magnitude begins with no sign. -/
theorem magnitude_ne_cons {cs : List Char} (h : IsSpecial cs ∨ IsUnsigned cs) {c : Char}
    (hc : c = '+' ∨ c = '-') (rest : List Char) : cs ≠ c :: rest := by
  rintro rfl
  rcases h with h | h
  · obtain ⟨_, _, heq, hletter⟩ := h.exists_cons
    cases heq
    rcases hc with rfl | rfl <;> (revert hletter; decide)
  · obtain ⟨_, _, heq, hfirst⟩ := h.exists_cons
    cases heq
    unfold IsDigit at hfirst
    rcases hc with rfl | rfl <;> (revert hfirst; decide)

theorem isSome_readFloat?_iff {text : String} :
    (readFloat? text).isSome = true ↔ IsDouble text.toList := by
  unfold readFloat?
  generalize text.toList = cs
  constructor
  · intro h
    split at h
    · rw [Option.isSome_map, isSome_readMagnitude?_iff] at h
      exact .signed (.inr rfl) h
    · exact .signed (.inl rfl) ((isSome_readMagnitude?_iff _).1 h)
    · exact .bare ((isSome_readMagnitude?_iff _).1 h)
  · intro h
    cases h with
    | bare magnitude =>
      split
      · exact absurd rfl (magnitude_ne_cons magnitude (.inr rfl) _)
      · exact absurd rfl (magnitude_ne_cons magnitude (.inl rfl) _)
      · exact (isSome_readMagnitude?_iff _).2 magnitude
    | signed sign magnitude =>
      have hvalue := (isSome_readMagnitude?_iff _).2 magnitude
      rcases sign with rfl | rfl
      · exact hvalue
      · exact Option.isSome_map.trans hvalue

theorem readFloat?_eq_none_iff {text : String} :
    readFloat? text = none ↔ ¬ IsDouble text.toList := by
  rw [← isSome_readFloat?_iff, Option.not_isSome_iff_eq_none]

/-- The text of an integer is that of a double too. -/
theorem WritesInteger.isDouble {cs : List Char} {n : Int} (h : WritesInteger cs n) :
    IsDouble cs := by
  have hunsigned : ∀ {ds : List Char} {m : Nat}, WritesNatural ds m → IsUnsigned ds := by
    intro ds m hds
    obtain ⟨digits, present⟩ := exists_writesNatural_iff.1 ⟨m, hds⟩
    rw [← List.append_nil ds]
    exact .whole digits present .none
  cases h with
  | bare digits => exact .bare (.inr (hunsigned digits))
  | plus digits => exact .signed (.inl rfl) (.inr (hunsigned digits))
  | minus digits => exact .signed (.inr rfl) (.inr (hunsigned digits))

/-- A double begins with a sign, a digit, a point or a letter of two. -/
theorem IsDouble.exists_cons {cs : List Char} (h : IsDouble cs) :
    ∃ c rest, cs = c :: rest ∧
      (c ∈ ['+', '-', '.'] ∨ IsDigit c ∨ c.toLower = 'i' ∨ c.toLower = 'n') := by
  cases h with
  | bare magnitude =>
    rcases magnitude with hspecial | hunsigned
    · obtain ⟨c, rest, rfl, hletter⟩ := hspecial.exists_cons
      exact ⟨c, rest, rfl, .inr (.inr hletter)⟩
    · obtain ⟨c, rest, rfl, hdigit | rfl⟩ := hunsigned.exists_cons
      · exact ⟨c, rest, rfl, .inr (.inl hdigit)⟩
      · exact ⟨'.', rest, rfl, .inl (by decide)⟩
  | @signed c rest sign =>
    refine ⟨c, rest, rfl, .inl ?_⟩
    rcases sign with rfl | rfl <;> decide

end WebhookRelay.Decimal

-- SUMMARY: Names of settings: which part of a tree the name of an entry or of a variable leads to.
import WebhookRelay.Proofs.Settings.Overlay
import WebhookRelay.Settings.Environment
import Mathlib

/-!
# Names of settings

The name of an entry is a path into the tree, and what it sets is told by its front, the part before
the first point or bracket. A name that is its own front is a key of the root
(`setName_of_front_eq`), and an entry leaves every section alone that its front does not name
(`find?_setName_of_ne`).

The name of a variable becomes such a path when points are put for double underscores. Two words
with two underscores between them become a path of two keys (`path?_pair`).
-/

namespace WebhookRelay.Settings

/-! ## Keys in lower case -/

/-- The lower-case form of a character of a key. -/
def lowerChar (c : Char) : Char :=
  if c = '\u212a' then 'k' else c.toLower

theorem toList_lowerKey (a : String) : (lowerKey a).toList = a.toList.map lowerChar := by
  rw [lowerKey, String.toList_ofList]
  rfl

theorem lowerKey_append (a b : String) : lowerKey (a ++ b) = lowerKey a ++ lowerKey b := by
  simp [lowerKey]

theorem lowerChar_lowerChar (c : Char) : lowerChar (lowerChar c) = lowerChar c := by
  unfold lowerChar
  by_cases hc : c = '\u212a'
  · rw [if_pos hc]
    decide
  · rw [if_neg hc]
    by_cases hd : c.toLower = '\u212a'
    · -- Only a capital changes, and to an ASCII letter.
      by_cases hupper : c.isUpper
      · have hletter : c.toLower.isAlpha = true := by
          rw [Char.isAlpha_toLower_eq_isAlpha, Char.isAlpha, hupper, Bool.true_or]
        rw [hd] at hletter
        cases hletter
      · exact absurd ((Char.toLower_eq_of_not_isUpper hupper).symm.trans hd) hc
    · rw [if_neg hd, Char.toLower_toLower_eq_toLower]

/-- What a key in lower case consists of is in lower case. -/
theorem lowerKey_eq_self {a b : String} (h : b.toList ⊆ (lowerKey a).toList) : lowerKey b = b := by
  have hfixed : ∀ c ∈ b.toList, lowerChar c = c := by
    intro c hc
    have hmem := h hc
    rw [toList_lowerKey, List.mem_map] at hmem
    obtain ⟨d, -, rfl⟩ := hmem
    exact lowerChar_lowerChar d
  rw [← String.toList_inj, toList_lowerKey, List.map_congr_left hfixed, List.map_id']

/-! ## Fronts -/

/-- Whether a character ends the front of a name. -/
def endsFront (c : Char) : Bool :=
  c == '.' || c == '['

/-- The part of a name before its first point or bracket. -/
def front (name : String) : String :=
  String.ofList (name.toList.takeWhile fun c => !endsFront c)

theorem not_endsFront_of_isPathChar {c : Char} (h : isPathChar c = true) : endsFront c = false := by
  rw [endsFront, Bool.or_eq_false_iff, beq_eq_false_iff_ne, beq_eq_false_iff_ne]
  constructor
  · rintro rfl
    cases h
  · rintro rfl
    cases h

theorem readSteps?_nil (fuel : Nat) : readSteps? fuel [] = some [] := by
  cases fuel <;> rfl

theorem endsFront_of_readSteps? {fuel : Nat} {c : Char} {cs : List Char} {steps : List PathStep}
    (h : readSteps? fuel (c :: cs) = some steps) : endsFront c = true := by
  cases fuel with
  | zero => cases h
  | succ fuel =>
    unfold readSteps? at h
    split at h
    · contradiction
    · contradiction
    · next heq => cases heq; rfl
    · next heq => cases heq; rfl
    · cases h

/-- A path begins with the front of its name, and goes on with the steps behind it. -/
theorem path?_eq_some {name : String} {steps : List PathStep} (h : path? name = some steps) :
    ∃ cs rest, name.toList = (front name).toList ++ cs ∧ readSteps? name.length cs = some rest ∧
      steps = .key (front name) :: rest := by
  rw [path?, readSteps?] at h
  split at h
  · cases h
  obtain ⟨rest, hrest, rfl⟩ := Option.map_eq_some_iff.1 h
  have hsplit := List.takeWhile_append_dropWhile (p := isPathChar) (l := name.toList)
  have hfront : name.toList.takeWhile (fun c => !endsFront c)
      = name.toList.takeWhile isPathChar := by
    conv_lhs => rw [← hsplit]
    rw [List.takeWhile_append_of_pos]
    · cases hcs : name.toList.dropWhile isPathChar with
      | nil => simp
      | cons c cs => simp [endsFront_of_readSteps? (hcs ▸ hrest)]
    · intro c hc
      rw [not_endsFront_of_isPathChar (List.mem_takeWhile_imp hc)]
      rfl
  refine ⟨name.toList.dropWhile isPathChar, rest, ?_, hrest, ?_⟩
  · rw [front, String.toList_ofList, hfront, hsplit]
  · rw [front, hfront]

theorem front_eq_self {name : String} (h : ∀ c ∈ name.toList, endsFront c = false) :
    front name = name := by
  rw [front, List.takeWhile_eq_self_iff.2 fun c hc => by rw [h c hc]; rfl, String.ofList_toList]

theorem not_endsFront_of_lowerChar {c : Char} (h : endsFront (lowerChar c) = false) :
    endsFront c = false := by
  rw [endsFront, Bool.or_eq_false_iff, beq_eq_false_iff_ne, beq_eq_false_iff_ne]
  constructor
  · rintro rfl
    cases h
  · rintro rfl
    cases h

/-- Whatever its case, the name of a section is its own front. -/
theorem front_eq_self_of_lowerKey {name table : String}
    (htable : ∀ c ∈ table.toList, endsFront c = false) (h : lowerKey name = table) :
    front name = name := by
  refine front_eq_self fun c hc => not_endsFront_of_lowerChar (htable _ ?_)
  rw [← h, toList_lowerKey]
  exact List.mem_map_of_mem hc

/-- A name in front of nothing is a key of the root. -/
theorem setName_of_front_eq {name : String} (h : front name = name) (root value : Json) :
    setName root name value = setKey root name value := by
  unfold setName
  split
  · next steps hsteps =>
    obtain ⟨cs, rest, hsplit, hrest, rfl⟩ := path?_eq_some hsteps
    rw [h, List.self_eq_append_right] at hsplit
    subst hsplit
    rw [readSteps?_nil] at hrest
    cases hrest
    rw [h, setPath]
  · rfl

/-- A section is left alone when the front of the name is not its name. -/
theorem find?_setName_of_ne {name table : String} (htable : ∀ c ∈ table.toList, endsFront c = false)
    (h : lowerKey (front name) ≠ table) (root value : Json) :
    Json.Members.find? table (tableOf (setName root name value)) =
      Json.Members.find? table (tableOf root) := by
  unfold setName
  split
  · next steps hsteps =>
    obtain ⟨-, rest, -, -, rfl⟩ := path?_eq_some hsteps
    exact find?_setPath_of_ne h value rest
  · refine find?_setKey_of_ne (fun hname => h ?_) value
    rw [front_eq_self_of_lowerKey htable hname, hname]

/-! ## Words -/

/-- Whether characters are a word of a name: characters of keys, with no two underscores in a row
and none at the end. -/
def IsWord (cs : List Char) : Prop :=
  cs ≠ [] ∧ cs.all isPathChar = true ∧ (cs ++ ['_']).IsChain fun a b => a = '_' → b ≠ '_'

instance (cs : List Char) : Decidable (IsWord cs) :=
  inferInstanceAs (Decidable (_ ∧ _ ∧ _))

theorem IsWord.isPathChar {cs : List Char} (h : IsWord cs) :
    ∀ c ∈ cs, Settings.isPathChar c = true :=
  List.all_eq_true.1 h.2.1

theorem IsWord.not_endsFront {cs : List Char} (h : IsWord cs) : ∀ c ∈ cs, endsFront c = false :=
  fun c hc => not_endsFront_of_isPathChar (h.isPathChar c hc)

theorem IsWord.not_mem_point {cs : List Char} (h : IsWord cs) : '.' ∉ cs :=
  fun hmem => absurd (h.isPathChar '.' hmem) (by decide)

theorem pointed_cons {c : Char} {cs : List Char} (h : ∀ d ∈ cs.head?, c = '_' → d ≠ '_') :
    pointed (c :: cs) = c :: pointed cs := by
  rw [pointed]
  rintro rest rfl rfl
  exact h '_' rfl rfl rfl

/-- Points are put for the underscores behind a word, and the word stays. -/
theorem pointed_append {t : List Char} (h : (t ++ ['_']).IsChain fun a b => a = '_' → b ≠ '_')
    (cs : List Char) : pointed (t ++ '_' :: '_' :: cs) = t ++ '.' :: pointed cs := by
  induction t with
  | nil => rw [List.nil_append, pointed, List.nil_append]
  | cons c t ih =>
    obtain ⟨hhead, htail⟩ := List.isChain_cons.1 h
    rw [List.cons_append, pointed_cons, ih htail, List.cons_append]
    cases t <;> exact hhead

theorem pointed_eq_self {t : List Char} (h : t.IsChain fun a b => a = '_' → b ≠ '_') :
    pointed t = t := by
  induction t with
  | nil => rw [pointed]
  | cons c t ih =>
    obtain ⟨hhead, htail⟩ := List.isChain_cons.1 h
    rw [pointed_cons hhead, ih htail]

theorem IsWord.pointed_eq_self {t : List Char} (h : IsWord t) : pointed t = t :=
  Settings.pointed_eq_self (List.isChain_append.1 h.2.2).1

theorem IsWord.takeWhile_eq {t : List Char} (h : IsWord t) :
    t.takeWhile Settings.isPathChar = t :=
  List.takeWhile_eq_self_iff.2 h.isPathChar

/-- Putting points leaves the front of a name as it stands. -/
theorem front_pointed_prefix (cs : List Char) :
    (front (String.ofList (pointed cs))).toList <+: cs := by
  rw [front, String.toList_ofList, String.toList_ofList]
  fun_induction pointed cs with
  | case1 cs ih => exact List.nil_prefix
  | case2 c cs hne ih =>
    rw [List.takeWhile_cons]
    split
    · exact List.cons_prefix_cons.2 ⟨rfl, ih⟩
    · exact List.nil_prefix
  | case3 => exact List.prefix_rfl

theorem pointed_pair {t f : String} (ht : IsWord t.toList) (hf : IsWord f.toList) :
    String.ofList (pointed (t ++ "__" ++ f).toList) = t ++ "." ++ f := by
  have hlist : (t ++ "__" ++ f).toList = t.toList ++ '_' :: '_' :: f.toList := by simp
  rw [hlist, pointed_append ht.2.2, hf.pointed_eq_self, ← String.toList_inj]
  simp

/-- Two words with a point between them are a path of two keys. -/
theorem path?_pair {t f : String} (ht : IsWord t.toList) (hf : IsWord f.toList) :
    path? (t ++ "." ++ f) = some [.key t, .key f] := by
  have hlist : (t ++ "." ++ f).toList = t.toList ++ '.' :: f.toList := by simp
  have htake : (t.toList ++ '.' :: f.toList).takeWhile isPathChar = t.toList := by
    rw [List.takeWhile_append_of_pos ht.isPathChar]
    simp [isPathChar]
  have hdrop : (t.toList ++ '.' :: f.toList).dropWhile isPathChar = '.' :: f.toList := by
    rw [List.dropWhile_append_of_pos ht.isPathChar]
    simp [isPathChar]
  obtain ⟨fuel, hfuel⟩ : ∃ fuel, (t ++ "." ++ f).length = fuel + 1 :=
    Nat.exists_eq_add_one_of_ne_zero (by simp)
  have hlast : f.toList.dropWhile isPathChar = [] := List.dropWhile_eq_nil_iff.2 hf.isPathChar
  rw [path?, readSteps?, hlist, htake, hdrop, hfuel, if_neg (by simpa using ht.1), readSteps?,
    hf.takeWhile_eq, hlast, if_neg (by simpa using hf.1), readSteps?_nil]
  simp

/-! ## Variables -/

/-- Whether the name of a variable begins with a scope and two underscores. -/
def InScope (scope name : String) : Prop :=
  ∃ rest, lowerKey name = lowerKey scope ++ "__" ++ rest

theorem settingName?_of_scope {scope name rest : String}
    (h : lowerKey name = lowerKey scope ++ "__" ++ rest) :
    settingName? scope name = some (String.ofList (pointed rest.toList)) := by
  have hlist : (lowerKey name).toList = (lowerKey scope).toList ++ ['_', '_'] ++ rest.toList := by
    simp [h]
  simp only [settingName?, hlist]
  simp

theorem settingName?_eq_none {scope name : String} (h : ¬ InScope scope name) :
    settingName? scope name = none := by
  simp only [settingName?]
  refine if_neg fun hprefix => h ?_
  obtain ⟨rest, hrest⟩ := List.isPrefixOf_iff_prefix.1 hprefix
  exact ⟨String.ofList rest, by rw [← String.toList_inj, ← hrest]; simp⟩

end WebhookRelay.Settings

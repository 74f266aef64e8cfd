-- SUMMARY: Laying named values over a tree, seen from one key of one section.
import WebhookRelay.Proofs.Json.Members
import WebhookRelay.Settings.Tree

/-!
# Overlays

A layer is laid over a tree entry by entry, and an entry may set much of the tree at once. Seen from
one key of one section that is a table, it does one of three things: it sets the key through a table
for the section, it sets the key by its path, or it leaves the key alone.

A table that meets another value is merged into it: the outcome is a table, unless the table that
comes in is empty, which changes nothing. No setting takes a table for a value, so what the outcome
holds inside does not matter, and values are compared by their `outline`.
-/

namespace WebhookRelay.Settings

/-- A value without what a table holds inside. -/
def outline : Json → Json
  | .object _ => .object []
  | value => value

/-- Whether a value is a table without entries. -/
def isVoid : Json → Bool
  | .object [] => true
  | _ => false

/-- The values that the entries of a table give to a key, in order. Empty tables give none. -/
def valuesFor (key : String) (entries : List (String × Json)) : List Json :=
  entries.filterMap fun entry =>
    if lowerKey entry.1 = key ∧ isVoid entry.2 = false then some entry.2 else none

theorem valuesFor_cons (key name : String) (value : Json) (entries : List (String × Json)) :
    valuesFor key ((name, value) :: entries) =
      if lowerKey name = key ∧ isVoid value = false then value :: valuesFor key entries
      else valuesFor key entries := by
  rw [valuesFor, List.filterMap_cons]
  split_ifs <;> rfl

/-! ## Tables -/

section Tables

variable {target v w : Json} {key : String}

theorem exists_setKey (target : Json) (name : String) (value : Json) :
    ∃ members, setKey target name value = .object members := by
  cases value <;> simp [setKey]

theorem exists_mergeInto_cons (target : Json) (entry : String × Json)
    (entries : List (String × Json)) :
    ∃ members, mergeInto target (entry :: entries) = .object members := by
  induction entries generalizing target entry with
  | nil =>
    rw [mergeInto, mergeInto]
    exact exists_setKey ..
  | cons next entries ih =>
    rw [mergeInto]
    exact ih _ next

theorem exists_mergeInto (members : Json.Members) (entries : List (String × Json)) :
    ∃ members', mergeInto (.object members) entries = .object members' := by
  cases entries with
  | nil => exact ⟨members, by rw [mergeInto]⟩
  | cons entry entries => exact exists_mergeInto_cons _ entry entries

/-- Whether a table has a value for a key, up to its outline. -/
def Maps (target : Json) (key : String) (w : Json) : Prop :=
  ∃ v, Json.Members.find? key (tableOf target) = some v ∧ outline v = outline w

/-- Setting a key of a table gives the value to that key alone. -/
theorem Maps.setKey (h : Maps target key w) (name : String) (value : Json) :
    Maps (setKey target name value) key
      (if lowerKey name = key ∧ isVoid value = false then value else w) := by
  obtain ⟨v, hv, hvw⟩ := h
  by_cases hname : lowerKey name = key
  · subst hname
    simp only [true_and]
    cases value with
    | object incoming =>
      rw [Settings.setKey]
      simp only [hv, Option.getD_some]
      refine ⟨mergeInto v incoming, ?_, ?_⟩
      · rw [tableOf, Json.Members.find?_insert, if_pos rfl]
      · cases incoming with
        | nil => rwa [mergeInto]
        | cons entry entries =>
          obtain ⟨members, hmembers⟩ := exists_mergeInto_cons v entry entries
          rw [hmembers]
          rfl
    | null | bool | number | string | array =>
      refine ⟨_, ?_, rfl⟩
      simp only [Settings.setKey, tableOf, Json.Members.find?_insert, isVoid, if_true]
  · refine ⟨v, ?_, by simp only [hname, false_and, if_false, hvw]⟩
    rw [← hv]
    cases value <;>
      simp only [Settings.setKey, tableOf, Json.Members.find?_insert, Ne.symm hname, if_false]

/-- Merging a table gives a key the last value that the entries have for it. -/
theorem Maps.mergeInto (h : Maps target key w) (entries : List (String × Json)) :
    Maps (mergeInto target entries) key ((valuesFor key entries).getLastD w) := by
  induction entries generalizing target w with
  | nil => rwa [Settings.mergeInto]
  | cons entry entries ih =>
    obtain ⟨name, value⟩ := entry
    rw [Settings.mergeInto, valuesFor_cons]
    have hnext := ih (h.setKey name value)
    split_ifs at hnext ⊢
    · rwa [List.getLastD_cons]
    · exact hnext

end Tables

/-! ## Sections -/

/-- Whether a tree has a table for a section with a value for a key, up to its outline. -/
def Stands (root : Json) (table key : String) (w : Json) : Prop :=
  ∃ members, Json.Members.find? table (tableOf root) = some (.object members) ∧
    Maps (.object members) key w

section Sections

variable {root w : Json} {table key : String}

theorem find?_setKey_of_ne {name : String} (h : lowerKey name ≠ table) (value : Json) :
    Json.Members.find? table (tableOf (setKey root name value)) =
      Json.Members.find? table (tableOf root) := by
  cases value <;> simp only [setKey, tableOf, Json.Members.find?_insert, Ne.symm h, if_false]

theorem find?_setPath_of_ne {name : String} (h : lowerKey name ≠ table) (value : Json)
    (steps : List PathStep) :
    Json.Members.find? table (tableOf (setPath value (.key name :: steps) root)) =
      Json.Members.find? table (tableOf root) := by
  cases steps with
  | nil =>
    rw [setPath]
    exact find?_setKey_of_ne h value
  | cons step steps =>
    rw [setPath, tableOf, Json.Members.find?_insert, if_neg (Ne.symm h)]
    simp

/-- A table under the name of the section is merged into it. -/
theorem Stands.setKey_table (h : Stands root table key w) {name : String}
    (hname : lowerKey name = table) (entries : List (String × Json)) :
    Stands (setKey root name (.object entries)) table key
      ((valuesFor key entries).getLastD w) := by
  obtain ⟨members, htable, hmaps⟩ := h
  obtain ⟨members', hmembers⟩ := exists_mergeInto members entries
  refine ⟨members', ?_, hmembers ▸ hmaps.mergeInto entries⟩
  subst hname
  rw [setKey]
  simp only [htable, Option.getD_some, hmembers]
  rw [tableOf, Json.Members.find?_insert, if_pos rfl]

/-- A path of two keys sets one key of one section. -/
theorem Stands.setPath_pair (h : Stands root table key w) (t f : String) (value : Json) :
    Stands (setPath value [.key t, .key f] root) table key
      (if lowerKey t = table ∧ lowerKey f = key ∧ isVoid value = false then value else w) := by
  obtain ⟨members, htable, hmaps⟩ := h
  by_cases ht : lowerKey t = table
  · have hset := hmaps.setKey f value
    obtain ⟨members', hmembers⟩ := exists_setKey (.object members) f value
    rw [hmembers] at hset
    refine ⟨members', ?_, by simpa only [ht, true_and] using hset⟩
    subst ht
    rw [setPath]
    simp only [htable, Option.getD_some, setPath, hmembers]
    rw [tableOf, Json.Members.find?_insert, if_pos rfl]
    simp
  · refine ⟨members, ?_, by simpa only [ht, false_and, if_false] using hmaps⟩
    rw [find?_setPath_of_ne ht, htable]

end Sections
end WebhookRelay.Settings

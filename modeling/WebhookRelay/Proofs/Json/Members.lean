-- SUMMARY: Objects: the members that a text lists, and the values that stay when keys repeat.
import WebhookRelay.Proofs.Json.Completeness
import Mathlib.Data.List.Induction

/-!
# Members

A reader of records takes the members of a text one by one (`scanObject?`). When the
text is well formed, they are those of the object that the grammar gives
(`scanObject?_eq_some_iff`).

Of the values of one key the last one stays, both when members are kept by key
(`Members.find?_ofList`) and for a reader that looks a key up from the back.
-/

namespace WebhookRelay.Json

/-! ## Members of a text -/

theorem scanObject?_of_document {text : String} {members : List (List StringUnit × Term)}
    (h : Document text (.object members)) : scanObject? text = some (members, true) := by
  obtain ⟨value, behind, before, hvalue, after⟩ := h
  have hstart := before.skipBlanks_eq.trans hvalue.skipBlanks_eq
  have hend : skipBlanks behind = [] := after.skipBlanks_eq
  unfold scanObject?
  cases hvalue with
  | emptyObject close =>
    simp only [hstart, close.skipBlanks_eq_cons (by decide), hend]
    rfl
  | @object cs _ _ members =>
    have hlt := lt_length_of_skipBlanks hstart
    have hle := length_skipBlanks_le cs
    have hread := members.isRead (2 * text.toList.length + 1) (skipBlanks cs)
      (skipBlanks_skipBlanks cs) (by omega)
    simp only [hstart]
    split
    · next found rest hfound =>
      split at hfound
      · next close hclose => exact absurd hclose (members.skipBlanks_ne_brace close)
      · rw [hread] at hfound
        cases hfound
        rw [hend]
        rfl
    · next found hfound =>
      split at hfound
      · cases hfound
      · rw [hread] at hfound
        cases hfound

theorem document_of_scanObject? {text : String} {members : List (List StringUnit × Term)}
    (h : scanObject? text = some (members, true)) : Document text (.object members) := by
  unfold scanObject? at h
  simp only at h
  split at h
  · next cs hopen =>
    split at h
    · next found rest hfound =>
      obtain ⟨rfl, hempty⟩ := Prod.mk.inj (Option.some.inj h)
      refine ⟨_, rest, blanks_of_skipBlanks hopen, ?_,
        blanks_of_skipBlanks (List.isEmpty_iff.1 hempty)⟩
      split at hfound
      · next close hclose =>
        cases hfound
        exact .emptyObject (blanks_of_skipBlanks hclose)
      · exact .object ((blanks_skipBlanks cs).members ((sound _).members hfound))
    · cases h
  · cases h

/-- A text is scanned to its end exactly when it is an object, and then for its members. -/
theorem scanObject?_eq_some_iff {text : String} {members : List (List StringUnit × Term)} :
    scanObject? text = some (members, true) ↔ Document text (.object members) :=
  ⟨document_of_scanObject?, scanObject?_of_document⟩

/-! ## Repeated keys -/

theorem lookup_cons_eq (key k : String) (v : Json) (rest : List (String × Json)) :
    ((k, v) :: rest).lookup key = if key = k then some v else rest.lookup key := by
  by_cases h : key = k
  · subst h
    simp
  · simp [List.lookup_cons, beq_false_of_ne h, h]

theorem Members.find?_insert (key k : String) (v : Json) (members : Members) :
    (insert k v members).find? key = if key = k then some v else members.find? key := by
  unfold find?
  induction members with
  | nil => exact lookup_cons_eq key k v []
  | cons member members ih =>
    obtain ⟨k', v'⟩ := member
    rw [insert]
    split
    · exact lookup_cons_eq key k v _
    · split
      · next heq =>
        subst heq
        rw [lookup_cons_eq, lookup_cons_eq]
        split <;> rfl
      · next hne =>
        rw [lookup_cons_eq, lookup_cons_eq, ih]
        by_cases hkey : key = k
        · subst hkey
          rw [if_neg hne, if_pos rfl, if_pos rfl]
        · rw [if_neg hkey, if_neg hkey]

/-- Of the values of a key the last one stays. -/
theorem Members.find?_ofList (key : String) (pairs : List (String × Json)) :
    (ofList pairs).find? key = pairs.reverse.lookup key := by
  induction pairs using List.reverseRecOn with
  | nil => rfl
  | append_singleton pairs pair ih =>
    obtain ⟨k, v⟩ := pair
    rw [ofList, List.foldl_append, ← ofList, List.reverse_append, List.reverse_singleton,
      List.singleton_append, lookup_cons_eq, ← ih]
    exact find?_insert key k v _

end WebhookRelay.Json

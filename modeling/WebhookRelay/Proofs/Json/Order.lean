-- SUMMARY: The members of an object stand in key order, whatever the order they were set in.
import WebhookRelay.Json.Basic
import Mathlib.Data.List.Induction
import Mathlib.Data.String.Basic

/-!
# Key order

Members that are set one by one stand in strictly increasing key order. So they are determined by
what they say and not by the order they were given in: setting members that are in order gives
them back (`Members.ofList_of_ordered`), and pairs with different keys may be rearranged
(`Members.ofList_perm`).
-/

namespace WebhookRelay.Json.Members

/-- Whether members stand in strictly increasing key order. -/
def Ordered (members : Members) : Prop :=
  members.Pairwise (·.1 < ·.1)

variable {key : String} {v : Json} {members pairs pairs' : List (String × Json)}

theorem Ordered.nodup_keys (h : Ordered members) : (members.map (·.1)).Nodup :=
  List.pairwise_map.2 (h.imp ne_of_lt)

theorem mem_insert {p : String × Json} (h : p ∈ insert key v members) :
    p = (key, v) ∨ p ∈ members := by
  induction members with
  | nil => exact .inl (List.mem_singleton.1 h)
  | cons member members ih =>
    obtain ⟨k, w⟩ := member
    rw [insert] at h
    split_ifs at h
    · exact List.mem_cons.1 h
    · exact (List.mem_cons.1 h).imp_right (List.mem_cons_of_mem _)
    · rcases List.mem_cons.1 h with rfl | h
      · exact .inr List.mem_cons_self
      · exact (ih h).imp_right (List.mem_cons_of_mem _)

theorem Ordered.insert (h : Ordered members) : Ordered (insert key v members) := by
  induction members with
  | nil => exact List.pairwise_singleton _ _
  | cons member members ih =>
    obtain ⟨k, w⟩ := member
    obtain ⟨hfirst, hmembers⟩ := List.pairwise_cons.1 h
    rw [Members.insert]
    split_ifs with hlt heq
    · refine List.pairwise_cons.2 ⟨fun p hp => ?_, h⟩
      rcases List.mem_cons.1 hp with rfl | hp
      · exact hlt
      · exact lt_trans hlt (hfirst p hp)
    · subst heq
      exact List.pairwise_cons.2 ⟨hfirst, hmembers⟩
    · refine List.pairwise_cons.2 ⟨fun p hp => ?_, ih hmembers⟩
      rcases mem_insert hp with rfl | hp
      · exact lt_of_le_of_ne (not_lt.1 hlt) (Ne.symm heq)
      · exact hfirst p hp

/-- A key that is not there yet is added. -/
theorem insert_perm (h : key ∉ members.map (·.1)) :
    (insert key v members).Perm ((key, v) :: members) := by
  induction members with
  | nil => exact .rfl
  | cons member members ih =>
    obtain ⟨k, w⟩ := member
    rw [List.map_cons, List.mem_cons, not_or] at h
    rw [insert]
    split_ifs with hlt heq
    · exact .rfl
    · exact absurd heq h.1
    · exact ((ih h.2).cons _).trans (.swap _ _ _)

theorem ofList_concat (pairs : List (String × Json)) (key : String) (v : Json) :
    ofList (pairs ++ [(key, v)]) = insert key v (ofList pairs) :=
  List.foldl_concat ..

theorem ordered_ofList (pairs : List (String × Json)) : Ordered (ofList pairs) := by
  induction pairs using List.reverseRecOn with
  | nil => exact List.Pairwise.nil
  | append_singleton pairs pair ih =>
    rw [ofList_concat]
    exact ih.insert

theorem mem_of_mem_ofList {p : String × Json} (h : p ∈ ofList pairs) : p ∈ pairs := by
  induction pairs using List.reverseRecOn with
  | nil => exact h
  | append_singleton pairs pair ih =>
    rw [ofList_concat] at h
    rw [List.mem_append, List.mem_singleton]
    exact (mem_insert h).symm.imp_left ih

/-- Pairs with different keys all stay. -/
theorem ofList_perm_self (h : (pairs.map (·.1)).Nodup) : (ofList pairs).Perm pairs := by
  induction pairs using List.reverseRecOn with
  | nil => exact .rfl
  | append_singleton pairs pair ih =>
    rw [List.map_append, List.map_singleton, List.nodup_append] at h
    obtain ⟨hpairs, -, hdisjoint⟩ := h
    have ih := ih hpairs
    have hnew : pair.1 ∉ (ofList pairs).map (·.1) := by
      rw [(ih.map _).mem_iff]
      exact fun hmem => hdisjoint _ hmem _ List.mem_cons_self rfl
    rw [ofList_concat]
    exact (insert_perm hnew).trans ((ih.cons _).trans (List.perm_append_singleton _ _).symm)

/-- Only one order of some members is the key order. -/
theorem Ordered.eq_of_perm {members members' : Members} (h : Ordered members)
    (h' : Ordered members') (hperm : members.Perm members') : members = members' :=
  hperm.eq_of_pairwise (fun _ _ _ _ hlt hgt => absurd hlt (lt_asymm hgt)) h h'

theorem ofList_of_ordered (h : Ordered members) : ofList members = members :=
  (ordered_ofList members).eq_of_perm h (ofList_perm_self h.nodup_keys)

/-- Pairs with different keys may be given in any order. -/
theorem ofList_perm (h : (pairs.map (·.1)).Nodup) (hperm : pairs'.Perm pairs) :
    ofList pairs' = ofList pairs := by
  have hself' := ofList_perm_self ((hperm.map _).nodup_iff.2 h)
  exact (ordered_ofList pairs').eq_of_perm (ordered_ofList pairs)
    (hself'.trans (hperm.trans (ofList_perm_self h).symm))

end WebhookRelay.Json.Members

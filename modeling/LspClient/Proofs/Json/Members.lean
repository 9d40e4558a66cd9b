import LspClient.Json.Value

/-!
# Members in their places

Members with increasing keys are put one behind the other, so an object that has them in
order is built from them unchanged.
-/

namespace LspClient.Json

/-- Whether members are in order is seen from their keys alone. -/
theorem sortedKeys_of_keys {members : List (String × Json)} (keys : List String)
    (own : members.map Prod.fst = keys) (sorted : keys.Pairwise (· < ·)) :
    SortedKeys members := by
  unfold SortedKeys
  rw [own]
  exact sorted

/-- A member whose key is greater than all others comes last. -/
theorem insertMember_of_last {key : String} {members : List (String × Json)}
    (h : ∀ m ∈ members, m.1 < key) (value : Json) :
    insertMember key value members = members ++ [(key, value)] := by
  induction members with
  | nil => rfl
  | cons m members ih =>
    obtain ⟨k, v⟩ := m
    have before : k < key := h (k, v) List.mem_cons_self
    have behind : ¬ key < k := String.lt_asymm before
    have other : key ≠ k := by
      intro same
      rw [same] at before
      exact String.lt_irrefl k before
    rw [insertMember, if_neg behind, if_neg other, ih fun m hm => h m (List.mem_cons_of_mem _ hm)]
    rfl

theorem foldl_insertMember (first : List (String × Json)) {members : List (String × Json)}
    (h : SortedKeys (first ++ members)) :
    members.foldl (fun acc m => insertMember m.1 m.2 acc) first = first ++ members := by
  induction members generalizing first with
  | nil => exact (List.append_nil first).symm
  | cons m members ih =>
    have parts : first ++ m :: members = (first ++ [m]) ++ members := by simp
    have last : ∀ n ∈ first, n.1 < m.1 := by
      intro n hn
      unfold SortedKeys at h
      rw [List.map_append, List.pairwise_append] at h
      exact h.2.2 n.1 (List.mem_map_of_mem hn) m.1 (by simp)
    rw [List.foldl_cons, insertMember_of_last last, parts]
    rw [parts] at h
    exact ih (first ++ [m]) h

/-- Members that are in order make up the object as they are. -/
theorem ofMembers_of_sorted {members : List (String × Json)} (h : SortedKeys members) :
    ofMembers members = .object members := by
  unfold ofMembers
  rw [foldl_insertMember [] h]
  rfl

end LspClient.Json

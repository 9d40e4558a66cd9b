import LspClient.Proofs.Json.RoundTrip

/-!
# Values in order

An object has its members in increasing order of their keys, each key once. `Ordered` says so
of all objects in a value. Putting a member in its place keeps the order
(`sortedKeys_insertMember`), so every object that is built from members has it, and such an
object nests no deeper than its members do (`depth_ofMembers_le`). In an object that is in
order the first member with a key is the only one, `findMember?_of_lt`.

A value without doubles that is in order is `Plain`.
-/

namespace LspClient.Json

/-- A value in which every object has its members in order. -/
inductive Ordered : Json → Prop
  | null : Ordered .null
  | bool (b : Bool) : Ordered (.bool b)
  | number (n : JsonNumber) : Ordered (.number n)
  | string (s : String) : Ordered (.string s)
  | array {items : List Json} (all : ∀ x ∈ items, Ordered x) : Ordered (.array items)
  | object {members : List (String × Json)} (sorted : SortedKeys members)
      (all : ∀ m ∈ members, Ordered m.2) : Ordered (.object members)

/-- A value in which every number is an integer. -/
inductive FloatFree : Json → Prop
  | null : FloatFree .null
  | bool (b : Bool) : FloatFree (.bool b)
  | int (n : Int) (lower : -2 ^ 63 ≤ n) (upper : n < 2 ^ 64) :
      FloatFree (.number (.int n lower upper))
  | string (s : String) : FloatFree (.string s)
  | array {items : List Json} (all : ∀ x ∈ items, FloatFree x) : FloatFree (.array items)
  | object {members : List (String × Json)} (all : ∀ m ∈ members, FloatFree m.2) :
      FloatFree (.object members)

theorem Ordered.plain {v : Json} (ordered : v.Ordered) (whole : v.FloatFree) : v.Plain := by
  induction ordered with
  | null => exact .null
  | bool b => exact .bool b
  | string s => exact .string s
  | number n =>
    cases whole with
    | int n lower upper => exact .int n lower upper
  | array all ih =>
    cases whole with
    | array whole => exact .array fun x hx => ih x hx (whole x hx)
  | object sorted all ih =>
    cases whole with
    | object whole => exact .object sorted fun m hm => ih m hm (whole m hm)

/-! ## Members are put in order -/

/-- Nothing comes into an object but the member that is put there. -/
theorem mem_insertMember {key : String} {value : Json} {members : List (String × Json)}
    {m : String × Json} (h : m ∈ insertMember key value members) :
    m = (key, value) ∨ m ∈ members := by
  induction members with
  | nil => exact .inl (List.mem_singleton.mp h)
  | cons first members ih =>
    obtain ⟨k, v⟩ := first
    unfold insertMember at h
    split at h
    · exact List.mem_cons.mp h
    split at h
    · rcases List.mem_cons.mp h with new | old
      · exact .inl new
      · exact .inr (List.mem_cons_of_mem _ old)
    · rcases List.mem_cons.mp h with same | later
      · exact .inr (same ▸ List.mem_cons_self)
      · rcases ih later with new | old
        · exact .inl new
        · exact .inr (List.mem_cons_of_mem _ old)

theorem sortedKeys_cons_iff {m : String × Json} {members : List (String × Json)} :
    SortedKeys (m :: members) ↔ (∀ n ∈ members, m.1 < n.1) ∧ SortedKeys members := by
  unfold SortedKeys
  rw [List.map_cons, List.pairwise_cons, List.forall_mem_map]

theorem sortedKeys_insertMember (key : String) (value : Json) {members : List (String × Json)}
    (h : SortedKeys members) : SortedKeys (insertMember key value members) := by
  induction members with
  | nil => exact List.pairwise_singleton _ _
  | cons first members ih =>
    obtain ⟨k, v⟩ := first
    obtain ⟨before, sorted⟩ := sortedKeys_cons_iff.mp h
    unfold insertMember
    split
    · next less =>
      refine sortedKeys_cons_iff.mpr ⟨?_, h⟩
      intro n hn
      rcases List.mem_cons.mp hn with rfl | later
      · exact less
      · exact String.lt_trans less (before n later)
    split
    · next same =>
      rw [same]
      exact sortedKeys_cons_iff.mpr ⟨before, sorted⟩
    · next notLess other =>
      have greater : k < key := by
        rw [← String.not_le]
        intro le
        exact other (String.le_antisymm le (String.not_lt.mp notLess))
      refine sortedKeys_cons_iff.mpr ⟨?_, ih sorted⟩
      intro n hn
      rcases mem_insertMember hn with rfl | old
      · exact greater
      · exact before n old

/-- An object that is built from members has them in order, and none but those. -/
theorem exists_ofMembers (members : List (String × Json)) :
    ∃ placed, ofMembers members = .object placed ∧ SortedKeys placed ∧
      ∀ m ∈ placed, m ∈ members := by
  suffices grown : ∀ (members first : List (String × Json)), SortedKeys first →
      SortedKeys (members.foldl (fun acc m => insertMember m.1 m.2 acc) first) ∧
        ∀ m ∈ members.foldl (fun acc m => insertMember m.1 m.2 acc) first,
          m ∈ first ∨ m ∈ members by
    obtain ⟨sorted, own⟩ := grown members [] .nil
    exact ⟨_, rfl, sorted, fun m hm => (own m hm).resolve_left List.not_mem_nil⟩
  intro members
  induction members with
  | nil => exact fun first sorted => ⟨sorted, fun m hm => .inl hm⟩
  | cons m members ih =>
    intro first sorted
    obtain ⟨sorted', own⟩ := ih (insertMember m.1 m.2 first) (sortedKeys_insertMember m.1 m.2 sorted)
    refine ⟨sorted', ?_⟩
    intro n hn
    rcases own n hn with placed | later
    · rcases mem_insertMember placed with rfl | old
      · exact .inr List.mem_cons_self
      · exact .inl old
    · exact .inr (List.mem_cons_of_mem _ later)

theorem ordered_ofMembers {members : List (String × Json)} (h : ∀ m ∈ members, m.2.Ordered) :
    (ofMembers members).Ordered := by
  obtain ⟨placed, built, sorted, own⟩ := exists_ofMembers members
  rw [built]
  exact .object sorted fun m hm => h m (own m hm)

theorem depth_ofMembers_le {members : List (String × Json)} {d : Nat}
    (h : ∀ m ∈ members, m.2.depth ≤ d) : (ofMembers members).depth ≤ d + 1 := by
  obtain ⟨placed, built, -, own⟩ := exists_ofMembers members
  rw [built, depth, Nat.succ_le_succ_iff, membersDepth_le_iff]
  exact fun m hm => h m (own m hm)

/-! ## Looking a member up -/

section

variable {key : String} {value : Json} {members : List (String × Json)}

theorem findMember?_cons_self : findMember? key ((key, value) :: members) = some value := by
  simp [findMember?]

theorem findMember?_cons_of_ne {k : String} (h : k ≠ key) :
    findMember? key ((k, value) :: members) = findMember? key members := by
  simp [findMember?, h]

/-- A key that is less than all others is none of them. -/
theorem findMember?_of_lt (h : ∀ m ∈ members, key < m.1) : findMember? key members = none := by
  simp only [findMember?, Option.map_eq_none_iff, List.find?_eq_none]
  intro m hm same
  have less := h m hm
  rw [of_decide_eq_true same] at less
  exact String.lt_irrefl _ less

theorem mem_of_findMember? (h : findMember? key members = some value) : (key, value) ∈ members := by
  simp only [findMember?, Option.map_eq_some_iff] at h
  obtain ⟨m, found, rfl⟩ := h
  have same : m.1 = key := by simpa using List.find?_some found
  rw [← same]
  exact List.mem_of_find?_eq_some found

theorem Ordered.of_findMember? (ordered : (Json.object members).Ordered)
    (h : findMember? key members = some value) : value.Ordered := by
  cases ordered with
  | object sorted all => exact all _ (mem_of_findMember? h)

end

end LspClient.Json

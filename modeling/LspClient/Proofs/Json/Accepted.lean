import LspClient.Json.Parser
import LspClient.Proofs.Json.Ordered

/-!
# What the reader can give

Whatever the text, a value that was read has its objects in order and nests no deeper than the
reader goes: `Fits`. Blanks, escapes, the order of the members and keys that stand more than once
leave no trace beyond that, since every object is built by `ofMembers`.

A list and an object are read item by item, so a property that the items have is shown for what
was read so far, by induction on the fuel: `forall_listItems`, `forall_objectMembers`.
`gives_value` then is an induction on how deep the reader may still go.
-/

namespace LspClient.Json

/-- A value that has its objects in order and nests at most `d` deep. -/
structure Fits (d : Nat) (v : Json) : Prop where
  ordered : v.Ordered
  shallow : v.depth ≤ d

/-- Whatever a reader reads from an input has a property. -/
def Gives (P : Json → Prop) (read : Bytes → Except Stop (Json × Bytes)) : Prop :=
  ∀ input v rest, read input = .ok (v, rest) → P v

section

variable {P : Json → Prop} {item : Bytes → Except Stop (Json × Bytes)}

/-! ## Items and members -/

/-- If reading gives items with a property only, all items of a list have it. -/
theorem forall_listItems (gives : Gives P item) {fuel : Nat} {done items : List Json}
    {input rest : Bytes} (before : ∀ x ∈ done, P x)
    (h : listItems item fuel done input = .ok (items, rest)) : ∀ x ∈ items, P x := by
  induction fuel generalizing done input with
  | zero => cases h
  | succ fuel ih =>
    rw [listItems] at h
    obtain ⟨⟨x, after⟩, read, h⟩ := bind_eq_ok_iff.mp h
    dsimp only at h
    have all : ∀ y ∈ x :: done, P y := List.forall_mem_cons.mpr ⟨gives _ _ _ read, before⟩
    split at h
    · cases h
    split at h
    · -- the list is closed
      cases h
      intro y hy
      exact all y (List.mem_reverse.mp hy)
    split at h
    · split at h
      · cases h
      split at h
      · cases h
      · exact ih all h
    · cases h

/-- If reading gives values with a property only, all members of an object have it. -/
theorem forall_objectMembers (gives : Gives P item) {fuel : Nat}
    {done members : List (String × Json)} {input rest : Bytes} (before : ∀ m ∈ done, P m.2)
    (h : objectMembers item fuel done input = .ok (members, rest)) : ∀ m ∈ members, P m.2 := by
  induction fuel generalizing done input with
  | zero => cases h
  | succ fuel ih =>
    cases input with
    | nil => cases h
    | cons q input =>
      rw [objectMembers] at h
      split at h
      · obtain ⟨⟨key, afterKey⟩, -, h⟩ := bind_eq_ok_iff.mp h
        obtain ⟨afterColon, -, h⟩ := bind_eq_ok_iff.mp h
        obtain ⟨⟨x, after⟩, read, h⟩ := bind_eq_ok_iff.mp h
        dsimp only at h
        have all : ∀ m ∈ (key, x) :: done, P m.2 :=
          List.forall_mem_cons.mpr ⟨gives _ _ _ read, before⟩
        split at h
        · cases h
        split at h
        · -- the object is closed
          cases h
          intro m hm
          exact all m (List.mem_reverse.mp hm)
        split at h
        · split at h
          · cases h
          split at h
          · cases h
          · exact ih all h
        · cases h
      · cases h

end

section

variable {d : Nat} {item : Bytes → Except Stop (Json × Bytes)}

/-! ## Lists and objects -/

theorem fits_array {items : List Json} (h : ∀ x ∈ items, x.Fits d) :
    (Json.array items).Fits (d + 1) where
  ordered := .array fun x hx => (h x hx).ordered
  shallow := by
    rw [depth, Nat.succ_le_succ_iff, itemsDepth_le_iff]
    exact fun x hx => (h x hx).shallow

theorem fits_ofMembers {members : List (String × Json)} (h : ∀ m ∈ members, m.2.Fits d) :
    (ofMembers members).Fits (d + 1) where
  ordered := ordered_ofMembers fun m hm => (h m hm).ordered
  shallow := depth_ofMembers_le fun m hm => (h m hm).shallow

theorem gives_listBody (gives : Gives (Fits d) item) : Gives (Fits (d + 1)) (listBody item) := by
  intro input v rest h
  unfold listBody at h
  split at h
  · cases h
  split at h
  · cases h
    exact fits_array (List.forall_mem_nil _)
  · obtain ⟨⟨items, after⟩, read, h⟩ := bind_eq_ok_iff.mp h
    cases h
    exact fits_array (forall_listItems gives (List.forall_mem_nil _) read)

theorem gives_objectBody (gives : Gives (Fits d) item) :
    Gives (Fits (d + 1)) (objectBody item) := by
  intro input v rest h
  unfold objectBody at h
  split at h
  · cases h
  split at h
  · cases h
    exact fits_ofMembers (List.forall_mem_nil _)
  · obtain ⟨⟨members, after⟩, read, h⟩ := bind_eq_ok_iff.mp h
    cases h
    exact fits_ofMembers (forall_objectMembers gives (List.forall_mem_nil _) read)

end

/-! ## Values -/

section

variable {d : Nat} {list object : Bytes → Except Stop (Json × Bytes)}

/-- What is no list and no object is in order, and nests not at all. -/
theorem gives_valueWith (lists : Gives (Fits d) list) (objects : Gives (Fits d) object) :
    Gives (Fits d) (valueWith list object) := by
  intro input v rest h
  unfold valueWith at h
  split at h
  · cases h
  split at h
  · exact objects _ _ _ h
  split at h
  · exact lists _ _ _ h
  split at h
  · obtain ⟨⟨s, after⟩, -, h⟩ := bind_eq_ok_iff.mp h
    cases h
    exact ⟨.string s, Nat.zero_le d⟩
  split at h
  · obtain ⟨⟨n, after⟩, -, h⟩ := bind_eq_ok_iff.mp h
    cases h
    exact ⟨.number n, Nat.zero_le d⟩
  split at h
  · obtain ⟨⟨n, after⟩, -, h⟩ := bind_eq_ok_iff.mp h
    cases h
    exact ⟨.number n, Nat.zero_le d⟩
  split at h
  · obtain ⟨after, -, h⟩ := bind_eq_ok_iff.mp h
    cases h
    exact ⟨.null, Nat.zero_le d⟩
  split at h
  · obtain ⟨after, -, h⟩ := bind_eq_ok_iff.mp h
    cases h
    exact ⟨.bool true, Nat.zero_le d⟩
  split at h
  · obtain ⟨after, -, h⟩ := bind_eq_ok_iff.mp h
    cases h
    exact ⟨.bool false, Nat.zero_le d⟩
  · cases h

end

theorem gives_value (d : Nat) : Gives (Fits d) (value d) := by
  induction d with
  | zero =>
    -- lists and objects are refused, so only values without levels are left
    have refused : Gives (Fits 0) fun at_ => .error (.atNext .tooDeep at_) := by
      intro input v rest h
      cases h
    exact gives_valueWith refused refused
  | succ d ih =>
    have lists : Gives (Fits (d + 1)) fun at_ => listBody (value d) at_.tail :=
      fun at_ => gives_listBody ih at_.tail
    have objects : Gives (Fits (d + 1)) fun at_ => objectBody (value d) at_.tail :=
      fun at_ => gives_objectBody ih at_.tail
    exact gives_valueWith lists objects

/-- A parsed value has its objects in order and nests no deeper than the reader goes. -/
theorem fits_of_parse {input : Bytes} {v : Json} (h : parse input = .ok v) : v.Fits maxDepth := by
  unfold parse at h
  split at h
  · next read =>
    cases h
    unfold document at read
    obtain ⟨⟨x, rest⟩, given, read⟩ := bind_eq_ok_iff.mp read
    dsimp only at read
    split at read
    · cases read
      exact gives_value maxDepth _ _ _ given
    · cases read
  · cases h

/-! ## The parts of a value that fits -/

section

variable {d : Nat} {v : Json}

theorem Fits.of_mem {items : List Json} (fits : (Json.array items).Fits d) (h : v ∈ items) :
    v.Fits (d - 1) where
  ordered := by
    cases fits.ordered with
    | array all => exact all v h
  shallow := by
    have deepest : v.depth ≤ itemsDepth items := itemsDepth_le_iff.mp (Nat.le_refl _) v h
    have shallow := fits.shallow
    rw [depth] at shallow
    omega

theorem Fits.of_findMember? {key : String} {members : List (String × Json)}
    (fits : (Json.object members).Fits d) (h : findMember? key members = some v) :
    v.Fits (d - 1) where
  ordered := fits.ordered.of_findMember? h
  shallow := by
    have deepest : v.depth ≤ membersDepth members :=
      membersDepth_le_iff.mp (Nat.le_refl _) _ (mem_of_findMember? h)
    have shallow := fits.shallow
    rw [depth] at shallow
    omega

end

end LspClient.Json

import LspClient.Json.Printer
import LspClient.Proofs.Decimal.Natural

/-!
# The text of a value is one line

Whatever a value holds, no control character stands in its text as it is: strings have
them escaped, and nothing else in the text could be one (`Json.visible_text`). So the text
has no line end in it, and a value that is printed on a line of its own stays on it.
-/

namespace LspClient

namespace Json

/-- Whether a character is no control character. -/
def IsVisible (c : Char) : Prop := 0x20 ≤ c.toNat

instance (c : Char) : Decidable (IsVisible c) := inferInstanceAs (Decidable (_ ≤ _))

/-- Whether a text has no control character. -/
def Visible (text : List Char) : Prop := ∀ c ∈ text, IsVisible c

instance (text : List Char) : Decidable (Visible text) := List.decidableBAll IsVisible text

theorem Visible.append {first second : List Char} (h : Visible first) (h' : Visible second) :
    Visible (first ++ second) := List.forall_mem_append.mpr ⟨h, h'⟩

theorem Visible.cons {c : Char} {text : List Char} (h : IsVisible c) (h' : Visible text) :
    Visible (c :: text) := List.forall_mem_cons.mpr ⟨h, h'⟩

/-! ## Strings -/

theorem visible_hexPair : ∀ n < 0x20, Visible (hexPair n) := by decide

theorem visible_escapeChar (c : Char) : Visible (escapeChar c) := by
  unfold escapeChar
  -- the seven short escapes, then the long one, then the character itself
  split
  · decide
  split
  · decide
  split
  · decide
  split
  · decide
  split
  · decide
  split
  · decide
  split
  · decide
  split
  · next control =>
    exact .cons (by decide) (.cons (by decide) (.cons (by decide) (.cons (by decide)
      (visible_hexPair _ control))))
  · next visible => exact .cons (Nat.le_of_not_lt visible) nofun

theorem visible_stringText (s : String) : Visible (stringText s) := by
  unfold stringText
  refine .cons (by decide) (.append (fun c member => ?_) (by decide))
  obtain ⟨d, -, escaped⟩ := List.mem_flatMap.mp member
  exact visible_escapeChar d c escaped

/-! ## Numbers -/

theorem visible_digits (n : Nat) : Visible (Nat.toDigits 10 n) := fun _ member =>
  Nat.le_trans (by decide) (Decimal.isDigit_range (Decimal.isDigit_of_mem_toDigits member)).1

theorem visible_zeros (n : Nat) : Visible (List.replicate n '0') := by
  intro c member
  rw [List.eq_of_mem_replicate member]
  decide

theorem visible_positional (s : Decimal.Scientific) : Visible s.positional := by
  unfold Decimal.Scientific.positional
  have digits := visible_digits s.digits
  dsimp only
  split
  · exact (digits.append (visible_zeros _)).append (by decide)
  · split
    · exact .append (fun c member => digits c (List.mem_of_mem_take member))
        (.cons (by decide) fun c member => digits c (List.mem_of_mem_drop member))
    · exact .cons (by decide) (.cons (by decide) ((visible_zeros _).append digits))

theorem visible_withExponent (s : Decimal.Scientific) : Visible s.withExponent := by
  unfold Decimal.Scientific.withExponent
  have digits := visible_digits s.digits
  dsimp only
  refine .append ?_ (.cons (by decide) (.cons ?_ (visible_digits _)))
  · split
    · exact nofun
    · next same =>
      rw [same] at digits
      exact digits
    · next same =>
      rw [same] at digits
      obtain ⟨lead, more⟩ := List.forall_mem_cons.mp digits
      exact .cons lead (.cons (by decide) more)
  · split <;> decide

theorem visible_numberText (n : JsonNumber) : Visible (numberText n) := by
  cases n with
  | int n =>
    show Visible (intText n)
    unfold intText
    split
    · exact .cons (by decide) (visible_digits _)
    · exact visible_digits _
  | float x =>
    show Visible (Decimal.floatText floatStyle x)
    have magnitude (s : Decimal.Scientific) : Visible (s.text floatStyle) := by
      unfold Decimal.Scientific.text
      split
      · exact visible_positional s
      · exact visible_withExponent s
    unfold Decimal.floatText
    dsimp only
    split
    · exact .cons (by decide) (magnitude _)
    · exact magnitude _

/-! ## Any value -/

mutual

/-- The text of a value has no control character, so it is one line. -/
theorem visible_text : ∀ value : Json, Visible value.text
  | .null | .bool true | .bool false | .array [] | .object [] => by
    unfold text
    decide
  | .number n => by
    unfold text
    exact visible_numberText n
  | .string s => by
    unfold text
    exact visible_stringText s
  | .array (x :: xs) => by
    unfold text
    exact .cons (by decide) ((visible_text x).append (visible_itemsText xs))
  | .object ((k, v) :: ms) => by
    unfold text
    exact .cons (by decide) ((visible_stringText k).append
      (.cons (by decide) ((visible_text v).append (visible_membersText ms))))

theorem visible_itemsText : ∀ items : List Json, Visible (itemsText items)
  | [] => by
    unfold itemsText
    decide
  | x :: xs => by
    unfold itemsText
    exact .cons (by decide) ((visible_text x).append (visible_itemsText xs))

theorem visible_membersText : ∀ members : List (String × Json), Visible (membersText members)
  | [] => by
    unfold membersText
    decide
  | (k, v) :: ms => by
    unfold membersText
    exact .cons (by decide) ((visible_stringText k).append
      (.cons (by decide) ((visible_text v).append (visible_membersText ms))))

end

end Json

end LspClient

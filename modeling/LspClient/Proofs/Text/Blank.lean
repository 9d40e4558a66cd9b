import LspClient.Text.Blank
import Mathlib.Data.List.TakeWhile

/-!
# What is left when the ends of a text are taken off

`dropEnd` takes nothing from a text whose last character stays, and takes all of what is
appended to it; `trim` likewise at both ends. What is taken is what stood at the end
(`exists_dropEnd`), and an item that stays keeps all before it (`dropEnd_append_cons`).
-/

namespace LspClient.Text

variable {p : α → Bool}

/-- Only the items of `ends` are dropped from a text that has no more of them. -/
theorem dropEnd_append {text ends : List α} (h : ∀ a ∈ ends, p a = true) :
    dropEnd p (text ++ ends) = dropEnd p text := by
  unfold dropEnd
  rw [List.reverse_append, List.dropWhile_append_of_pos]
  intro a ha
  exact h a (List.mem_reverse.mp ha)

/-- Nothing is dropped from a text whose last item stays. -/
theorem dropEnd_eq_self {text : List α} (h : ∀ a, text.getLast? = some a → p a = false) :
    dropEnd p text = text := by
  unfold dropEnd
  have stays : text.reverse.dropWhile p = text.reverse := by
    cases all : text.reverse with
    | nil => rfl
    | cons a rest =>
      have last : text.getLast? = some a := by rw [← List.head?_reverse, all, List.head?_cons]
      rw [List.dropWhile_cons, h a last]
      rfl
  rw [stays, List.reverse_reverse]

/-- Nothing is left exactly if all items are dropped. -/
theorem dropEnd_eq_nil_iff {text : List α} : dropEnd p text = [] ↔ ∀ a ∈ text, p a = true := by
  unfold dropEnd
  rw [List.reverse_eq_nil_iff, List.dropWhile_eq_nil_iff]
  simp only [List.mem_reverse]

/-- What is dropped stood at the end. -/
theorem exists_dropEnd (p : α → Bool) (text : List α) :
    ∃ ends, text = dropEnd p text ++ ends ∧ ∀ a ∈ ends, p a = true := by
  refine ⟨(text.reverse.takeWhile p).reverse, ?_, ?_⟩
  · unfold dropEnd
    rw [← List.reverse_append, List.takeWhile_append_dropWhile, List.reverse_reverse]
  · intro a ha
    exact List.mem_takeWhile_imp (List.mem_reverse.mp ha)

/-- Nothing is dropped before an item that stays. -/
theorem dropEnd_append_cons {a : α} (h : p a = false) (front back : List α) :
    dropEnd p (front ++ a :: back) = front ++ a :: dropEnd p back := by
  have parts : (front ++ a :: back).reverse = back.reverse ++ a :: front.reverse := by simp
  have stays : (a :: front.reverse).dropWhile p = a :: front.reverse := by
    rw [List.dropWhile_cons, h]
    rfl
  unfold dropEnd
  rw [parts, List.dropWhile_append, stays]
  split
  · next none => simp [List.isEmpty_iff.mp none]
  · simp

/-- A text without blanks is trimmed to itself. -/
theorem trim_eq_self {text : List Char} (h : ∀ c ∈ text, isBlank c = false) :
    trim text = text := by
  unfold trim
  have front : text.dropWhile isBlank = text := by
    cases text with
    | nil => rfl
    | cons c rest =>
      rw [List.dropWhile_cons, h c List.mem_cons_self]
      rfl
  rw [front]
  exact dropEnd_eq_self fun c last => h c (List.mem_of_getLast? last)

/-- A blank in front does not matter. -/
theorem trim_cons {c : Char} (h : isBlank c = true) (text : List Char) :
    trim (c :: text) = trim text := by
  unfold trim
  rw [List.dropWhile_cons, if_pos h]

/-- Blanks at the end do not matter. -/
theorem trim_append {ends : List Char} (h : ∀ c ∈ ends, isBlank c = true) (text : List Char) :
    trim (text ++ ends) = trim text := by
  unfold trim
  rw [List.dropWhile_append]
  split
  · next none =>
    rw [List.isEmpty_iff.mp none, List.dropWhile_eq_nil_iff.mpr h]
  · rw [dropEnd_append h]

end LspClient.Text

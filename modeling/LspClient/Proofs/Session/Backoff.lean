import Mathlib.Algebra.Order.Monoid.Unbundled.MinMax
import Mathlib.Algebra.Order.Ring.Nat
import LspClient.Settings

/-!
# The law of the delays

The delay before a retry is the base, doubled for every retry after the first, up to the
longest delay (`Settings.doubled`). `Settings.backoffDelay` doubles 32 times at most. Up to
there it follows the law, and so it does beyond if the longest delay is reached by then, or
if there is nothing to double; in no other case does it (`Settings.backs_off`). With a longest
delay that is out of reach of 32 doublings it stops growing early
(`Settings.stops_doubling`).

`Settings.delayWord` computes the delay in words of 64 bits, in which a shift and a product
could overflow; neither does.
-/

namespace LspClient.Settings

/-- The delay that doubles with every retry until it reaches the longest delay. -/
def doubled (settings : Settings) (retry : Nat) : Nat :=
  min (settings.backoffBase.toNat * 2 ^ (retry - 1)) settings.backoffMax.toNat

/-- The product of two words, or the greatest word if it is not one. -/
def saturatingMul (a b : UInt64) : UInt64 :=
  if a.toNat * b.toNat < 2 ^ 64 then a * b else .ofNat (2 ^ 64 - 1)

/-- The delay before a retry, computed in words. -/
def delayWord (settings : Settings) (retry : UInt32) : UInt64 :=
  let doublings : UInt32 := if retry = 0 then 0 else min (retry - 1) 32
  let factor : UInt64 := 1 <<< doublings.toUInt64
  min (saturatingMul settings.backoffBase factor) settings.backoffMax

variable (settings : Settings) {retry later : Nat}

/-! ## The delay as a number -/

/-- A product that is too long for a word is longer than the longest delay. -/
theorem backoffDelay_eq (retry : Nat) : settings.backoffDelay retry =
    min (settings.backoffBase.toNat * 2 ^ min (retry - 1) maxDoublings)
      settings.backoffMax.toNat := by
  have bound : settings.backoffMax.toNat ≤ 2 ^ 64 - 1 := by
    have := settings.backoffMax.toNat_lt
    omega
  show min (min _ (2 ^ 64 - 1)) settings.backoffMax.toNat = _
  rw [Nat.min_assoc, Nat.min_eq_right bound]

theorem backoffDelay_mono (h : retry ≤ later) :
    settings.backoffDelay retry ≤ settings.backoffDelay later := by
  have fewer : min (retry - 1) maxDoublings ≤ min (later - 1) maxDoublings :=
    min_le_min_right _ (Nat.sub_le_sub_right h 1)
  rw [backoffDelay_eq, backoffDelay_eq]
  exact min_le_min_right _ (Nat.mul_le_mul_left _ (Nat.pow_le_pow_right Nat.two_pos fewer))

/-- As long as there are doublings left, each retry doubles the delay. -/
theorem backoffDelay_succ (first : 1 ≤ retry) (last : retry ≤ maxDoublings) :
    settings.backoffDelay (retry + 1) =
      min (2 * settings.backoffDelay retry) settings.backoffMax.toNat := by
  obtain ⟨n, rfl⟩ : ∃ n, retry = n + 1 := ⟨retry - 1, by omega⟩
  have now : min (n + 1 - 1) maxDoublings = n := by omega
  have next : min (n + 1 + 1 - 1) maxDoublings = n + 1 := by omega
  rw [backoffDelay_eq, backoffDelay_eq, now, next, Nat.pow_succ]
  -- twice a delay that was cut is beyond the longest one
  have twice : settings.backoffBase.toNat * (2 ^ n * 2) =
      2 * (settings.backoffBase.toNat * 2 ^ n) := by
    rw [← Nat.mul_assoc, Nat.mul_comm]
  rw [twice]
  omega

/-- After the last doubling the delay stays. -/
theorem backoffDelay_succ_of_lt (beyond : maxDoublings < retry) :
    settings.backoffDelay (retry + 1) = settings.backoffDelay retry := by
  have same : min (retry + 1 - 1) maxDoublings = min (retry - 1) maxDoublings := by omega
  rw [backoffDelay_eq, backoffDelay_eq, same]

/-- The delay follows the law as long as there are doublings left, and beyond that exactly if
there is nothing to double or the longest delay is reached. -/
theorem backoffDelay_eq_doubled_iff (retry : Nat) :
    settings.backoffDelay retry = settings.doubled retry ↔ retry ≤ maxDoublings + 1 ∨
      settings.backoffBase = 0 ∨
      settings.backoffMax.toNat ≤ settings.backoffBase.toNat * 2 ^ maxDoublings := by
  rw [backoffDelay_eq]
  unfold doubled
  by_cases early : retry ≤ maxDoublings + 1
  · have all : min (retry - 1) maxDoublings = retry - 1 := by omega
    rw [all]
    exact iff_of_true rfl (.inl early)
  · have cut : min (retry - 1) maxDoublings = maxDoublings := by omega
    rw [cut, or_iff_right early]
    have grows : 2 ^ maxDoublings < 2 ^ (retry - 1) :=
      Nat.pow_lt_pow_right Nat.one_lt_two (by omega)
    constructor
    · intro same
      by_contra both
      rw [not_or] at both
      -- the doubled base is strictly longer, and the longest delay is beyond the cut one
      have base : 0 < settings.backoffBase.toNat := by
        refine Nat.pos_of_ne_zero fun zero => both.1 ?_
        exact UInt64.toNat_inj.mp zero
      have longer := Nat.mul_lt_mul_of_pos_left grows base
      omega
    · rintro (zero | reached)
      · rw [zero]
        show min (0 * _) _ = min (0 * _) _
        rw [Nat.zero_mul, Nat.zero_mul]
      · have longer := Nat.mul_le_mul_left settings.backoffBase.toNat grows.le
        omega

/-! ## The delay as a word -/

theorem toNat_saturatingMul (a b : UInt64) :
    (saturatingMul a b).toNat = min (a.toNat * b.toNat) (2 ^ 64 - 1) := by
  unfold saturatingMul
  split
  · next fits =>
    rw [UInt64.toNat_mul, Nat.mod_eq_of_lt fits]
    omega
  · next long =>
    rw [UInt64.toNat_ofNat_of_lt' (by decide)]
    omega

/-- A shift by so few places loses nothing. -/
theorem toNat_shiftLeft_one {places : UInt64} (few : places.toNat ≤ maxDoublings) :
    ((1 : UInt64) <<< places).toNat = 2 ^ places.toNat := by
  have less : places.toNat < 64 := Nat.lt_of_le_of_lt few (by decide)
  have fits : 2 ^ places.toNat < 2 ^ 64 := Nat.pow_lt_pow_right Nat.one_lt_two less
  rw [UInt64.toNat_shiftLeft, Nat.mod_eq_of_lt less, Nat.shiftLeft_eq]
  show 1 * _ % _ = _
  rw [Nat.one_mul, Nat.mod_eq_of_lt fits]

theorem toNat_min_word (a b : UInt64) : (min a b).toNat = min a.toNat b.toNat := by
  show (if a ≤ b then a else b).toNat = _
  split
  · next le => exact (Nat.min_eq_left (UInt64.le_iff_toNat_le.mp le)).symm
  · next lt =>
    rw [UInt64.le_iff_toNat_le] at lt
    exact (Nat.min_eq_right (Nat.le_of_not_le lt)).symm

/-- In words the delay is the same. -/
theorem toNat_delayWord (retry : UInt32) :
    (settings.delayWord retry).toNat = settings.backoffDelay retry.toNat := by
  have doublings : (if retry = 0 then 0 else min (retry - 1) 32 : UInt32).toUInt64.toNat =
      min (retry.toNat - 1) maxDoublings := by
    rw [UInt32.toNat_toUInt64]
    split
    · next zero =>
      rw [zero]
      rfl
    · next some =>
      have positive : 1 ≤ retry := by
        rw [UInt32.le_iff_toNat_le]
        exact Nat.one_le_iff_ne_zero.mpr fun zero => some (UInt32.toNat_inj.mp zero)
      have less : (retry - 1).toNat = retry.toNat - 1 := UInt32.toNat_sub_of_le _ _ positive
      show (if retry - 1 ≤ 32 then retry - 1 else 32 : UInt32).toNat = min (retry.toNat - 1) 32
      rw [← less]
      split
      · next le => exact (Nat.min_eq_left (UInt32.le_iff_toNat_le.mp le)).symm
      · next lt =>
        rw [UInt32.le_iff_toNat_le] at lt
        exact (Nat.min_eq_right (Nat.le_of_not_le lt)).symm
  have factor := toNat_shiftLeft_one (doublings.trans_le (Nat.min_le_right ..))
  rw [doublings] at factor
  unfold delayWord
  dsimp only
  rw [toNat_min_word, toNat_saturatingMul, factor]
  rfl

/-! ## The law -/

/-- How far the delays of these settings follow the law. -/
structure BacksOff (settings : Settings) : Prop where
  /-- Neither the shift nor the product overflows: words give the number. -/
  words : ∀ retry : UInt32, (settings.delayWord retry).toNat = settings.backoffDelay retry.toNat
  /-- It is the law for so many doublings and no more. -/
  value : ∀ retry, settings.backoffDelay retry =
    min (settings.backoffBase.toNat * 2 ^ min (retry - 1) maxDoublings) settings.backoffMax.toNat
  grows : ∀ retry later, retry ≤ later →
    settings.backoffDelay retry ≤ settings.backoffDelay later
  doubles : ∀ retry, 1 ≤ retry → retry ≤ maxDoublings → settings.backoffDelay (retry + 1) =
    min (2 * settings.backoffDelay retry) settings.backoffMax.toNat
  stays : ∀ retry, maxDoublings < retry →
    settings.backoffDelay (retry + 1) = settings.backoffDelay retry
  lawful : ∀ retry, settings.backoffDelay retry = settings.doubled retry ↔
    retry ≤ maxDoublings + 1 ∨ settings.backoffBase = 0 ∨
      settings.backoffMax.toNat ≤ settings.backoffBase.toNat * 2 ^ maxDoublings

/-- **The delays double until the longest one is reached, but no more than 32 times.** For all
settings and every retry the delay is that of the law, except after more than 32 doublings of
a base that have not reached the longest delay. -/
theorem backs_off (settings : Settings) : settings.BacksOff where
  words := settings.toNat_delayWord
  value := settings.backoffDelay_eq
  grows _ _ := settings.backoffDelay_mono
  doubles _ := settings.backoffDelay_succ
  stays _ := settings.backoffDelay_succ_of_lt
  lawful := settings.backoffDelay_eq_doubled_iff

/-- With a base of one and a longest delay of 2^40 milliseconds, the retry after the
32nd doubling should wait for twice as long as the one before, and waits as long. -/
theorem stops_doubling :
    let settings : Settings := { backoffBase := 1, backoffMax := 1099511627776 }
    settings.doubled 34 = 2 ^ 33 ∧ settings.backoffDelay 34 = 2 ^ 32 := by
  decide

end LspClient.Settings

import SearchKit.Number.Binary64
import Mathlib.Data.Nat.Log
import Mathlib.Tactic.Common

/-!
# The range of binary64 numbers

The greatest finite number is `2 ^ 1024 - 2 ^ 971`, and the next number of its width would be
`2 ^ 1024`.  Half way between the two, at `2 ^ 1024 - 2 ^ 970`, a tie goes to the even significand,
which is that of the greater one.  So rounding leaves the range from there on: above by the
exponent alone, and between by the significand, which rounds to a full width and one.

* `Binary64.halfAbove`, `Binary64.rangeBound` : the half between the two.
* `Binary64.roundDiv_eq_succ_iff` : rounding reaches an even number from the half before it on.
* `Binary64.exists_round_eq_infinite_iff_of_eq` : an integer that rounds to an infinity.
* `Binary64.ofInt?_eq_none_iff` : **the range**, as the integers that have a nearest number.
-/

namespace SearchKit.Binary64

/-- The half between a number whose significand is all ones and the next one of its width, from the
exponent of half a unit. -/
def halfAbove (half : Nat) : Nat := (Nat.pow 2 54 - 1) * Nat.pow 2 half

/-- The half between the greatest number and the next one of its width, `2 ^ 1024 - 2 ^ 970`. -/
def rangeBound : Nat := halfAbove 970

theorem floorLog_one {num : Nat} (h : num ≠ 0) : floorLog num 1 = Nat.log2 num := by
  have hle : 2 ^ Nat.log2 num ≤ num := Nat.log2_self_le h
  have hone : Nat.log2 1 = 0 := by decide
  simp [floorLog, hone, Nat.not_lt.2 hle]

/-- Below a whole number that is even, rounding reaches it from the half before it on. -/
theorem roundDiv_eq_succ_iff {num den q : Nat} (hden : 0 < den) (hodd : q % 2 = 1)
    (hq : num / den ≤ q) : roundDiv num den = q + 1 ↔ (2 * q + 1) * den ≤ 2 * num := by
  have hdiv := Nat.div_add_mod num den
  have hmod := Nat.mod_lt num hden
  unfold roundDiv
  rcases Nat.lt_or_eq_of_le hq with hless | rfl
  · have hbelow : den * (num / den + 1) ≤ den * q := Nat.mul_le_mul_left den hless
    rw [Nat.mul_add, Nat.mul_one] at hbelow
    have hfar : ¬ (2 * q + 1) * den ≤ 2 * num := by
      rw [Nat.add_mul, Nat.one_mul, Nat.mul_assoc, Nat.mul_comm q]
      omega
    simp only [hfar, iff_false]
    split
    · omega
    · split <;> omega
  · have hhalf : (2 * (num / den) + 1) * den ≤ 2 * num ↔ den ≤ 2 * (num % den) := by
      rw [Nat.add_mul, Nat.one_mul, Nat.mul_assoc, Nat.mul_comm (num / den)]
      omega
    rw [hhalf]
    dsimp only
    split
    · omega
    · split <;> omega

/-- What `round` ends in is an infinity when its exponent is too great, or becomes so because the
significand is a full width and one. -/
theorem exists_assembled_eq_infinite_iff {negative : Bool} {q : Nat} {e : Int} :
    (∃ s, (match if q = Nat.pow 2 53 then (Nat.pow 2 52, e + 1) else (q, e) with
      | (m, e) => if maxExponent < e then infinite negative else
        if m = 0 then zero negative else finite negative m e) = infinite s) ↔
      971 < e ∨ e = 971 ∧ q = Nat.pow 2 53 := by
  have hassembled : ∀ (m : Nat) (e : Int), (∃ s, (if maxExponent < e then infinite negative else
      if m = 0 then zero negative else finite negative m e) = infinite s) ↔ 971 < e := by
    intro m e
    rw [maxExponent]
    split
    · simp_all
    · split <;> simp_all [zero]
  split
  next m' e' h =>
    rw [hassembled]
    split at h
    · next hq => cases h; omega
    · next hq => cases h; omega

/-- An integer rounds to an infinity from the half between the greatest number and the next one on.
The exponent of half a unit there is a variable, since the powers of two are too great to compute
with. -/
theorem exists_round_eq_infinite_iff_of_eq {negative : Bool} {num half : Nat} (hhalf : half = 970) :
    (∃ s, round negative num 1 = infinite s) ↔ halfAbove half ≤ num := by
  rw [halfAbove]
  have hpow : ∀ k, Nat.pow 2 (k + half) = Nat.pow 2 k * Nat.pow 2 half := fun k =>
    Nat.pow_add 2 k half
  have hunit : 0 < Nat.pow 2 half := Nat.pow_pos Nat.two_pos
  generalize hdef : Nat.pow 2 half = unit at hpow hunit ⊢
  by_cases hzero : num = 0
  · have hless : ¬ (Nat.pow 2 54 - 1) * unit ≤ num := by
      simp only [Nat.pow_eq]
      omega
    exact iff_of_false (by simp [round, zero, hzero]) hless
  have hlow : Nat.pow 2 (Nat.log2 num) ≤ num := Nat.log2_self_le hzero
  have hhigh : num < Nat.pow 2 (Nat.log2 num + 1) := Nat.lt_log2_self
  have hmono : ∀ {j k}, j ≤ k → Nat.pow 2 j ≤ Nat.pow 2 k := Nat.pow_le_pow_right Nat.two_pos
  have hmax : max ((Nat.log2 num : Int) - 52) minExponent = Nat.log2 num - 52 := by
    rw [minExponent]
    omega
  rw [round, if_neg hzero, floorLog_one hzero, hmax]
  dsimp only
  rw [exists_assembled_eq_infinite_iff]
  -- the bound lies just below a power of two, so that most integers are settled by their length
  rcases Nat.lt_trichotomy (Nat.log2 num) (53 + half) with hless | heq | hgreater
  · have hbelow : num < Nat.pow 2 53 * unit := by
      rw [← hpow]
      exact hhigh.trans_le (hmono hless)
    simp only [Nat.pow_eq] at hbelow ⊢
    omega
  · -- only the significand decides: it may round to the next power of two
    have hbelow : num < Nat.pow 2 54 * unit := by
      rw [← hpow, show 54 + half = Nat.log2 num + 1 by omega]
      exact hhigh
    have hquotient : num / (2 * unit) ≤ Nat.pow 2 53 - 1 := by
      refine Nat.le_sub_one_of_lt (Nat.div_lt_of_lt_mul ?_)
      simp only [Nat.pow_eq] at hbelow ⊢
      omega
    have hrounded := roundDiv_eq_succ_iff (Nat.mul_pos Nat.two_pos hunit) (by decide) hquotient
    have hexponent : (Nat.log2 num : Int) - 52 = (1 + half : Nat) := by omega
    have hwidth : Nat.pow 2 (1 + half) = 2 * unit := hpow 1
    have hdouble : (2 * (Nat.pow 2 53 - 1) + 1) * (2 * unit) = 2 * ((Nat.pow 2 54 - 1) * unit) := by
      rw [show 2 * (Nat.pow 2 53 - 1) + 1 = Nat.pow 2 54 - 1 by decide, Nat.mul_left_comm]
    rw [show Nat.pow 2 53 - 1 + 1 = Nat.pow 2 53 from rfl, hdouble] at hrounded
    rw [hexponent, if_pos (Int.natCast_nonneg _), Int.toNat_natCast, Nat.one_mul, hwidth, hrounded,
      Nat.mul_le_mul_left_iff Nat.two_pos, hhalf]
    simp
  · have habove : Nat.pow 2 54 * unit ≤ num := by
      rw [← hpow]
      exact (hmono (by omega)).trans hlow
    simp only [Nat.pow_eq] at habove ⊢
    omega

/-- **The range.**  An integer has no nearest number exactly if its distance from zero reaches the
bound. -/
theorem ofInt?_eq_none_iff {n : Int} : ofInt? n = none ↔ rangeBound ≤ n.natAbs := by
  have hround : ofInt? n = none ↔ ∃ s, round (decide (n < 0)) n.natAbs 1 = infinite s := by
    rw [ofInt?]
    cases round (decide (n < 0)) n.natAbs 1 <;> simp
  exact hround.trans (exists_round_eq_infinite_iff_of_eq rfl)

end SearchKit.Binary64

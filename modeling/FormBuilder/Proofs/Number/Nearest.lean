import FormBuilder.Proofs.Number.Rounding
import Mathlib.Algebra.Order.Field.Basic
import Mathlib.Algebra.Order.Field.Power
import Mathlib.Data.Rat.Cast.Order
import Mathlib.Tactic.FieldSimp
import Mathlib.Tactic.Linarith
import Mathlib.Tactic.NormNum
import Mathlib.Tactic.Positivity
import Mathlib.Tactic.Ring

/-!
Rounding is to nearest.  `Magnitude.place` is where a value is rounded to, and no place is nearer
to the value: `abs_sub_place_le`.  All else that is said of rounding here follows from this.  It
keeps the order of values, `place_mono`, and what is close to a magnitude is rounded to it,
`place_eq_of_close`.
-/

namespace FormBuilder
namespace Magnitude

/-! ## Places -/

/-- The units at a place, as if there was no largest magnitude. -/
def unitsAt (p : Nat) : Nat :=
  if p / binadeSize = 0 then p % binadeSize
  else (binadeSize + p % binadeSize) * Nat.pow 2 (p / binadeSize - 1)

theorem units_eq_unitsAt (m : Magnitude) : m.units = unitsAt m.position.val := rfl

/-- The significand may be the one that carries into the next exponent. -/
theorem unitsAt_add {e r : Nat} (hr : r ≤ 2 ^ 53) (he : e ≠ 0 → 2 ^ 52 ≤ r) :
    unitsAt (e * binadeSize + r) = r * 2 ^ e := by
  have hsize : binadeSize = 2 ^ 52 := rfl
  rw [unitsAt, hsize]
  rcases Nat.lt_or_ge r (2 ^ 52) with hlow | hlow
  · obtain rfl : e = 0 := by
      by_contra hne
      exact Nat.not_lt.mpr (he hne) hlow
    rw [Nat.zero_mul, Nat.zero_add, if_pos (Nat.div_eq_of_lt hlow), Nat.mod_eq_of_lt hlow,
      Nat.pow_zero, Nat.mul_one]
  rcases Nat.lt_or_ge r (2 ^ 53) with hhigh | hhigh
  · have hdiv : (e * 2 ^ 52 + r) / 2 ^ 52 = e + 1 := by omega
    have hmod : 2 ^ 52 + (e * 2 ^ 52 + r) % 2 ^ 52 = r := by omega
    rw [hdiv, hmod, if_neg (Nat.succ_ne_zero e), Nat.add_sub_cancel]
    rfl
  · obtain rfl : r = 2 ^ 53 := Nat.le_antisymm hr hhigh
    have hdiv : (e * 2 ^ 52 + 2 ^ 53) / 2 ^ 52 = e + 2 := by omega
    have hmod : 2 ^ 52 + (e * 2 ^ 52 + 2 ^ 53) % 2 ^ 52 = 2 ^ 52 := by omega
    rw [hdiv, hmod, if_neg (Nat.succ_ne_zero _), Nat.add_sub_assoc (by decide)]
    show 2 ^ 52 * 2 ^ (e + 1) = 2 ^ 53 * 2 ^ e
    rw [Nat.pow_succ 2 e, Nat.pow_succ 2 52, Nat.mul_comm (2 ^ e), Nat.mul_assoc]

theorem exists_eq_add (p : Nat) :
    ∃ e r, p = e * binadeSize + r ∧ r < 2 ^ 53 ∧ (e ≠ 0 → 2 ^ 52 ≤ r) := by
  have hsize : binadeSize = 2 ^ 52 := rfl
  rw [hsize]
  exact ⟨p / 2 ^ 52 - 1, p - (p / 2 ^ 52 - 1) * 2 ^ 52, by omega, by omega, by omega⟩

/-- Neighbours are not closer than one part in `2 ^ 53` of the larger one. -/
theorem unitsAt_succ_le (p : Nat) :
    unitsAt (p + 1) + 2 ^ 53 * unitsAt p ≤ 2 ^ 53 * unitsAt (p + 1) := by
  obtain ⟨e, r, rfl, hr, he⟩ := exists_eq_add p
  rw [Nat.add_assoc, unitsAt_add (by omega) (fun hne => Nat.le_succ_of_le (he hne)),
    unitsAt_add (by omega) he, Nat.add_one_mul, Nat.mul_add, Nat.add_comm]
  refine Nat.add_le_add_left ?_ _
  rw [← Nat.add_one_mul]
  exact Nat.mul_le_mul_right _ hr

theorem unitsAt_lt_succ (p : Nat) : unitsAt p < unitsAt (p + 1) := by
  obtain ⟨e, r, rfl, hr, he⟩ := exists_eq_add p
  rw [Nat.add_assoc, unitsAt_add (by omega) (fun hne => Nat.le_succ_of_le (he hne)),
    unitsAt_add (by omega) he]
  exact Nat.mul_lt_mul_of_pos_right (Nat.lt_succ_self r) (Nat.two_pow_pos e)

theorem unitsAt_strictMono : StrictMono unitsAt := strictMono_nat_of_lt_succ unitsAt_lt_succ

/-- Another place is away by at least that part. -/
theorem unitsAt_le_of_ne {p q : Nat} (h : p ≠ q) :
    (unitsAt p : ℚ) ≤ 2 ^ 53 * |(unitsAt p : ℚ) - unitsAt q| := by
  have hgap : ∀ n, (unitsAt (n + 1) : ℚ) + 2 ^ 53 * unitsAt n ≤ 2 ^ 53 * unitsAt (n + 1) :=
    fun n => by exact_mod_cast unitsAt_succ_le n
  rcases Nat.lt_or_gt_of_ne h with hlt | hgt
  · have hnext : (unitsAt (p + 1) : ℚ) ≤ unitsAt q := by
      exact_mod_cast unitsAt_strictMono.monotone hlt
    have hstep : (unitsAt p : ℚ) ≤ unitsAt (p + 1) := by exact_mod_cast (unitsAt_lt_succ p).le
    have habs := neg_le_abs ((unitsAt p : ℚ) - unitsAt q)
    linarith [hgap p]
  · obtain ⟨n, rfl⟩ : ∃ n, p = n + 1 := Nat.exists_eq_add_one.mpr (Nat.zero_lt_of_lt hgt)
    have hprevious : (unitsAt q : ℚ) ≤ unitsAt n := by
      exact_mod_cast unitsAt_strictMono.monotone (Nat.le_of_lt_succ hgt)
    have habs := le_abs_self ((unitsAt (n + 1) : ℚ) - unitsAt q)
    linarith [hgap n]

/-! ## Rounding -/

section Rounding

variable {num den num' den' : Nat}

theorem abs_sub_divRoundEven_le (hden : 0 < den) (num : Nat) :
    |(num : ℚ) / den - divRoundEven num den| ≤ 1 / 2 := by
  have hpos : (0 : ℚ) < den := by exact_mod_cast hden
  have hnum : (num : ℚ) = den * (num / den : Nat) + (num % den : Nat) := by
    exact_mod_cast (Nat.div_add_mod num den).symm
  have hquotient : (num : ℚ) / den = (num / den : Nat) + (num % den : Nat) / den := by
    rw [hnum, add_div, mul_div_cancel_left₀ _ hpos.ne']
  have hmod : ((num % den : Nat) : ℚ) / den ≤ 1 := by
    rw [div_le_one hpos]
    exact_mod_cast (Nat.mod_lt num hden).le
  have hmod_nonneg : (0 : ℚ) ≤ (num % den : Nat) / den := by positivity
  rw [hquotient]
  rcases divRoundEven_cases num den with ⟨hround, hhalf⟩ | ⟨hround, hhalf⟩
  · have hhalf : ((num % den : Nat) : ℚ) / den ≤ 1 / 2 := by
      rw [div_le_iff₀ hpos]
      have : (2 : ℚ) * (num % den : Nat) ≤ den := by exact_mod_cast hhalf
      linarith
    rw [hround, add_sub_cancel_left, abs_of_nonneg hmod_nonneg]
    exact hhalf
  · have hhalf : 1 / 2 ≤ ((num % den : Nat) : ℚ) / den := by
      rw [le_div_iff₀ hpos]
      have : (den : ℚ) ≤ 2 * (num % den : Nat) := by exact_mod_cast hhalf
      linarith
    rw [hround, Nat.cast_add_one, abs_le]
    constructor <;> linarith

/-- No multiple of the spacing is nearer than the significand says. -/
theorem abs_sub_significand_le (hden : 0 < den) (num k : Nat) :
    |(num : ℚ) / den - significand num den * 2 ^ spacing num den| ≤
      |(num : ℚ) / den - k * 2 ^ spacing num den| := by
  have hpow : (0 : ℚ) < 2 ^ spacing num den := by positivity
  have hscaled : (num : ℚ) / den =
      (num : ℚ) / (den * 2 ^ spacing num den : Nat) * 2 ^ spacing num den := by
    rw [Nat.cast_mul, Nat.cast_pow, Nat.cast_ofNat, ← div_div, div_mul_cancel₀ _ hpow.ne']
  have hround := abs_sub_divRoundEven_le (Nat.mul_pos hden (Nat.two_pow_pos (spacing num den))) num
  rw [hscaled, ← sub_mul, ← sub_mul, abs_mul, abs_mul]
  refine mul_le_mul_of_nonneg_right ?_ (abs_nonneg _)
  set y := (num : ℚ) / (den * 2 ^ spacing num den : Nat)
  show |y - divRoundEven num (den * 2 ^ spacing num den)| ≤ |y - k|
  set r := divRoundEven num (den * 2 ^ spacing num den)
  rcases Decidable.eq_or_ne k r with rfl | hne
  · exact le_rfl
  · have hone : (1 : ℚ) ≤ |(k : ℚ) - r| := by
      have hsub : (k : ℤ) - r ≠ 0 := sub_ne_zero.mpr (by exact_mod_cast hne)
      have hint := Int.one_le_abs hsub
      exact_mod_cast hint
    have htriangle : |(k : ℚ) - r| ≤ |y - r| + |y - k| := by
      have := abs_sub_le (k : ℚ) y r
      rw [abs_sub_comm (k : ℚ) y] at this
      linarith
    linarith

theorem unitsAt_place (num den : Nat) :
    unitsAt (place num den) = significand num den * 2 ^ spacing num den :=
  unitsAt_add (significand_le num den) le_significand

theorem le_of_spacing_ne_zero (hden : 0 < den) (h : spacing num den ≠ 0) :
    (2 : ℚ) ^ 52 * 2 ^ spacing num den ≤ (num : ℚ) / den := by
  have hpos : (0 : ℚ) < den := by exact_mod_cast hden
  have hstep := Nat.mul_pos hden (Nat.two_pow_pos (spacing num den))
  have hquotient := (Nat.le_div_iff_mul_le hstep).mp (le_quotient h)
  have hcast : (2 : ℚ) ^ 52 * (den * 2 ^ spacing num den) ≤ num := by exact_mod_cast hquotient
  rw [le_div_iff₀ hpos]
  linarith

/-- A value is rounded to the nearest place. -/
theorem abs_sub_place_le (hden : 0 < den) (num p : Nat) :
    |(num : ℚ) / den - unitsAt (place num den)| ≤ |(num : ℚ) / den - unitsAt p| := by
  have hmultiple := abs_sub_significand_le hden num
  have hplace : (unitsAt (place num den) : ℚ) = significand num den * 2 ^ spacing num den := by
    exact_mod_cast unitsAt_place num den
  obtain ⟨e, r, rfl, hr, he⟩ := exists_eq_add p
  rw [hplace, unitsAt_add hr.le he]
  rcases Nat.lt_or_ge e (spacing num den) with hlt | hge
  · -- Places with a smaller exponent are all on one side, behind the least significand.
    have hleast := le_of_spacing_ne_zero hden (Nat.ne_zero_of_lt hlt)
    have hbelow : ((r * 2 ^ e : Nat) : ℚ) ≤ 2 ^ 52 * 2 ^ spacing num den := by
      have hpow : 2 ^ 53 * 2 ^ e ≤ 2 ^ 52 * 2 ^ spacing num den := by
        rw [← Nat.pow_add, ← Nat.pow_add]
        exact Nat.pow_le_pow_right (by decide) (by omega)
      exact_mod_cast (Nat.mul_le_mul_right _ hr.le).trans hpow
    refine (hmultiple (2 ^ 52)).trans ?_
    rw [Nat.cast_pow, Nat.cast_ofNat, abs_of_nonneg (by linarith), abs_of_nonneg (by linarith)]
    linarith
  · obtain ⟨d, rfl⟩ := Nat.exists_eq_add_of_le hge
    have hsplit : ((r * 2 ^ (spacing num den + d) : Nat) : ℚ) =
        (r * 2 ^ d : Nat) * 2 ^ spacing num den := by
      push_cast
      ring
    rw [hsplit]
    exact hmultiple (r * 2 ^ d)

/-! ## Order -/

theorem half_le_of_abs_sub_le {x a b : ℚ} (hab : a < b) (h : |x - b| ≤ |x - a|) :
    (a + b) / 2 ≤ x := by
  have hsquares := sq_le_sq.mpr h
  nlinarith

theorem le_half_of_abs_sub_le {x a b : ℚ} (hab : a < b) (h : |x - a| ≤ |x - b|) :
    x ≤ (a + b) / 2 := by
  have hsquares := sq_le_sq.mpr h
  nlinarith

/-- Rounding keeps the order of values. -/
theorem place_mono (hden : 0 < den) (hden' : 0 < den') (h : (num : ℚ) / den ≤ num' / den') :
    place num den ≤ place num' den' := by
  rcases h.eq_or_lt with heq | hlt
  · rw [div_eq_div_iff (by exact_mod_cast hden.ne') (by exact_mod_cast hden'.ne')] at heq
    exact (place_eq_of_cross hden hden' (by exact_mod_cast heq)).le
  · by_contra hplace
    have hunits : (unitsAt (place num' den') : ℚ) < unitsAt (place num den) := by
      exact_mod_cast unitsAt_strictMono (Nat.lt_of_not_le hplace)
    have hhigh := half_le_of_abs_sub_le hunits (abs_sub_place_le hden num (place num' den'))
    have hlow := le_half_of_abs_sub_le hunits (abs_sub_place_le hden' num' (place num den))
    linarith

/-- What is closer to a place than to any other is rounded to it. -/
theorem place_eq_of_close (hden : 0 < den) {p : Nat}
    (h : 2 ^ 54 * |(num : ℚ) / den - unitsAt p| < unitsAt p) : place num den = p := by
  by_contra hne
  have hnearest := abs_sub_place_le hden num p
  have hgap := unitsAt_le_of_ne (Ne.symm hne)
  have htriangle := abs_sub_le (unitsAt p : ℚ) (num / den) (unitsAt (place num den))
  rw [abs_sub_comm (unitsAt p : ℚ) (num / den)] at htriangle
  linarith

end Rounding
end Magnitude
end FormBuilder

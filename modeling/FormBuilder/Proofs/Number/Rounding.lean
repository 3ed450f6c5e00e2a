import FormBuilder.Proofs.Number.Figures
import Mathlib.Algebra.Group.Nat.Defs

/-!
Decimals and the magnitudes next to them.  The position of the nearest magnitude is a function
of a quotient, `Magnitude.place`, and the quotients far from it are settled alike.  A value that
a magnitude has rounds to this magnitude, so the shortest digits of a magnitude are read back as
the magnitude: `Magnitude.magnitude?_shortest`.
-/

namespace FormBuilder
namespace Magnitude

/-! ## Quotients -/

theorem divRoundEven_mul {k : Nat} (hk : 0 < k) (num den : Nat) :
    divRoundEven (num * k) (den * k) = divRoundEven num den := by
  have hdiv : num * k / (den * k) = num / den := Nat.mul_div_mul_right num den hk
  have hmod : num * k % (den * k) = num % den * k := Nat.mul_mod_mul_right k num den
  have hlt : 2 * (num % den * k) < den * k ↔ 2 * (num % den) < den := by
    rw [← Nat.mul_assoc, Nat.mul_lt_mul_right hk]
  have hgt : den * k < 2 * (num % den * k) ↔ den < 2 * (num % den) := by
    rw [← Nat.mul_assoc, Nat.mul_lt_mul_right hk]
  simp only [divRoundEven, hdiv, hmod, hlt, hgt]

theorem divRoundEven_one (n : Nat) : divRoundEven n 1 = n := by
  simp [divRoundEven, Nat.mod_one]

theorem divRoundEven_mul_self {k : Nat} (hk : 0 < k) (n : Nat) : divRoundEven (n * k) k = n := by
  have h := divRoundEven_mul hk n 1
  rwa [Nat.one_mul, divRoundEven_one] at h

/-- A quotient is rounded down or up, to the side that is not farther. -/
theorem divRoundEven_cases (num den : Nat) :
    divRoundEven num den = num / den ∧ 2 * (num % den) ≤ den ∨
      divRoundEven num den = num / den + 1 ∧ den ≤ 2 * (num % den) := by
  unfold divRoundEven
  extract_lets q twice
  split_ifs <;> omega

theorem div_le_divRoundEven (num den : Nat) : num / den ≤ divRoundEven num den := by
  rcases divRoundEven_cases num den with h | h <;> omega

theorem divRoundEven_le (num den : Nat) : divRoundEven num den ≤ num / den + 1 := by
  rcases divRoundEven_cases num den with h | h <;> omega

/-! ## Places -/

section Places

variable (num den : Nat)

/-- The power of two between the neighbours of `num / den` units. -/
def spacing : Nat := (num / den).log2 - 52

/-- How many such powers are nearest to it. -/
def significand : Nat := divRoundEven num (den * Nat.pow 2 (spacing num den))

/-- The position of the nearest magnitude, as if there was no largest one. -/
def place : Nat := spacing num den * binadeSize + significand num den

theorem nearest?_eq_dite : nearest? num den =
    if h : place num den < magnitudeCount then some ⟨⟨place num den, h⟩⟩ else none := rfl

theorem nearest?_eq_some_iff {m : Magnitude} :
    nearest? num den = some m ↔ place num den = m.position.val := by
  rw [nearest?_eq_dite]
  constructor
  · intro h
    split_ifs at h
    exact congrArg (·.position.val) (Option.some.inj h)
  · intro h
    rw [dif_pos (h ▸ m.position.isLt)]
    exact congrArg some (congrArg Magnitude.mk (Fin.ext h))

theorem quotient_lt : num / (den * Nat.pow 2 (spacing num den)) < 2 ^ 53 := by
  rw [← Nat.div_div_eq_div_mul]
  refine (Nat.div_lt_iff_lt_mul (Nat.two_pow_pos _)).mpr ?_
  show num / den < 2 ^ 53 * 2 ^ spacing num den
  rw [← Nat.pow_add]
  refine Nat.lt_of_lt_of_le Nat.lt_log2_self (Nat.pow_le_pow_right (by decide) ?_)
  unfold spacing
  omega

variable {num den}

theorem le_quotient (h : spacing num den ≠ 0) :
    2 ^ 52 ≤ num / (den * Nat.pow 2 (spacing num den)) := by
  have hlog : (num / den).log2 = 52 + spacing num den := by
    unfold spacing at h ⊢
    omega
  have hne : num / den ≠ 0 := by
    intro hzero
    rw [hzero] at hlog
    exact absurd hlog (by rw [Nat.log2_zero]; omega)
  rw [← Nat.div_div_eq_div_mul]
  refine (Nat.le_div_iff_mul_le (Nat.two_pow_pos _)).mpr ?_
  show 2 ^ 52 * 2 ^ spacing num den ≤ num / den
  rw [← Nat.pow_add, ← hlog]
  exact Nat.log2_self_le hne

theorem significand_le (num den : Nat) : significand num den ≤ 2 ^ 53 :=
  Nat.le_trans (divRoundEven_le _ _) (quotient_lt num den)

theorem le_significand (h : spacing num den ≠ 0) : 2 ^ 52 ≤ significand num den :=
  Nat.le_trans (le_quotient h) (div_le_divRoundEven _ _)

end Places

/-- Only the quotient counts. -/
theorem place_mul {k : Nat} (hk : 0 < k) (num den : Nat) :
    place (num * k) (den * k) = place num den := by
  have hspacing : spacing (num * k) (den * k) = spacing num den := by
    rw [spacing, Nat.mul_div_mul_right num den hk, spacing]
  rw [place, significand, hspacing, Nat.mul_right_comm, divRoundEven_mul hk, place, significand]

theorem place_eq_of_cross {a b c d : Nat} (hb : 0 < b) (hd : 0 < d) (h : a * d = c * b) :
    place a b = place c d := by
  rw [← place_mul hd a b, h, Nat.mul_comm b d, place_mul hb]

theorem nearest?_mul {k : Nat} (hk : 0 < k) (num den : Nat) :
    nearest? (num * k) (den * k) = nearest? num den := by
  simp only [nearest?_eq_dite, place_mul hk]

/-- Less than half of the least magnitude. -/
theorem nearest?_of_small {num den : Nat} (h : 2 * num < den) : nearest? num den = some zero := by
  have hdiv : num / den = 0 := Nat.div_eq_of_lt (by omega)
  have hmod : num % den = num := Nat.mod_eq_of_lt (by omega)
  have hspacing : spacing num den = 0 := by
    rw [spacing, hdiv]
    rfl
  have hround : divRoundEven num den = 0 := by
    simp only [divRoundEven, hdiv, hmod, if_pos h]
  refine (nearest?_eq_some_iff num den).mpr ?_
  rw [place, significand, hspacing, Nat.zero_mul, Nat.zero_add]
  show divRoundEven num (den * 1) = 0
  rw [Nat.mul_one, hround]

theorem le_log2_of_two_pow_le {k n : Nat} (h : 2 ^ k ≤ n) : k ≤ n.log2 := by
  have hne : n ≠ 0 := Nat.ne_of_gt (Nat.lt_of_lt_of_le (Nat.two_pow_pos k) h)
  exact (Nat.le_log2 hne).mpr h

/-- At least `2 ^ 1024`, the first power of two beyond the largest magnitude. -/
theorem nearest?_of_large {num den : Nat} (h : 2 ^ 2098 ≤ num / den) : nearest? num den = none := by
  have hlog : 2098 ≤ (num / den).log2 := le_log2_of_two_pow_le h
  have hspacing : 2046 ≤ spacing num den := by
    unfold spacing
    omega
  have hsignificand : binadeSize ≤ significand num den := le_significand (by omega)
  have hexponent : 2046 * binadeSize ≤ spacing num den * binadeSize :=
    Nat.mul_le_mul_right _ hspacing
  have hlarge : ¬ place num den < magnitudeCount := by
    unfold place magnitudeCount
    omega
  rw [nearest?_eq_dite, dif_neg hlarge]

/-- Well below the largest magnitude. -/
theorem nearest?_isSome {num den : Nat} (h : num / den < 2 ^ 2097) :
    (nearest? num den).isSome = true := by
  have hspacing : spacing num den ≤ 2044 := by
    unfold spacing
    by_cases hzero : num / den = 0
    · rw [hzero, Nat.log2_zero]
      omega
    · have hlog := (Nat.log2_lt hzero).mpr h
      omega
  have hsignificand := significand_le num den
  have hexponent : spacing num den * binadeSize ≤ 2044 * binadeSize :=
    Nat.mul_le_mul_right _ hspacing
  have hsmall : place num den < magnitudeCount := by
    have hsize : binadeSize = 2 ^ 52 := rfl
    unfold place magnitudeCount
    omega
  rw [nearest?_eq_dite, dif_pos hsmall]
  rfl

/-! ## Magnitudes among their neighbours -/

theorem log2_units {m : Magnitude} (h : m.exponentBits ≠ 0) :
    m.units.log2 = 52 + (m.exponentBits - 1) := by
  have hfraction : m.fractionBits < 2 ^ 52 := Nat.mod_lt _ (Nat.two_pow_pos 52)
  have hpow := Nat.two_pow_pos (m.exponentBits - 1)
  have hunits : m.units = (2 ^ 52 + m.fractionBits) * 2 ^ (m.exponentBits - 1) := if_neg h
  rw [hunits, Nat.log2_eq_iff (Nat.ne_of_gt (Nat.mul_pos (by omega) hpow))]
  constructor
  · rw [Nat.pow_add]
    exact Nat.mul_le_mul_right _ (Nat.le_add_right _ _)
  · rw [Nat.add_right_comm, Nat.pow_add]
    exact Nat.mul_lt_mul_of_pos_right (by omega) hpow

theorem nearest?_units_one (m : Magnitude) : nearest? m.units 1 = some m := by
  have hdecomp : binadeSize * m.exponentBits + m.fractionBits = m.position.val :=
    Nat.div_add_mod m.position.val binadeSize
  have hposition : (m.units.log2 - 52) * binadeSize +
      divRoundEven m.units (1 * Nat.pow 2 (m.units.log2 - 52)) = m.position.val := by
    by_cases h : m.exponentBits = 0
    · -- Below the first power of two that has an exponent, units are positions.
      have hunits : m.units = m.fractionBits := if_pos h
      have hfraction : m.fractionBits < 2 ^ 52 := Nat.mod_lt _ (Nat.two_pow_pos 52)
      have hlog : m.fractionBits.log2 - 52 = 0 := by
        by_cases hzero : m.fractionBits = 0
        · rw [hzero]
          rfl
        · have := (Nat.log2_lt hzero).mpr hfraction
          omega
      rw [h, Nat.mul_zero, Nat.zero_add] at hdecomp
      rw [hunits, hlog, Nat.zero_mul, Nat.zero_add, ← hdecomp]
      exact divRoundEven_one _
    · have hunits : m.units =
          (binadeSize + m.fractionBits) * Nat.pow 2 (m.exponentBits - 1) := if_neg h
      have hexponent : (m.exponentBits - 1) * binadeSize + binadeSize =
          binadeSize * m.exponentBits := by
        rw [← Nat.succ_mul, Nat.mul_comm, Nat.succ_eq_add_one,
          Nat.sub_add_cancel (Nat.pos_of_ne_zero h)]
      have hround := divRoundEven_mul_self (Nat.two_pow_pos (m.exponentBits - 1))
        (binadeSize + m.fractionBits)
      rw [log2_units h, Nat.add_sub_cancel_left, Nat.one_mul, hunits]
      refine (congrArg (_ + ·) hround).trans ?_
      rw [← Nat.add_assoc, hexponent, hdecomp]
  simp only [nearest?, Nat.div_one, hposition, dif_pos m.position.isLt]

/-- The value of a magnitude is nearest to the magnitude. -/
theorem nearest?_units {den : Nat} (hden : 0 < den) (m : Magnitude) :
    nearest? (m.units * den) den = some m := by
  have h := nearest?_mul hden m.units 1
  rwa [Nat.one_mul, nearest?_units_one] at h

theorem zero_lt_unitsOfOne : 0 < unitsOfOne := by
  unfold unitsOfOne
  -- Any exponent would do, and this one is too large to compute with.
  generalize 1074 = k
  exact Nat.two_pow_pos k

theorem two_pow_le_of_le {k : Nat} (h : 310 ≤ k) : 2 ^ 2098 ≤ 10 ^ k * unitsOfOne := by
  induction k, h using Nat.le_induction with
  | base => decide +kernel
  | succ k _ ih =>
    have hpow : 10 ^ k ≤ 10 ^ (k + 1) := Nat.pow_le_pow_right (by decide) (Nat.le_succ k)
    exact Nat.le_trans ih (Nat.mul_le_mul_right unitsOfOne hpow)

theorem four_mul_unitsOfOne_le {k : Nat} (h : 326 ≤ k) : 4 * unitsOfOne ≤ 10 ^ k := by
  induction k, h using Nat.le_induction with
  | base => decide +kernel
  | succ k _ ih => exact Nat.le_trans ih (Nat.pow_le_pow_right (by decide) (Nat.le_succ k))

end Magnitude

/-! ## Decimals -/

namespace Decimal

theorem denominator_pos (d : Decimal) : 0 < d.denominator := Nat.pow_pos (by decide)

/-- The far exponents are settled as the powers of ten would settle them. -/
theorem magnitude?_eq_nearest? (d : Decimal) :
    d.magnitude? = Magnitude.nearest? (d.numerator * Magnitude.unitsOfOne) d.denominator := by
  unfold magnitude?
  split_ifs with hzero hlarge hsmall
  · have hnum : d.numerator = 0 := by rw [numerator, hzero, Nat.zero_mul]
    rw [hnum, Nat.zero_mul, Magnitude.nearest?_of_small d.denominator_pos]
  · have hden : d.denominator = 1 := by
      have hexponent : (-d.exponent).toNat = 0 := by omega
      rw [denominator, hexponent]
    have hpow := Magnitude.two_pow_le_of_le (k := d.exponent.toNat) (by omega)
    have hnum : 10 ^ d.exponent.toNat ≤ d.numerator :=
      Nat.le_mul_of_pos_left _ (Nat.pos_of_ne_zero hzero)
    rw [hden, Magnitude.nearest?_of_large]
    rw [Nat.div_one]
    exact Nat.le_trans hpow (Nat.mul_le_mul_right _ hnum)
  · obtain ⟨k, hk⟩ : ∃ k, (-d.exponent).toNat = d.digits.log2 + k :=
      Nat.exists_eq_add_of_le (by omega)
    have hnum : d.numerator = d.digits := by
      have hexponent : d.exponent.toNat = 0 := by omega
      rw [numerator, hexponent]
      exact Nat.mul_one d.digits
    have hdigits : d.digits < 2 * 2 ^ d.digits.log2 := by
      rw [← Nat.pow_succ']
      exact Nat.lt_log2_self
    have hlog : 2 ^ d.digits.log2 ≤ 10 ^ d.digits.log2 := Nat.pow_le_pow_left (by decide) _
    have hpow := Magnitude.four_mul_unitsOfOne_le (k := k) (by omega)
    rw [Magnitude.nearest?_of_small]
    calc 2 * (d.numerator * Magnitude.unitsOfOne)
        = d.digits * (2 * Magnitude.unitsOfOne) := by rw [hnum, Nat.mul_left_comm]
      _ < 2 * 2 ^ d.digits.log2 * (2 * Magnitude.unitsOfOne) :=
        Nat.mul_lt_mul_of_pos_right hdigits (Nat.mul_pos Nat.two_pos Magnitude.zero_lt_unitsOfOne)
      _ = 2 ^ d.digits.log2 * (4 * Magnitude.unitsOfOne) := by
        rw [Nat.mul_comm 2, Nat.mul_assoc, ← Nat.mul_assoc 2 2]
      _ ≤ 10 ^ d.digits.log2 * 10 ^ k := Nat.mul_le_mul hlog hpow
      _ = 10 ^ (-d.exponent).toNat := by rw [hk, Nat.pow_add]
  · rfl

/-- Whole numbers of 64 bits have a double next to them. -/
theorem magnitude?_isSome {n : Nat} (h : n ≤ 2 ^ 64) : (Decimal.mk n 0).magnitude?.isSome = true := by
  rw [magnitude?_eq_nearest?]
  refine Magnitude.nearest?_isSome ?_
  have hunits : 2 ^ 64 * Magnitude.unitsOfOne < 2 ^ 2097 := by decide +kernel
  have hvalue : (Decimal.mk n 0).numerator * Magnitude.unitsOfOne / (Decimal.mk n 0).denominator =
      n * Magnitude.unitsOfOne := by
    show n * 1 * Magnitude.unitsOfOne / 1 = n * Magnitude.unitsOfOne
    rw [Nat.mul_one, Nat.div_one]
  rw [hvalue]
  exact Nat.lt_of_le_of_lt (Nat.mul_le_mul_right _ h) hunits

end Decimal

namespace Magnitude

theorem magnitude?_mul_pow {k p : Nat} (hk : unitsOfOne = Nat.pow 2 k) (hp : p = Nat.pow 5 k)
    (m : Magnitude) : (Decimal.mk (m.units * p) (-k)).magnitude? = some m := by
  have hexponent : (-(k : Int)).toNat = 0 ∧ (- -(k : Int)).toNat = k := by omega
  have hpow : Nat.pow 5 k * Nat.pow 2 k = Nat.pow 10 k := (Nat.mul_pow 5 2 k).symm
  rw [Decimal.magnitude?_eq_nearest?]
  simp only [Decimal.numerator, Decimal.denominator, hexponent, hk, hp]
  show nearest? (m.units * Nat.pow 5 k * 1 * Nat.pow 2 k) (Nat.pow 10 k) = some m
  rw [Nat.mul_one, Nat.mul_assoc, hpow]
  exact nearest?_units (Nat.pow_pos (by decide)) m

theorem magnitude?_exactDecimal (m : Magnitude) : m.exactDecimal.magnitude? = some m :=
  magnitude?_mul_pow (k := 1074) (by decide +kernel) (by decide +kernel) m

/-- The shortest digits of a magnitude read back as the magnitude. -/
theorem magnitude?_shortest (tie : Tie) (m : Magnitude) : (m.shortest tie).magnitude? = some m := by
  unfold shortest
  cases hit : (List.range 17).findSome? fun (n : Nat) => m.onGrid? tie (m.decimalExponent - n) with
  | none => exact magnitude?_exactDecimal m
  | some d =>
    obtain ⟨n, -, hn⟩ := List.exists_of_findSome?_eq_some hit
    exact magnitude?_onGrid hn

end Magnitude
end FormBuilder

import FormBuilder.Proofs.Number.Nearest

/-!
The values of decimals and magnitudes as rationals.  Which magnitude a decimal is read as depends
on its value only, `magnitude?_congr`, and never steps back as the value grows.  So the decimals
that are read as one magnitude have no gaps, `magnitude?_of_between`, and contain all that is
close to the magnitude, `magnitude?_of_close`.
-/

namespace FormBuilder

/-! ## Powers of ten -/

theorem ten_zpow_pos (n : ℤ) : (0 : ℚ) < 10 ^ n := zpow_pos (by norm_num) n

theorem ten_zpow_add (n : ℤ) (k : Nat) : (10 : ℚ) ^ (n + k) = 10 ^ k * 10 ^ n := by
  rw [zpow_add₀ (by norm_num), zpow_natCast, mul_comm]

theorem ten_zpow_sub (n : ℤ) (k : Nat) : (10 : ℚ) ^ k * 10 ^ (n - k) = 10 ^ n := by
  rw [← ten_zpow_add, sub_add_cancel]

theorem ten_zpow_le {a b : ℤ} (h : a ≤ b) : (10 : ℚ) ^ a ≤ 10 ^ b :=
  zpow_le_zpow_right₀ (by norm_num) h

theorem ten_zpow_eq (n : ℤ) : (10 : ℚ) ^ n = 10 ^ n.toNat / 10 ^ (-n).toNat := by
  rw [← zpow_natCast, ← zpow_natCast, ← zpow_sub₀ (by norm_num), Int.toNat_sub_toNat_neg]

/-! ## Values -/

def Magnitude.value (m : Magnitude) : ℚ := m.units / Magnitude.unitsOfOne

def Decimal.value (d : Decimal) : ℚ := d.digits * 10 ^ d.exponent

namespace Magnitude

theorem unitsOfOne_pos : (0 : ℚ) < unitsOfOne := Nat.cast_pos.mpr zero_lt_unitsOfOne

theorem value_mul_unitsOfOne (m : Magnitude) : m.value * unitsOfOne = m.units :=
  div_mul_cancel₀ _ unitsOfOne_pos.ne'

end Magnitude

namespace Decimal

variable {d d' : Decimal} {m : Magnitude}

theorem value_shift (n z : Nat) (x : ℤ) :
    (Decimal.mk (n * 10 ^ z) x).value = (Decimal.mk n (x + z)).value := by
  show ((n * 10 ^ z : Nat) : ℚ) * 10 ^ x = n * 10 ^ (x + z)
  rw [ten_zpow_add, Nat.cast_mul, Nat.cast_pow, Nat.cast_ofNat, mul_assoc]

theorem units_eq (d : Decimal) :
    ((d.numerator * Magnitude.unitsOfOne : Nat) : ℚ) / d.denominator =
      d.value * Magnitude.unitsOfOne := by
  have hnumerator : (d.numerator : ℚ) = d.digits * 10 ^ d.exponent.toNat := by
    exact_mod_cast congrArg (Nat.cast (R := ℚ)) (show d.numerator = _ from rfl)
  have hdenominator : (d.denominator : ℚ) = 10 ^ (-d.exponent).toNat := by
    exact_mod_cast congrArg (Nat.cast (R := ℚ)) (show d.denominator = _ from rfl)
  rw [Nat.cast_mul, hnumerator, hdenominator, value, ten_zpow_eq]
  ring

/-- The place of the magnitude that a decimal is read as. -/
def place (d : Decimal) : Nat :=
  Magnitude.place (d.numerator * Magnitude.unitsOfOne) d.denominator

theorem magnitude?_eq_some_iff : d.magnitude? = some m ↔ d.place = m.position.val := by
  rw [magnitude?_eq_nearest?, Magnitude.nearest?_eq_some_iff, place]

theorem place_mono (h : d.value ≤ d'.value) : d.place ≤ d'.place := by
  refine Magnitude.place_mono d.denominator_pos d'.denominator_pos ?_
  rw [units_eq, units_eq]
  exact mul_le_mul_of_nonneg_right h Magnitude.unitsOfOne_pos.le

/-- Only the value of a decimal counts, not how it is written. -/
theorem magnitude?_congr (h : d.value = d'.value) : d.magnitude? = d'.magnitude? := by
  have hplace : d.place = d'.place := Nat.le_antisymm (place_mono h.le) (place_mono h.ge)
  apply Option.ext
  intro m
  rw [magnitude?_eq_some_iff, magnitude?_eq_some_iff, hplace]

/-- Zeros at the end of the digits, or a higher exponent. -/
theorem magnitude?_shift (n z : Nat) (x : ℤ) :
    (Decimal.mk (n * 10 ^ z) x).magnitude? = (Decimal.mk n (x + z)).magnitude? :=
  magnitude?_congr (value_shift n z x)

/-- The place of a magnitude as that of its units. -/
theorem place_units (m : Magnitude) : Magnitude.place m.units 1 = m.position.val :=
  (Magnitude.nearest?_eq_some_iff _ _).mp m.nearest?_units_one

theorem place_le (h : d.value ≤ m.value) : d.place ≤ m.position.val := by
  rw [← place_units]
  refine Magnitude.place_mono d.denominator_pos Nat.one_pos ?_
  rw [units_eq, Nat.cast_one, div_one, ← m.value_mul_unitsOfOne]
  exact mul_le_mul_of_nonneg_right h Magnitude.unitsOfOne_pos.le

theorem le_place (h : m.value ≤ d.value) : m.position.val ≤ d.place := by
  rw [← place_units]
  refine Magnitude.place_mono Nat.one_pos d.denominator_pos ?_
  rw [units_eq, Nat.cast_one, div_one, ← m.value_mul_unitsOfOne]
  exact mul_le_mul_of_nonneg_right h Magnitude.unitsOfOne_pos.le

/-- What lies between a decimal and the magnitude that it is read as is read as this
magnitude, too. -/
theorem magnitude?_of_between (hread : d.magnitude? = some m)
    (h : d.value ≤ d'.value ∧ d'.value ≤ m.value ∨ m.value ≤ d'.value ∧ d'.value ≤ d.value) :
    d'.magnitude? = some m := by
  rw [magnitude?_eq_some_iff] at hread ⊢
  rcases h with ⟨hd, hm⟩ | ⟨hm, hd⟩
  · exact Nat.le_antisymm (place_le hm) (hread ▸ place_mono hd)
  · exact Nat.le_antisymm (hread ▸ place_mono hd) (le_place hm)

theorem magnitude?_of_close (h : 2 ^ 54 * |d.value - m.value| < m.value) :
    d.magnitude? = some m := by
  have hpos := Magnitude.unitsOfOne_pos
  refine magnitude?_eq_some_iff.mpr (Magnitude.place_eq_of_close d.denominator_pos ?_)
  rw [units_eq, ← Magnitude.units_eq_unitsAt, ← m.value_mul_unitsOfOne, ← sub_mul, abs_mul,
    abs_of_pos hpos, ← mul_assoc]
  exact mul_lt_mul_of_pos_right h hpos

end Decimal
end FormBuilder

import FormBuilder.Proofs.Number.Spelling

/-!
The digits that are found for a magnitude are its shortest ones, and of these the nearest:
`Magnitude.isShortest`.  A decimal with `k` digits that is read as the magnitude need not be on
the grid that is searched for `k` digits, but then this grid holds one that is at least as near,
`Magnitude.exists_hit`.  With seventeen digits there always is one.
-/

namespace FormBuilder

/-! ## Values of figures -/

namespace Scientific

variable {s : Scientific}

theorem IsNormal.pow_le_value (h : s.IsNormal) : (10 : ℚ) ^ s.exponent ≤ s.decimal.value := by
  obtain ⟨c, rest, hcons, hc⟩ := h.leading
  have hdigits : 10 ^ rest.length ≤ s.decimal.digits := by
    rw [decimal, hcons]
    exact Numeral.le_ofDigitChars (h.isDigits c (hcons ▸ List.mem_cons_self)) hc
  have hexponent : s.decimal.exponent = s.exponent - rest.length := by
    rw [decimal, hcons, List.length_cons, Nat.cast_add_one, add_sub_add_right_eq_sub]
  rw [← ten_zpow_sub s.exponent rest.length, Decimal.value, hexponent]
  refine mul_le_mul_of_nonneg_right ?_ (ten_zpow_pos _).le
  exact_mod_cast hdigits

theorem IsNormal.value_lt (h : s.IsNormal) : s.decimal.value < 10 ^ (s.exponent + 1) := by
  have hdigits : s.decimal.digits < 10 ^ s.figures.length := Numeral.ofDigitChars_lt h.isDigits
  rw [← ten_zpow_sub (s.exponent + 1) s.figures.length]
  refine mul_lt_mul_of_pos_right ?_ (ten_zpow_pos _)
  exact_mod_cast hdigits

end Scientific

namespace Magnitude

/-! ## The first digit -/

theorem exists_length_toDigits {n : Nat} (hn : n ≠ 0) :
    ∃ k, (Nat.toDigits 10 n).length = k + 1 ∧ 10 ^ k ≤ n ∧ n < 10 ^ (k + 1) := by
  obtain ⟨k, hk⟩ := Nat.exists_eq_add_one.mpr (Nat.length_toDigits_pos (b := 10) (n := n))
  have hlength : ∀ j, 0 < j → (k + 1 ≤ j ↔ n < 10 ^ j) := by
    intro j hj
    rw [← hk, Nat.length_toDigits_le_iff (by decide) hj]
  refine ⟨k, hk, ?_, (hlength (k + 1) k.succ_pos).mp le_rfl⟩
  rcases Nat.eq_zero_or_pos k with rfl | hpos
  · exact Nat.one_le_iff_ne_zero.mpr hn
  · exact Nat.le_of_not_lt fun hlt => Nat.not_succ_le_self k ((hlength k hpos).mpr hlt)

variable {m : Magnitude}

theorem pow_decimalExponent (hm : m ≠ .zero) :
    (10 : ℚ) ^ m.decimalExponent ≤ m.value ∧ m.value < 10 ^ (m.decimalExponent + 1) := by
  have hone : 0 < unitsOfOne := Nat.cast_pos.mp unitsOfOne_pos
  have hunits : 0 < m.units := Nat.pos_of_ne_zero (units_ne_zero hm)
  unfold decimalExponent value
  rw [le_div_iff₀ unitsOfOne_pos, div_lt_iff₀ unitsOfOne_pos]
  split_ifs with hle
  · obtain ⟨k, hk, hlow, hhigh⟩ := exists_length_toDigits (Nat.div_pos hle hone).ne'
    rw [Nat.le_div_iff_mul_le hone] at hlow
    rw [Nat.div_lt_iff_lt_mul hone] at hhigh
    rw [hk, Nat.cast_add_one, add_sub_cancel_right]
    exact_mod_cast And.intro hlow hhigh
  · have hpos : 0 < (unitsOfOne - 1) / m.units := Nat.div_pos (by omega) hunits
    obtain ⟨k, hk, hlow, hhigh⟩ := exists_length_toDigits hpos.ne'
    rw [Nat.le_div_iff_mul_le hunits] at hlow
    rw [Nat.div_lt_iff_lt_mul hunits] at hhigh
    have hlow : (unitsOfOne : ℚ) ≤ 10 ^ (k + 1) * m.units := by
      exact_mod_cast (by omega : unitsOfOne ≤ 10 ^ (k + 1) * m.units)
    have hhigh : (10 : ℚ) ^ k * m.units < unitsOfOne := by
      exact_mod_cast (by omega : 10 ^ k * m.units < unitsOfOne)
    rw [hk, Nat.cast_add_one, neg_add_rev, neg_add_cancel_comm, ← neg_add_rev, zpow_neg, zpow_neg,
      inv_mul_le_iff₀ (ten_zpow_pos _), lt_inv_mul_iff₀ (ten_zpow_pos _)]
    exact_mod_cast And.intro hlow hhigh

/-! ## The neighbours on a grid -/

/-- How far the magnitude is above the lower neighbour, in parts of a step. -/
def excess (m : Magnitude) (q : ℤ) : ℚ := m.gridRest q / gridDenominator q

theorem gridDenominator_pos (q : ℤ) : 0 < gridDenominator q :=
  Nat.mul_pos (Nat.cast_pos.mp unitsOfOne_pos) (Nat.pow_pos (by decide))

theorem excess_nonneg (m : Magnitude) (q : ℤ) : 0 ≤ m.excess q := by
  unfold excess
  positivity

theorem excess_lt_one (m : Magnitude) (q : ℤ) : m.excess q < 1 := by
  rw [excess, div_lt_one (Nat.cast_pos.mpr (gridDenominator_pos q))]
  exact_mod_cast Nat.mod_lt _ (gridDenominator_pos q)

theorem steps_eq (m : Magnitude) (q : ℤ) :
    (m.gridNumerator q : ℚ) / gridDenominator q * 10 ^ q = m.value := by
  have hnumerator : (m.gridNumerator q : ℚ) = m.units * 10 ^ (-q).toNat := by
    exact_mod_cast congrArg (Nat.cast (R := ℚ)) (show m.gridNumerator q = _ from rfl)
  have hdenominator : (gridDenominator q : ℚ) = unitsOfOne * 10 ^ q.toNat := by
    exact_mod_cast congrArg (Nat.cast (R := ℚ)) (show gridDenominator q = _ from rfl)
  have hone := unitsOfOne_pos
  rw [hnumerator, hdenominator, ten_zpow_eq, value]
  field_simp

theorem below_value (m : Magnitude) (q : ℤ) :
    (m.below q).value = m.value - m.excess q * 10 ^ q := by
  have hden : (gridDenominator q : ℚ) ≠ 0 := Nat.cast_ne_zero.mpr (gridDenominator_pos q).ne'
  have hdivision : (m.gridNumerator q : ℚ) =
      gridDenominator q * (m.below q).digits + m.gridRest q := by
    exact_mod_cast (Nat.div_add_mod (m.gridNumerator q) (gridDenominator q)).symm
  rw [← steps_eq m q, hdivision, add_div, mul_div_cancel_left₀ _ hden, ← sub_mul, excess,
    add_sub_cancel_right]
  rfl

theorem above_value (m : Magnitude) (q : ℤ) :
    (m.above q).value = m.value + (1 - m.excess q) * 10 ^ q := by
  have hstep : (m.above q).value = (m.below q).value + 10 ^ q := by
    show ((m.below q).digits + 1 : Nat) * (10 : ℚ) ^ q = (m.below q).digits * 10 ^ q + 10 ^ q
    rw [Nat.cast_add_one, add_one_mul]
  rw [hstep, below_value]
  ring

theorem below_le (m : Magnitude) (q : ℤ) : (m.below q).value ≤ m.value := by
  rw [below_value]
  exact sub_le_self _ (mul_nonneg (m.excess_nonneg q) (ten_zpow_pos q).le)

theorem lt_above (m : Magnitude) (q : ℤ) : m.value < (m.above q).value := by
  rw [above_value]
  exact lt_add_of_pos_right _ (mul_pos (sub_pos.mpr (m.excess_lt_one q)) (ten_zpow_pos q))

theorem abs_sub_below (m : Magnitude) (q : ℤ) :
    |(m.below q).value - m.value| = m.excess q * 10 ^ q := by
  rw [below_value, sub_sub_cancel_left, abs_neg]
  exact abs_of_nonneg (mul_nonneg (m.excess_nonneg q) (ten_zpow_pos q).le)

theorem abs_sub_above (m : Magnitude) (q : ℤ) :
    |(m.above q).value - m.value| = (1 - m.excess q) * 10 ^ q := by
  rw [above_value, add_sub_cancel_left]
  exact abs_of_nonneg (mul_nonneg (sub_nonneg.mpr (m.excess_lt_one q).le) (ten_zpow_pos q).le)

/-- One of them is at most half a step away. -/
theorem exists_neighbour_near (m : Magnitude) (q : ℤ) :
    ∃ g, (g = m.below q ∨ g = m.above q) ∧ |g.value - m.value| ≤ 1 / 2 * 10 ^ q := by
  have hpow := (ten_zpow_pos q).le
  rcases le_total (m.excess q) (1 / 2) with hle | hge
  · refine ⟨_, .inl rfl, ?_⟩
    rw [abs_sub_below]
    exact mul_le_mul_of_nonneg_right hle hpow
  · refine ⟨_, .inr rfl, ?_⟩
    rw [abs_sub_above]
    exact mul_le_mul_of_nonneg_right (by linarith) hpow

/-- A decimal of the grid that is read as the magnitude is not nearer than a neighbour that is
read so, too. -/
theorem exists_neighbour_read {d : Decimal} (hread : d.magnitude? = some m) :
    ∃ g, (g = m.below d.exponent ∨ g = m.above d.exponent) ∧ g.magnitude? = some m ∧
      |g.value - m.value| ≤ |d.value - m.value| := by
  have hpow := ten_zpow_pos d.exponent
  have hvalue : ∀ {a b : Nat}, a ≤ b →
      (Decimal.mk a d.exponent).value ≤ (Decimal.mk b d.exponent).value :=
    fun h => mul_le_mul_of_nonneg_right (Nat.cast_le.mpr h) hpow.le
  rcases Nat.lt_or_ge (m.below d.exponent).digits d.digits with hlt | hle
  · have hbetween : (m.above d.exponent).value ≤ d.value := hvalue hlt
    have habove := (m.lt_above d.exponent).le
    refine ⟨_, .inr rfl, Decimal.magnitude?_of_between hread (.inr ⟨habove, hbetween⟩), ?_⟩
    rw [abs_of_nonneg (by linarith), abs_of_nonneg (by linarith)]
    linarith
  · have hbetween : d.value ≤ (m.below d.exponent).value := hvalue hle
    have hbelow := m.below_le d.exponent
    refine ⟨_, .inl rfl, Decimal.magnitude?_of_between hread (.inl ⟨hbetween, hbelow⟩), ?_⟩
    rw [abs_of_nonpos (by linarith), abs_of_nonpos (by linarith)]
    linarith

variable {tie : Tie} {q : ℤ} {d g : Decimal}

/-- What is found on a grid is the nearer one of the neighbours that are read as the magnitude. -/
theorem abs_sub_onGrid_le (h : m.onGrid? tie q = some d) (hg : g = m.below q ∨ g = m.above q)
    (hread : g.magnitude? = some m) : |d.value - m.value| ≤ |g.value - m.value| := by
  have hden : (0 : ℚ) < gridDenominator q := Nat.cast_pos.mpr (gridDenominator_pos q)
  have hpow := (ten_zpow_pos q).le
  rcases onGrid?_cases h with ⟨rfl, -, hnearer⟩ | ⟨rfl, -, hnearer⟩ <;> rcases hg with rfl | rfl
  · exact le_rfl
  · have hhalf : (2 : ℚ) * m.gridRest q ≤ gridDenominator q := by exact_mod_cast hnearer hread
    have hexcess : m.excess q ≤ 1 / 2 := by
      rw [excess, div_le_iff₀ hden]
      linarith
    rw [abs_sub_below, abs_sub_above]
    exact mul_le_mul_of_nonneg_right (by linarith) hpow
  · have hhalf : (gridDenominator q : ℚ) ≤ 2 * m.gridRest q := by exact_mod_cast hnearer hread
    have hexcess : 1 / 2 ≤ m.excess q := by
      rw [excess, le_div_iff₀ hden]
      linarith
    rw [abs_sub_below, abs_sub_above]
    exact mul_le_mul_of_nonneg_right (by linarith) hpow
  · exact le_rfl

/-! ## The first hit -/

theorem exists_onGrid?_eq (tie : Tie) (hread : d.magnitude? = some m) :
    ∃ g, m.onGrid? tie d.exponent = some g ∧ |g.value - m.value| ≤ |d.value - m.value| := by
  obtain ⟨g, hg, hgread, hnear⟩ := exists_neighbour_read hread
  cases hit : m.onGrid? tie d.exponent with
  | none =>
    have hmiss := onGrid?_eq_none_iff.mp hit
    rcases hg with rfl | rfl
    · exact absurd hgread hmiss.1
    · exact absurd hgread hmiss.2
  | some found => exact ⟨found, rfl, (abs_sub_onGrid_le hit hg hgread).trans hnear⟩

theorem exists_of_digits_lt (hm : m ≠ .zero) {k : Nat} (hread : d.magnitude? = some m)
    (hdigits : d.digits < 10 ^ (k + 1)) :
    ∃ g : Decimal, g.exponent = m.decimalExponent - k ∧ g.magnitude? = some m ∧
      |g.value - m.value| ≤ |d.value - m.value| := by
  rcases le_or_gt (m.decimalExponent - k) d.exponent with hfine | hcoarse
  · obtain ⟨z, hz⟩ := Int.le.dest hfine
    refine ⟨⟨d.digits * 10 ^ z, m.decimalExponent - k⟩, rfl, ?_, ?_⟩
    · rw [Decimal.magnitude?_shift, hz]
      exact hread
    · rw [Decimal.value_shift, hz]
  · -- The decimal is below the power of ten that the magnitude is not below.
    let g : Decimal := ⟨10 ^ k, m.decimalExponent - k⟩
    have hg : g.value = 10 ^ m.decimalExponent := by
      show ((10 ^ k : Nat) : ℚ) * 10 ^ (m.decimalExponent - k) = _
      rw [Nat.cast_pow, Nat.cast_ofNat, ten_zpow_sub]
    have hbelow : d.value ≤ g.value := by
      rw [hg]
      calc d.value ≤ 10 ^ (k + 1) * 10 ^ d.exponent := by
            refine mul_le_mul_of_nonneg_right ?_ (ten_zpow_pos _).le
            exact_mod_cast hdigits.le
        _ = 10 ^ (d.exponent + (k + 1 : Nat)) := (ten_zpow_add _ _).symm
        _ ≤ 10 ^ m.decimalExponent := ten_zpow_le (by omega)
    have hle : g.value ≤ m.value := hg ▸ (pow_decimalExponent hm).1
    refine ⟨g, rfl, Decimal.magnitude?_of_between hread (.inl ⟨hbelow, hle⟩), ?_⟩
    rw [abs_of_nonpos (by linarith), abs_of_nonpos (by linarith)]
    linarith

/-- The grid for a number of digits has a hit where some decimal with so many digits is read as
the magnitude, and the hit is at least as near. -/
theorem exists_hit (hm : m ≠ .zero) (tie : Tie) {k : Nat} (hread : d.magnitude? = some m)
    (hdigits : d.digits < 10 ^ (k + 1)) :
    ∃ g, m.onGrid? tie (m.decimalExponent - k) = some g ∧
      |g.value - m.value| ≤ |d.value - m.value| := by
  obtain ⟨g, hexponent, hgread, hgnear⟩ := exists_of_digits_lt hm hread hdigits
  obtain ⟨found, hfound, hnear⟩ := exists_onGrid?_eq tie hgread
  exact ⟨found, hexponent ▸ hfound, hnear.trans hgnear⟩

/-- Half a step of the grid for seventeen digits is less than what the magnitude is away from the
next one. -/
theorem exists_hit_seventeen (hm : m ≠ .zero) (tie : Tie) :
    ∃ g, m.onGrid? tie (m.decimalExponent - 16) = some g := by
  have hpow := ten_zpow_pos (m.decimalExponent - 16)
  have hvalue : 10 ^ 16 * 10 ^ (m.decimalExponent - 16) ≤ m.value :=
    (ten_zpow_sub m.decimalExponent 16).trans_le (pow_decimalExponent hm).1
  obtain ⟨g, hg, hnear⟩ := m.exists_neighbour_near (m.decimalExponent - 16)
  have hread : g.magnitude? = some m := Decimal.magnitude?_of_close (by linarith)
  have hexponent : g.exponent = m.decimalExponent - 16 := by rcases hg with rfl | rfl <;> rfl
  obtain ⟨found, hfound, -⟩ := exists_onGrid?_eq tie hread
  exact ⟨found, hexponent ▸ hfound⟩

/-- There is a hit, and the first one is taken. -/
theorem shortest_eq (hm : m ≠ .zero) (tie : Tie) :
    ∃ n : Nat, m.onGrid? tie (m.decimalExponent - n) = some (m.shortest tie) ∧
      ∀ j : Nat, j < n → m.onGrid? tie (m.decimalExponent - j) = none := by
  unfold shortest
  cases hit : (List.range 17).findSome? fun (n : Nat) => m.onGrid? tie (m.decimalExponent - n) with
  | none =>
    obtain ⟨found, hfound⟩ := exists_hit_seventeen hm tie
    have hmiss := List.findSome?_eq_none_iff.mp hit 16 (by decide)
    exact absurd (hfound.symm.trans hmiss) (Option.some_ne_none _)
  | some found =>
    obtain ⟨before, n, after, hsplit, hfound, hmiss⟩ := List.findSome?_eq_some_iff.mp hit
    refine ⟨n, hfound, fun j hj => hmiss j ?_⟩
    have hsorted := List.pairwise_lt_range (n := 17)
    have hmem : j ∈ List.range 17 := by
      have hn : n ∈ List.range 17 := by simp [hsplit]
      exact List.mem_range.mpr (hj.trans (List.mem_range.mp hn))
    rw [hsplit, List.pairwise_append, List.pairwise_cons] at hsorted
    rw [hsplit, List.mem_append, List.mem_cons] at hmem
    rcases hmem with hmem | rfl | hmem
    · exact hmem
    · exact absurd hj (lt_irrefl j)
    · exact absurd hj (hsorted.2.1.1 j hmem).not_gt

/-- A hit may have one digit more than its grid is for, but then it is a power of ten. -/
theorem digits_onGrid_le (hm : m ≠ .zero) {n : Nat}
    (h : m.onGrid? tie (m.decimalExponent - n) = some d) : d.digits ≤ 10 ^ (n + 1) := by
  have hpow := ten_zpow_pos (m.decimalExponent - n)
  have hbelow : (m.below (m.decimalExponent - n)).digits < 10 ^ (n + 1) := by
    have hvalue := (m.below_le (m.decimalExponent - n)).trans_lt (pow_decimalExponent hm).2
    have hshift := ten_zpow_add (m.decimalExponent - n) (n + 1)
    rw [Nat.cast_add_one, ← add_assoc, sub_add_cancel] at hshift
    rw [hshift] at hvalue
    exact_mod_cast lt_of_mul_lt_mul_right hvalue hpow.le
  rcases onGrid?_cases h with ⟨rfl, -, -⟩ | ⟨rfl, -, -⟩
  · exact hbelow.le
  · exact hbelow

end Magnitude

/-! ## Shortest digits -/

theorem dropTrailingZeros_toDigits {n : Nat} (hn : 0 < n) (z : Nat) :
    dropTrailingZeros (Nat.toDigits 10 (n * 10 ^ z)) = dropTrailingZeros (Nat.toDigits 10 n) := by
  induction z with
  | zero => rw [Nat.pow_zero, Nat.mul_one]
  | succ z ih =>
    have happend := Nat.toDigits_append_toDigits (b := 10) (n := n * 10 ^ z) (d := 0) (by decide)
      (Nat.mul_pos hn (Nat.pow_pos (by decide))) (by decide)
    rw [← ih, Nat.pow_succ, ← Nat.mul_assoc, Nat.mul_comm _ 10, ← Nat.add_zero (10 * _), ← happend]
    exact List.rdropWhile_concat_pos _ _ _ (by decide)

theorem Decimal.length_figures_le {d : Decimal} {k : Nat} (h : d.digits ≤ 10 ^ (k + 1)) :
    d.scientific.figures.length ≤ k + 1 := by
  rcases Nat.lt_or_eq_of_le h with hlt | heq
  · refine (prefix_dropTrailingZeros _).length_le.trans ?_
    exact (Nat.length_toDigits_le_iff (by decide) k.succ_pos).mpr hlt
  · have hone : d.scientific.figures = ['1'] := by
      show dropTrailingZeros (Nat.toDigits 10 d.digits) = ['1']
      rw [heq, ← Nat.one_mul (10 ^ _), dropTrailingZeros_toDigits Nat.one_pos]
      decide
    rw [hone, List.length_singleton]
    exact Nat.le_add_left 1 k

/-- A magnitude is read from the figures, no fewer figures would do, and none so few are
nearer. -/
structure Scientific.IsShortest (s : Scientific) (m : Magnitude) : Prop where
  isNormal : s.IsNormal
  read : s.decimal.magnitude? = some m
  least : ∀ d : Decimal, d.magnitude? = some m → ∀ k, d.digits < 10 ^ k → s.figures.length ≤ k
  nearest : ∀ d : Decimal, d.magnitude? = some m → d.digits < 10 ^ s.figures.length →
    |s.decimal.value - m.value| ≤ |d.value - m.value|

namespace Scientific

variable {s s' : Scientific} {m : Magnitude}

theorem IsShortest.digits_lt (h : s.IsShortest m) : s.decimal.digits < 10 ^ s.figures.length :=
  Numeral.ofDigitChars_lt h.isNormal.isDigits

theorem IsNormal.exponent_le (h : s.IsNormal) (h' : s'.IsNormal)
    (hvalue : s.decimal.value = s'.decimal.value) : s.exponent ≤ s'.exponent := by
  have hlt := h.pow_le_value.trans_lt (hvalue ▸ h'.value_lt)
  exact Int.lt_add_one_iff.mp ((zpow_lt_zpow_iff_right₀ (by norm_num)).mp hlt)

/-- The shortest digits of a magnitude are settled, unless the magnitude is half way between two
decimals. -/
theorem IsShortest.eq_or_tie (h : s.IsShortest m) (h' : s'.IsShortest m) :
    s = s' ∨ s.decimal.value + s'.decimal.value = 2 * m.value := by
  have hlength : s.figures.length = s'.figures.length :=
    Nat.le_antisymm (h.least _ h'.read _ h'.digits_lt) (h'.least _ h.read _ h.digits_lt)
  have hnear : |s.decimal.value - m.value| = |s'.decimal.value - m.value| :=
    le_antisymm (h.nearest _ h'.read (hlength ▸ h'.digits_lt))
      (h'.nearest _ h.read (hlength ▸ h.digits_lt))
  rcases abs_eq_abs.mp hnear with hvalue | hmirror
  · have hvalue : s.decimal.value = s'.decimal.value := sub_left_inj.mp hvalue
    have hexponent : s.exponent = s'.exponent :=
      le_antisymm (h.isNormal.exponent_le h'.isNormal hvalue)
        (h'.isNormal.exponent_le h.isNormal hvalue.symm)
    have hdigits : s.decimal.digits = s'.decimal.digits := by
      rw [Decimal.value, Decimal.value, decimal, decimal, hexponent, hlength] at hvalue
      exact_mod_cast mul_right_cancel₀ (ten_zpow_pos _).ne' hvalue
    have hfigures : s.figures = s'.figures :=
      Numeral.ofDigitChars_inj h.isNormal.isDigits h'.isNormal.isDigits hlength hdigits
    obtain ⟨figures, exponent⟩ := s
    exact .inl (congrArg₂ Scientific.mk hfigures hexponent)
  · exact .inr (by linarith)

end Scientific

namespace Magnitude

theorem isShortest {m : Magnitude} (hm : m ≠ .zero) (tie : Tie) :
    (m.shortest tie).scientific.IsShortest m := by
  obtain ⟨n, hhit, hmiss⟩ := shortest_eq hm tie
  have hlength := Decimal.length_figures_le (digits_onGrid_le hm hhit)
  refine ⟨Scientific.isNormal_scientific (digits_shortest_ne_zero hm tie), ?_, ?_, ?_⟩
  · rw [Decimal.magnitude?_scientific, magnitude?_shortest]
  · intro d hread k hdigits
    refine hlength.trans ?_
    have hpos : d.digits ≠ 0 := Decimal.digits_ne_zero hm hread
    obtain ⟨k, rfl⟩ : ∃ j, k = j + 1 := by
      refine Nat.exists_eq_add_one.mpr (Nat.pos_of_ne_zero ?_)
      rintro rfl
      exact hpos (Nat.lt_one_iff.mp hdigits)
    obtain ⟨found, hfound, -⟩ := exists_hit hm tie hread hdigits
    by_contra hlt
    have hnone := hmiss k (by omega)
    exact absurd (hfound.symm.trans hnone) (Option.some_ne_none _)
  · intro d hread hdigits
    have hmore := hdigits.trans_le (Nat.pow_le_pow_right (by decide) hlength)
    obtain ⟨found, hfound, hnear⟩ := exists_hit hm tie hread hmore
    rw [hhit] at hfound
    rw [Decimal.value_scientific, Option.some.inj hfound]
    exact hnear

end Magnitude
end FormBuilder

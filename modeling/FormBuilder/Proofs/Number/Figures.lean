import FormBuilder.Field.Value
import FormBuilder.Proofs.Number.Grid
import Mathlib.Data.List.DropRight

/-!
The characters of numbers.  A positive number has a first figure that is not zero,
so among the numbers of a form only the zeros are written `0`.
-/

namespace FormBuilder

/-! ## Figures -/

theorem Nat.exists_toDigits_eq_cons {n : Nat} (h : n ≠ 0) :
    ∃ c rest, Nat.toDigits 10 n = c :: rest ∧ c ≠ '0' := by
  induction n using Nat.strong_induction_on with
  | _ n ih =>
    have hdigit : ∀ d, d < 10 → d ≠ 0 → Nat.digitChar d ≠ '0' := by decide
    by_cases hn : n < 10
    · exact ⟨_, [], Nat.toDigits_of_lt_base hn, hdigit n hn h⟩
    · obtain ⟨c, rest, hc, hne⟩ := ih (n / 10) (by omega) (by omega)
      refine ⟨c, rest ++ [Nat.digitChar (n % 10)], ?_, hne⟩
      rw [Nat.toDigits_of_base_le (by decide) (by omega), hc, List.cons_append]

theorem prefix_dropTrailingZeros (figures : List Char) :
    dropTrailingZeros figures <+: figures :=
  List.rdropWhile_prefix _ figures

theorem exists_dropTrailingZeros_eq_cons {c : Char} (h : c ≠ '0') (rest : List Char) :
    ∃ kept, dropTrailingZeros (c :: rest) = c :: kept := by
  have hne : dropTrailingZeros (c :: rest) ≠ [] := by
    intro hnil
    have hall := List.rdropWhile_eq_nil_iff.mp hnil c List.mem_cons_self
    exact h (by simpa using hall)
  obtain ⟨d, kept, hd⟩ := List.exists_cons_of_ne_nil hne
  have hsub := prefix_dropTrailingZeros (c :: rest)
  rw [hd, List.cons_prefix_cons] at hsub
  exact ⟨kept, by rw [hd, hsub.1]⟩

namespace Decimal

theorem isDigit_of_mem_figures {d : Decimal} {c : Char} (h : c ∈ d.scientific.figures) :
    c.isDigit :=
  Nat.isDigit_of_mem_toDigits (by decide) (by decide) ((prefix_dropTrailingZeros _).subset h)

theorem exists_figures_eq_cons {d : Decimal} (h : d.digits ≠ 0) :
    ∃ c rest, d.scientific.figures = c :: rest ∧ c ≠ '0' := by
  obtain ⟨c, rest, hc, hne⟩ := Nat.exists_toDigits_eq_cons h
  obtain ⟨kept, hkept⟩ := exists_dropTrailingZeros_eq_cons hne rest
  refine ⟨c, kept, ?_, hne⟩
  show dropTrailingZeros (Nat.toDigits 10 d.digits) = c :: kept
  rw [hc, hkept]

theorem digits_ne_zero {d : Decimal} {m : Magnitude} (hm : m ≠ .zero)
    (h : d.magnitude? = some m) : d.digits ≠ 0 := by
  intro hd
  rw [magnitude?, if_pos hd, Option.some.injEq] at h
  exact hm h.symm

end Decimal

/-! ## Shortest digits -/

namespace Magnitude

theorem units_ne_zero {m : Magnitude} (h : m ≠ .zero) : m.units ≠ 0 := by
  have hpos : m.position.val ≠ 0 := by
    intro hzero
    exact h (congrArg Magnitude.mk (Fin.ext hzero))
  have hsize : 0 < binadeSize := by decide
  have hpow := Nat.two_pow_pos (m.exponentBits - 1)
  unfold units
  split_ifs with hexp
  · have hdecomp := Nat.div_add_mod m.position.val binadeSize
    unfold exponentBits at hexp
    rw [hexp, Nat.mul_zero, Nat.zero_add] at hdecomp
    unfold fractionBits
    rw [hdecomp]
    exact hpos
  · exact Nat.mul_ne_zero (by omega) (Nat.ne_of_gt hpow)

theorem digits_shortest_ne_zero {m : Magnitude} (h : m ≠ .zero) (tie : Tie) :
    (m.shortest tie).digits ≠ 0 := by
  unfold shortest
  cases hit : (List.range 17).findSome? fun (n : Nat) => m.onGrid? tie (m.decimalExponent - n) with
  | none =>
    have hfive : ∀ n, Nat.pow 5 n ≠ 0 := fun n => Nat.ne_of_gt (Nat.pow_pos (by decide))
    rw [Option.getD_none, exactDecimal]
    exact Nat.mul_ne_zero (units_ne_zero h) (hfive 1074)
  | some d =>
    obtain ⟨n, -, hn⟩ := List.exists_of_findSome?_eq_some hit
    exact Decimal.digits_ne_zero h (magnitude?_onGrid hn)

end Magnitude

/-! ## Characters -/

/-- What finite numbers are written with. -/
def isNumberChar (c : Char) : Bool := c.isDigit || ['+', '-', '.', 'e'].contains c

/-- A text made of such characters. -/
def IsNumberText (t : List Char) : Prop := ∀ c ∈ t, isNumberChar c = true

@[simp]
theorem isNumberText_cons {c : Char} {t : List Char} :
    IsNumberText (c :: t) ↔ isNumberChar c = true ∧ IsNumberText t := List.forall_mem_cons

@[simp]
theorem isNumberText_append {t u : List Char} :
    IsNumberText (t ++ u) ↔ IsNumberText t ∧ IsNumberText u := List.forall_mem_append

theorem isNumberText_of_isDigit {t : List Char} (h : ∀ c ∈ t, c.isDigit = true) :
    IsNumberText t := by
  intro c hc
  rw [isNumberChar, h c hc, Bool.true_or]

theorem isNumberText_toDigits (n : Nat) : IsNumberText (Nat.toDigits 10 n) :=
  isNumberText_of_isDigit fun _ hc => Nat.isDigit_of_mem_toDigits (by decide) (by decide) hc

theorem isNumberText_zeros (n : Nat) : IsNumberText (List.replicate n '0') := by
  intro c hc
  rw [List.eq_of_mem_replicate hc]
  decide

theorem IsNumberText.sublist {t u : List Char} (h : IsNumberText u) (hsub : t.Sublist u) :
    IsNumberText t := fun c hc => h c (hsub.subset hc)

namespace Scientific

variable {s : Scientific} (h : IsNumberText s.figures)
include h

theorem isNumberText_positional : IsNumberText s.positional := by
  have htake := fun n => h.sublist (List.take_sublist n s.figures)
  have hdrop := fun n => h.sublist (List.drop_sublist n s.figures)
  unfold positional
  extract_lets point
  split_ifs
  · simp only [isNumberText_cons, isNumberText_append]
    exact ⟨by decide, by decide, isNumberText_zeros _, h⟩
  · exact isNumberText_append.mpr ⟨h, isNumberText_zeros _⟩
  · simp only [isNumberText_cons, isNumberText_append]
    exact ⟨htake _, by decide, hdrop _⟩

theorem isNumberText_withExponent : IsNumberText s.withExponent := by
  have htake := h.sublist (List.take_sublist 1 s.figures)
  have hdrop := h.sublist (List.drop_sublist 1 s.figures)
  unfold withExponent
  extract_lets fraction sign
  have hfraction : IsNumberText fraction := by
    unfold fraction
    split
    · exact fun _ hc => absurd hc List.not_mem_nil
    · exact isNumberText_cons.mpr ⟨by decide, hdrop⟩
  have hsign : isNumberChar sign = true := by
    unfold sign
    split <;> decide
  simp only [isNumberText_cons, isNumberText_append]
  exact ⟨⟨htake, hfraction⟩, by decide, hsign, isNumberText_toDigits _⟩

end Scientific

namespace NumberStyle

theorem isNumberText_magnitude {style : NumberStyle} (h : IsNumberText style.wholeMark)
    (m : Magnitude) : IsNumberText (style.magnitude m) := by
  have hfigures : IsNumberText (m.shortest style.tie).scientific.figures :=
    isNumberText_of_isDigit fun _ hc => Decimal.isDigit_of_mem_figures hc
  unfold magnitude
  extract_lets s
  split_ifs
  · exact isNumberText_cons.mpr ⟨by decide, h⟩
  · exact isNumberText_append.mpr ⟨Scientific.isNumberText_positional hfigures, h⟩
  · rw [List.append_nil]
    exact Scientific.isNumberText_positional hfigures
  · exact Scientific.isNumberText_withExponent hfigures

theorem isNumberText_finite {style : NumberStyle} (h : IsNumberText style.wholeMark)
    (negative : Bool) (m : Magnitude) : IsNumberText (style.finite negative m) := by
  unfold finite
  split_ifs
  · exact isNumberText_cons.mpr ⟨by decide, isNumberText_magnitude h m⟩
  · exact isNumberText_magnitude h m

end NumberStyle

/-! ## Zero -/

theorem Scientific.positional_ne_zero {s : Scientific} {c : Char} {rest : List Char}
    (h : s.figures = c :: rest) (hc : c ≠ '0') : s.positional ≠ ['0'] := by
  unfold positional
  extract_lets point
  split_ifs with hpoint hlength
  · simp
  · rw [h, List.cons_append]
    exact fun he => hc (List.cons.inj he).1
  · have htake : point.toNat = point.toNat - 1 + 1 := by omega
    rw [h, htake, List.take_succ_cons, List.cons_append]
    exact fun he => hc (List.cons.inj he).1

theorem Scientific.withExponent_ne_zero {s : Scientific} {c : Char} {rest : List Char}
    (h : s.figures = c :: rest) (hc : c ≠ '0') : s.withExponent ≠ ['0'] := by
  rw [withExponent, h, List.take_succ_cons]
  exact fun he => hc (List.cons.inj he).1

namespace Value

theorem isNumberText_formatNumber (negative : Bool) (m : Magnitude) :
    IsNumberText (formatNumber (.finite negative m)) :=
  NumberStyle.isNumberText_finite (fun _ hc => absurd hc List.not_mem_nil) negative m

/-- A character of no finite number and of neither word stands in no number. -/
theorem not_mem_formatNumber {c : Char} (h : isNumberChar c = false)
    (hword : c ∉ "-NaInfity".toList) (x : Binary64) : c ∉ formatNumber x := by
  have hnan : formatNumber .nan ⊆ "-NaInfity".toList := by decide
  have hinfinite : ∀ negative, formatNumber (.infinite negative) ⊆ "-NaInfity".toList := by decide
  intro hc
  cases x with
  | nan => exact hword (hnan hc)
  | infinite negative => exact hword (hinfinite negative hc)
  | finite negative m =>
    rw [isNumberText_formatNumber negative m c hc] at h
    exact Bool.noConfusion h

theorem magnitude_ne_zero {m : Magnitude} (h : m ≠ .zero) : numberStyle.magnitude m ≠ ['0'] := by
  obtain ⟨c, rest, hfigures, hc⟩ :=
    Decimal.exists_figures_eq_cons (Magnitude.digits_shortest_ne_zero h numberStyle.tie)
  unfold NumberStyle.magnitude
  rw [if_neg h]
  extract_lets s
  split_ifs
  · exact (List.append_nil s.positional).symm ▸ Scientific.positional_ne_zero hfigures hc
  · exact (List.append_nil s.positional).symm ▸ Scientific.positional_ne_zero hfigures hc
  · exact Scientific.withExponent_ne_zero hfigures hc

/-- Both zeros are written `0`, and nothing else is. -/
theorem formatNumber_eq_zero_iff {x : Binary64} : formatNumber x = ['0'] ↔ x.isZero = true := by
  cases x with
  | nan => decide
  | infinite negative => cases negative <;> decide
  | finite negative m =>
    by_cases hm : m = .zero
    · subst hm
      cases negative <;> decide
    · have hzero : (Binary64.finite negative m).isZero = false := by
        simpa [Binary64.isZero] using hm
      rw [hzero]
      simp only [formatNumber, NumberStyle.finite]
      split_ifs
      · simp
      · simp [magnitude_ne_zero hm]

theorem formatNumber_eq_nan_iff {x : Binary64} :
    formatNumber x = ['N', 'a', 'N'] ↔ x.isNaN = true := by
  cases x with
  | nan => decide
  | infinite negative => cases negative <;> decide
  | finite negative m =>
    have hfinite : formatNumber (.finite negative m) ≠ ['N', 'a', 'N'] := by
      intro h
      have hN := isNumberText_formatNumber negative m 'N' (by rw [h]; exact List.mem_cons_self)
      exact absurd hN (by decide)
    simp [hfinite, Binary64.isNaN]

end Value

end FormBuilder

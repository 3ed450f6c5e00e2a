import FormBuilder.Proofs.Number.Shortest
import FormBuilder.Proofs.Source.Evaluation

/-!
Numbers as the language of the sources writes them.  The language chooses the notation by where
the point is among the shortest digits; the form builder compares the number with a millionth and
with `10 ^ 21`.  The two choices are the same for every number, next to these limits as well:
`isWritten_formatNumber`.
-/

namespace FormBuilder

/-! ## Limits -/

namespace Scientific

variable {s : Scientific} {m : Magnitude}

/-- Shortest digits reach a power of ten if the magnitude reaches what the power is read as.
Just below that magnitude they stay below the power, as even the last decimal with one digit
before it is read as something less. -/
theorem IsShortest.le_exponent_iff {a : ℤ} {b : Magnitude}
    (hpower : (Decimal.mk 1 a).place = b.position.val)
    (hbefore : (Decimal.mk 9 (a - 1)).place < b.position.val) (h : s.IsShortest m) :
    a ≤ s.exponent ↔ b ≤ m := by
  have hvalue : (Decimal.mk 1 a).value = 10 ^ a := by
    rw [Decimal.value, Nat.cast_one, one_mul]
  have hread := Decimal.magnitude?_eq_some_iff.mp h.read
  have hle : b ≤ m ↔ b.position.val ≤ m.position.val := Iff.rfl
  rw [hle, ← hpower, ← hread]
  constructor
  · intro ha
    refine Decimal.place_mono ?_
    rw [hvalue]
    exact (ten_zpow_le ha).trans h.isNormal.pow_le_value
  · intro hplace
    by_contra hlt
    have hbelow : s.decimal.value ≤ (Decimal.mk 1 a).value := by
      rw [hvalue]
      exact h.isNormal.value_lt.le.trans (ten_zpow_le (by omega))
    have hpoint : (Decimal.mk 1 a).magnitude? = some m := by
      rw [Decimal.magnitude?_eq_some_iff, ← hread]
      exact Nat.le_antisymm hplace (Decimal.place_mono hbelow)
    -- The power itself is read as the magnitude, so there is one figure only.
    have hlength : s.figures.length = 1 := by
      obtain ⟨c, rest, hcons, -⟩ := h.isNormal.leading
      have hone : 1 < 10 ^ 1 := by decide
      exact Nat.le_antisymm (h.least _ hpoint 1 hone) (hcons ▸ Nat.le_add_left 1 _)
    have hdigits := h.digits_lt
    have hexponent : s.decimal.exponent ≤ a - 1 := by
      show s.exponent + 1 - s.figures.length ≤ a - 1
      omega
    have hnine : s.decimal.value ≤ (Decimal.mk 9 (a - 1)).value := by
      refine mul_le_mul ?_ (ten_zpow_le hexponent) (ten_zpow_pos _).le (Nat.cast_nonneg _)
      rw [hlength] at hdigits
      exact Nat.cast_le.mpr (Nat.le_of_lt_succ hdigits)
    have hsteps := Decimal.place_mono hnine
    omega

theorem IsShortest.millionth_le_iff (h : s.IsShortest m) : .millionth ≤ m ↔ -6 ≤ s.exponent :=
  (h.le_exponent_iff (by decide +kernel) (by decide +kernel)).symm

theorem IsShortest.lt_sextillion_iff (h : s.IsShortest m) : m < .sextillion ↔ s.exponent < 21 := by
  have hle : 21 ≤ s.exponent ↔ .sextillion ≤ m :=
    h.le_exponent_iff (by decide +kernel) (by decide +kernel)
  rw [← not_le, hle]
  exact Fin.not_le.symm

end Scientific

/-! ## Reading back -/

open Numeral (Spelling)

theorem splitSign_signed_text (negative : Bool) (p : Spelling) :
    Numeral.splitSign (signed negative p.text) = (negative, p.text) := by
  cases negative with
  | true => rfl
  | false =>
    have hminus : ∀ rest, p.text ≠ '-' :: rest := p.text_ne_cons (by decide)
    have hplus : ∀ rest, p.text ≠ '+' :: rest := p.text_ne_cons (by decide)
    exact Numeral.splitSign.eq_3 _ hminus hplus

/-- Digits are no letters, of either case. -/
theorem toLower_of_isDigit {c : Char} (h : c.isDigit = true) : c.toLower = c := by
  have hle := (Char.isDigit_iff_toNat.mp h).2
  have hupper : ¬ (c.val ≥ 'A'.val ∧ c.val ≤ 'Z'.val) := by
    rintro ⟨hge, -⟩
    have hge : 'A'.toNat ≤ c.toNat := UInt32.le_iff_toNat_le.mp hge
    exact absurd (hge.trans hle) (by decide)
  exact dif_neg hupper

theorem ofText?_signed_text (negative : Bool) (p : Spelling) :
    Binary64.ofText? (signed negative p.text) = some (p.decimal.toBinary64 negative) := by
  obtain ⟨c, rest, hcons, hc⟩ := p.exists_text_eq_cons
  have hlower : p.text.map Char.toLower = c :: rest.map Char.toLower := by
    rw [hcons, List.map_cons, toLower_of_isDigit hc]
  have hword : ∀ w : String, w.toList.any Char.isDigit = false →
      String.ofList (p.text.map Char.toLower) ≠ w := by
    rintro w hw rfl
    rw [String.toList_ofList, hlower, List.any_cons, hc] at hw
    exact Bool.noConfusion hw
  unfold Binary64.ofText?
  rw [splitSign_signed_text]
  dsimp only
  split
  · exact absurd ‹_› (hword "nan" rfl)
  · exact absurd ‹_› (hword "inf" rfl)
  · exact absurd ‹_› (hword "infinity" rfl)
  · rw [Numeral.decimal?_text]
    rfl

/-! ## Notation -/

namespace Source

/-- The digits of a number and where its point is among them, as the language writes them. -/
def layout (figures : List Char) (n : ℤ) : List Char :=
  if figures.length ≤ n ∧ n ≤ 21 then
    figures ++ List.replicate (n - figures.length).toNat '0'
  else if 0 < n ∧ n ≤ 21 then
    figures.take n.toNat ++ '.' :: figures.drop n.toNat
  else if -6 < n ∧ n ≤ 0 then
    '0' :: '.' :: (List.replicate (-n).toNat '0' ++ figures)
  else
    figures.take 1 ++ Numeral.pointed (figures.drop 1) ++
      'e' :: (if 0 < n then '+' else '-') :: Nat.toDigits 10 (n - 1).natAbs

/-- A number and a text that the language writes for it.  Of several shortest digits the nearest
are meant; where two are equally near, `Scientific.IsShortest.eq_or_tie`, either may be taken. -/
inductive IsWritten : Binary64 → List Char → Prop
  | nan : IsWritten .nan "NaN".toList
  | infinite (negative : Bool) :
    IsWritten (.infinite negative) (signed negative "Infinity".toList)
  | zero (negative : Bool) : IsWritten (.finite negative .zero) ['0']
  | finite (negative : Bool) {m : Magnitude} {s : Scientific} (hm : m ≠ .zero)
    (h : s.IsShortest m) :
    IsWritten (.finite negative m) (signed negative (layout s.figures (s.exponent + 1)))

theorem layout_eq {s : Scientific} (h : s.IsNormal) : layout s.figures (s.exponent + 1) =
    if -6 ≤ s.exponent ∧ s.exponent < 21 then s.positional else s.withExponent := by
  obtain ⟨c, rest, hcons, -⟩ := h.leading
  have hlength : 0 < s.figures.length := hcons ▸ Nat.succ_pos _
  unfold layout
  by_cases hlimits : -6 ≤ s.exponent ∧ s.exponent < 21
  · rw [if_pos hlimits, Scientific.positional]
    by_cases hpoint : s.exponent + 1 ≤ 0
    · rw [if_neg (by omega), if_neg (by omega), if_pos (by omega), if_pos hpoint]
    · by_cases hwhole : s.figures.length ≤ s.exponent + 1
      · rw [if_pos (by omega), if_neg hpoint, if_pos hwhole]
      · rw [if_neg (by omega), if_pos (by omega), if_neg hpoint, if_neg hwhole]
  · have hsign : (if 0 < s.exponent + 1 then '+' else '-') =
        if s.exponent < 0 then '-' else '+' := by
      by_cases hnegative : s.exponent < 0
      · rw [if_neg (by omega), if_pos hnegative]
      · rw [if_pos (by omega), if_neg hnegative]
    rw [if_neg hlimits, if_neg (by omega), if_neg (by omega), if_neg (by omega), hsign,
      add_sub_cancel_right]
    rfl

theorem positional_iff {m : Magnitude} {s : Scientific} (h : s.IsShortest m) :
    Value.numberStyle.positional m s = true ↔ -6 ≤ s.exponent ∧ s.exponent < 21 := by
  rw [← h.millionth_le_iff, ← h.lt_sextillion_iff]
  simp [Value.numberStyle]

theorem exists_magnitude_eq {m : Magnitude} (hm : m ≠ .zero) :
    ∃ s : Scientific, s.IsShortest m ∧
      Value.numberStyle.magnitude m = layout s.figures (s.exponent + 1) := by
  let s := (m.shortest Value.numberStyle.tie).scientific
  have h : s.IsShortest m := Magnitude.isShortest hm Value.numberStyle.tie
  have hmagnitude : Value.numberStyle.magnitude m =
      if Value.numberStyle.positional m s = true then s.positional ++ if s.isWhole then [] else []
      else s.withExponent := if_neg hm
  refine ⟨s, h, ?_⟩
  rw [hmagnitude, layout_eq h.isNormal, ite_self, List.append_nil]
  exact if_congr (positional_iff h) rfl rfl

theorem ofText?_formatNumber (x : Binary64) :
    Binary64.ofText? (Value.formatNumber x) = some x.withoutZeroSign := by
  rcases x with _ | (_ | _) | ⟨negative, m⟩
  · rfl
  · rfl
  · rfl
  · obtain ⟨p, htext, hvalue⟩ := Value.exists_spelling negative m
    rw [htext, ofText?_signed_text, hvalue]

/-- Every number is written as the language writes it, and is read back from what is written,
but a zero has no sign. -/
theorem isWritten_formatNumber (x : Binary64) : IsWritten x (Value.formatNumber x) ∧
    Binary64.ofText? (Value.formatNumber x) = some x.withoutZeroSign := by
  refine ⟨?_, ofText?_formatNumber x⟩
  rcases x with _ | (_ | _) | ⟨negative, m⟩
  · exact .nan
  · exact .infinite false
  · exact .infinite true
  · by_cases hm : m = .zero
    · subst hm
      rw [Value.formatNumber_eq_zero_iff.mpr rfl]
      exact .zero negative
    · obtain ⟨s, h, hmagnitude⟩ := exists_magnitude_eq hm
      rw [Value.formatNumber_finite, hmagnitude, decide_eq_true hm, Bool.and_true]
      exact .finite negative hm h

/-- The last number before `10 ^ 21`. -/
example : Value.formatNumber (.finite false ⟨⟨0x444B1AE4D6E2EF4F, by decide⟩⟩) =
    "999999999999999900000".toList := by decide +kernel

example : Value.formatNumber (.finite true .sextillion) = "-1e+21".toList := by decide +kernel

end Source
end FormBuilder

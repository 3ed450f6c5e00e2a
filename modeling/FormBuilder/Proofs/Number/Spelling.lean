import FormBuilder.Proofs.Number.Value

/-!
How numbers are spelled.  A `Spelling` has digits, perhaps a fraction and perhaps an
exponent, and stands for a decimal.  What is written for a magnitude is a spelling of a
decimal that is read back as the magnitude: `NumberStyle.exists_spelling`.
-/

namespace FormBuilder
namespace Numeral

/-! ## Digits -/

def IsDigits (s : List Char) : Prop := ∀ c ∈ s, c.isDigit = true

@[simp]
theorem isDigits_nil : IsDigits [] := fun _ hc => absurd hc List.not_mem_nil

@[simp]
theorem isDigits_append {s t : List Char} : IsDigits (s ++ t) ↔ IsDigits s ∧ IsDigits t :=
  List.forall_mem_append

instance (s : List Char) : Decidable (IsDigits s) := List.decidableBAll _ s

theorem isDigits_zeros (n : Nat) : IsDigits (List.replicate n '0') := by
  intro c hc
  rw [List.eq_of_mem_replicate hc]
  rfl

theorem isDigits_toDigits (n : Nat) : IsDigits (Nat.toDigits 10 n) :=
  fun _ hc => Nat.isDigit_of_mem_toDigits (by decide) (by decide) hc

theorem IsDigits.sublist {s t : List Char} (h : IsDigits t) (hsub : s.Sublist t) : IsDigits s :=
  fun c hc => h c (hsub.subset hc)

theorem ofDigitChars_lt {s : List Char} (h : IsDigits s) :
    Nat.ofDigitChars 10 s 0 < 10 ^ s.length := by
  induction s with
  | nil => exact Nat.one_pos
  | cons c s ih =>
    have hc := (Char.isDigit_iff_toNat.mp (h c List.mem_cons_self)).2
    have hs := ih fun d hd => h d (List.mem_cons_of_mem c hd)
    have hdigit : c.toNat - '0'.toNat ≤ 9 := Nat.sub_le_of_le_add hc
    have hmul := Nat.mul_le_mul_left (10 ^ s.length) hdigit
    rw [Nat.ofDigitChars_cons, Nat.ofDigitChars_eq_ofDigitChars_zero, Nat.mul_zero, Nat.zero_add,
      List.length_cons, Nat.pow_succ]
    omega

/-- Digits of one length are told apart by their number. -/
theorem ofDigitChars_inj {s t : List Char} (hs : IsDigits s) (ht : IsDigits t)
    (hlength : s.length = t.length) (h : Nat.ofDigitChars 10 s 0 = Nat.ofDigitChars 10 t 0) :
    s = t := by
  induction s generalizing t with
  | nil => exact (List.length_eq_zero_iff.mp hlength.symm).symm
  | cons c s ih =>
    obtain ⟨d, t, rfl⟩ := List.exists_cons_of_length_eq_add_one hlength.symm
    have hlength : s.length = t.length := Nat.succ.inj hlength
    obtain ⟨hc, hs⟩ := List.forall_mem_cons.mp hs
    obtain ⟨hd, ht⟩ := List.forall_mem_cons.mp ht
    rw [Nat.ofDigitChars_cons, Nat.ofDigitChars_eq_ofDigitChars_zero, Nat.ofDigitChars_cons,
      Nat.ofDigitChars_eq_ofDigitChars_zero (l := t), Nat.mul_zero, Nat.zero_add, Nat.zero_add,
      hlength] at h
    have hpos : 0 < 10 ^ t.length := Nat.pow_pos (by decide)
    have hfirst := congrArg (· / 10 ^ t.length) h
    simp only [Nat.mul_add_div hpos, Nat.div_eq_of_lt (hlength ▸ ofDigitChars_lt hs),
      Nat.div_eq_of_lt (ofDigitChars_lt ht), Nat.add_zero] at hfirst
    have hcd : c = d := by
      have hc := (Char.isDigit_iff_toNat.mp hc).1
      have hd := (Char.isDigit_iff_toNat.mp hd).1
      exact Char.toNat_inj.mp (by omega)
    rw [hfirst] at h
    rw [hcd, ih hs ht hlength (Nat.add_left_cancel h)]

theorem le_ofDigitChars {c : Char} {s : List Char} (hc : c.isDigit = true) (hne : c ≠ '0') :
    10 ^ s.length ≤ Nat.ofDigitChars 10 (c :: s) 0 := by
  have hge := (Char.isDigit_iff_toNat.mp hc).1
  have hdigit : c.toNat ≠ '0'.toNat := fun h => hne (Char.toNat_inj.mp h)
  have hmul := Nat.le_mul_of_pos_right (10 ^ s.length) (show 0 < c.toNat - '0'.toNat by omega)
  rw [Nat.ofDigitChars_cons, Nat.ofDigitChars_eq_ofDigitChars_zero, Nat.mul_zero, Nat.zero_add]
  exact Nat.le_add_right_of_le hmul

/-- Digits in front of a point.  A leading zero stands alone. -/
structure IsWhole (s : List Char) : Prop where
  isDigits : IsDigits s
  ne_nil : s ≠ []
  leading : s = ['0'] ∨ s.head? ≠ some '0'

theorem isWhole_toDigits (n : Nat) : IsWhole (Nat.toDigits 10 n) where
  isDigits := isDigits_toDigits n
  ne_nil := Nat.toDigits_ne_nil
  leading := by
    by_cases hn : n = 0
    · subst hn
      exact .inl rfl
    · obtain ⟨c, rest, hcons, hc⟩ := Nat.exists_toDigits_eq_cons hn
      exact .inr (by simpa [hcons] using hc)

/-! ## Spellings -/

structure Exponent where
  negative : Bool
  digits : List Char
  isDigits : IsDigits digits
  ne_nil : digits ≠ []

namespace Exponent

def text (x : Exponent) : List Char := 'e' :: (if x.negative then '-' else '+') :: x.digits

def value (x : Exponent) : Int := signedExponent x.negative x.digits

/-- The exponent with a value. -/
def ofInt (n : Int) : Exponent where
  negative := n < 0
  digits := Nat.toDigits 10 n.natAbs
  isDigits := isDigits_toDigits _
  ne_nil := Nat.toDigits_ne_nil

@[simp]
theorem value_ofInt (n : Int) : (ofInt n).value = n := by
  simp only [value, ofInt, signedExponent, Nat.ofDigitChars_ten_toDigits, decide_eq_true_eq]
  split_ifs <;> omega

end Exponent

/-- A number without its sign, as it is written. -/
structure Spelling where
  whole : List Char
  fraction : List Char
  exponent? : Option Exponent
  isWhole : IsWhole whole
  isDigits : IsDigits fraction

/-- A fraction after its point, if there is one. -/
def pointed : List Char → List Char
  | [] => []
  | fraction => '.' :: fraction

theorem pointed_of_ne_nil {fraction : List Char} (h : fraction ≠ []) :
    pointed fraction = '.' :: fraction := by
  obtain ⟨c, rest, rfl⟩ := List.exists_cons_of_ne_nil h
  rfl

namespace Spelling

def text (s : Spelling) : List Char :=
  s.whole ++ (pointed s.fraction ++ s.exponent?.elim [] Exponent.text)

def decimal (s : Spelling) : Decimal :=
  .ofParts s.whole s.fraction (s.exponent?.elim 0 Exponent.value)

theorem exists_text_eq_cons (s : Spelling) : ∃ c rest, s.text = c :: rest ∧ c.isDigit = true := by
  obtain ⟨c, whole, hcons⟩ := List.exists_cons_of_ne_nil s.isWhole.ne_nil
  have hc : c.isDigit = true := s.isWhole.isDigits c (hcons ▸ List.mem_cons_self)
  exact ⟨c, _, by rw [text, hcons, List.cons_append], hc⟩

theorem text_ne_cons (s : Spelling) {c : Char} (h : c.isDigit = false) (rest : List Char) :
    s.text ≠ c :: rest := by
  obtain ⟨d, _, hcons, hd⟩ := s.exists_text_eq_cons
  intro htext
  rw [(List.cons.inj (hcons.symm.trans htext)).1, h] at hd
  exact Bool.noConfusion hd

/-- Is there neither a point nor an exponent? -/
def isInteger (s : Spelling) : Bool := s.fraction = [] && s.exponent?.isNone

/-- The spelling of an integer. -/
def ofNat (n : Nat) : Spelling where
  whole := Nat.toDigits 10 n
  fraction := []
  exponent? := none
  isWhole := isWhole_toDigits n
  isDigits := isDigits_nil

@[simp]
theorem text_ofNat (n : Nat) : (ofNat n).text = Nat.toDigits 10 n := List.append_nil _

@[simp]
theorem whole_ofNat (n : Nat) : (ofNat n).whole = Nat.toDigits 10 n := rfl

@[simp]
theorem isInteger_ofNat (n : Nat) : (ofNat n).isInteger = true := rfl

end Spelling
end Numeral

/-! ## Shortest digits -/

theorem dropTrailingZeros_append_zeros (figures : List Char) :
    ∃ z, figures = dropTrailingZeros figures ++ List.replicate z '0' := by
  refine ⟨(figures.rtakeWhile (· = '0')).length, ?_⟩
  have hzeros : figures.rtakeWhile (· = '0') =
      List.replicate (figures.rtakeWhile (· = '0')).length '0' :=
    List.eq_replicate_of_mem fun c hc => by simpa using List.mem_rtakeWhile_imp hc
  rw [← hzeros]
  exact List.rdropWhile_append_rtakeWhile.symm

namespace Scientific

/-- The number that the figures stand for. -/
def decimal (s : Scientific) : Decimal :=
  ⟨Nat.ofDigitChars 10 s.figures 0, s.exponent + 1 - s.figures.length⟩

end Scientific

namespace Decimal

/-- The figures are the digits without zeros at their end. -/
theorem exists_eq_mul_pow (d : Decimal) :
    ∃ z : Nat, d.digits = d.scientific.decimal.digits * 10 ^ z ∧
      d.scientific.decimal.exponent = d.exponent + z := by
  obtain ⟨z, hz⟩ := dropTrailingZeros_append_zeros (Nat.toDigits 10 d.digits)
  refine ⟨z, ?_, ?_⟩
  · have hread := congrArg (Nat.ofDigitChars 10 · 0) hz
    simp only [Nat.ofDigitChars_ten_toDigits, Nat.ofDigitChars_append,
      Nat.ofDigitChars_replicate_zero] at hread
    exact hread.trans (Nat.mul_comm _ _)
  · have hlength := congrArg List.length hz
    rw [List.length_append, List.length_replicate] at hlength
    show d.exponent + ↑(Nat.toDigits 10 d.digits).length - 1 + 1 -
      ↑(dropTrailingZeros (Nat.toDigits 10 d.digits)).length = d.exponent + z
    omega

theorem value_scientific (d : Decimal) : d.scientific.decimal.value = d.value := by
  obtain ⟨z, hdigits, hexponent⟩ := d.exists_eq_mul_pow
  have hshift := value_shift d.scientific.decimal.digits z d.exponent
  rw [← hdigits, ← hexponent] at hshift
  exact hshift.symm

theorem magnitude?_scientific (d : Decimal) :
    d.scientific.decimal.magnitude? = d.magnitude? :=
  magnitude?_congr d.value_scientific

end Decimal

namespace Scientific

open Numeral

/-- Figures are digits, and the first one is not zero. -/
structure IsNormal (s : Scientific) : Prop where
  isDigits : IsDigits s.figures
  leading : ∃ c rest, s.figures = c :: rest ∧ c ≠ '0'

theorem isNormal_scientific {d : Decimal} (h : d.digits ≠ 0) : IsNormal d.scientific where
  isDigits := fun _ hc => Decimal.isDigit_of_mem_figures hc
  leading := Decimal.exists_figures_eq_cons h

variable {s : Scientific}

/-- Figures in front of a point, perhaps with zeros after them. -/
theorem IsNormal.isWhole (h : IsNormal s) {n : Nat} (hn : 0 < n) (zeros : Nat) :
    IsWhole (s.figures.take n ++ List.replicate zeros '0') := by
  obtain ⟨c, rest, hcons, hc⟩ := h.leading
  obtain ⟨n, rfl⟩ := Nat.exists_eq_add_one.mpr hn
  have htake : IsDigits (s.figures.take (n + 1)) := h.isDigits.sublist (List.take_sublist _ _)
  refine ⟨isDigits_append.mpr ⟨htake, isDigits_zeros zeros⟩, ?_, .inr ?_⟩
  · simp [hcons]
  · simpa [hcons] using hc

/-- A number below one. -/
theorem exists_spelling_of_point_le (h : IsNormal s) (hpoint : s.exponent + 1 ≤ 0) :
    ∃ p : Spelling, p.text = s.positional ∧ p.decimal = s.decimal ∧ p.isInteger = false := by
  obtain ⟨c, rest, hcons, -⟩ := h.leading
  let fraction := List.replicate (-(s.exponent + 1)).toNat '0' ++ s.figures
  have hne : fraction ≠ [] := by simp [fraction, hcons]
  have hdigits : Nat.ofDigitChars 10 ('0' :: fraction) 0 = Nat.ofDigitChars 10 s.figures 0 := by
    rw [Nat.ofDigitChars_cons, Nat.ofDigitChars_append, Nat.ofDigitChars_replicate_zero]
    simp
  have hlength : (0 : Int) - fraction.length = s.exponent + 1 - s.figures.length := by
    simp only [fraction, List.length_append, List.length_replicate]
    omega
  let p : Spelling :=
    { whole := ['0'], fraction, exponent? := none
      isWhole := ⟨by decide, by decide, .inl rfl⟩
      isDigits := isDigits_append.mpr ⟨isDigits_zeros _, h.isDigits⟩ }
  refine ⟨p, ?_, ?_, ?_⟩
  · show ['0'] ++ (pointed fraction ++ []) = s.positional
    rw [positional, if_pos hpoint, pointed_of_ne_nil hne, List.append_nil]
    rfl
  · show Decimal.mk (Nat.ofDigitChars 10 ('0' :: fraction) 0) (0 - fraction.length) = s.decimal
    rw [hdigits, hlength, decimal]
  · simp [p, Spelling.isInteger, hne]

/-- A number of which some figures stand before the point and some after it. -/
theorem exists_spelling_of_lt_length (h : IsNormal s) (hpoint : ¬ s.exponent + 1 ≤ 0)
    (hlength : ¬ s.figures.length ≤ s.exponent + 1) :
    ∃ p : Spelling, p.text = s.positional ∧ p.decimal = s.decimal ∧ p.isInteger = false := by
  let n := (s.exponent + 1).toNat
  have hn : 0 < n := by omega
  have hne : s.figures.drop n ≠ [] := by
    rw [ne_eq, List.drop_eq_nil_iff]
    omega
  have hdrop : (0 : Int) - (s.figures.drop n).length = s.exponent + 1 - s.figures.length := by
    rw [List.length_drop]
    omega
  let p : Spelling :=
    { whole := s.figures.take n, fraction := s.figures.drop n, exponent? := none
      isWhole := List.append_nil (s.figures.take n) ▸ h.isWhole hn 0
      isDigits := h.isDigits.sublist (List.drop_sublist n s.figures) }
  refine ⟨p, ?_, ?_, ?_⟩
  · show s.figures.take n ++ (pointed (s.figures.drop n) ++ []) = s.positional
    rw [positional, if_neg hpoint, if_neg hlength, pointed_of_ne_nil hne, List.append_nil]
  · show Decimal.ofParts (s.figures.take n) (s.figures.drop n) 0 = s.decimal
    rw [Decimal.ofParts, List.take_append_drop, hdrop, decimal]
  · simp [p, Spelling.isInteger, hne]

/-- A whole number, with zeros after the point or without a point. -/
theorem exists_spelling_of_length_le (h : IsNormal s) (hpoint : ¬ s.exponent + 1 ≤ 0)
    (hlength : s.figures.length ≤ s.exponent + 1) (k : Nat) :
    ∃ p : Spelling, p.text = s.positional ++ pointed (List.replicate k '0') ∧
      p.decimal.magnitude? = s.decimal.magnitude? ∧ (k ≠ 0 → p.isInteger = false) := by
  obtain ⟨zeros, hzeros⟩ : ∃ zeros : Nat, s.exponent + 1 = s.figures.length + zeros :=
    Int.le.dest_sub hlength |>.imp fun _ hz => by omega
  let whole := s.figures ++ List.replicate zeros '0'
  have hwhole : IsWhole whole := by
    obtain ⟨c, rest, hcons, -⟩ := h.leading
    have := h.isWhole (n := s.figures.length) (by simp [hcons]) zeros
    rwa [List.take_length] at this
  have hdigits : Nat.ofDigitChars 10 (whole ++ List.replicate k '0') 0 =
      Nat.ofDigitChars 10 s.figures 0 * 10 ^ (zeros + k) := by
    rw [List.append_assoc, List.replicate_append_replicate, Nat.ofDigitChars_append,
      Nat.ofDigitChars_replicate_zero, Nat.mul_comm]
  let p : Spelling :=
    { whole, fraction := List.replicate k '0', exponent? := none, isWhole := hwhole
      isDigits := isDigits_zeros k }
  refine ⟨p, ?_, ?_, fun hk => ?_⟩
  · show whole ++ (pointed (List.replicate k '0') ++ []) = s.positional ++ pointed (List.replicate k '0')
    have hpad : (s.exponent + 1 - s.figures.length).toNat = zeros := by omega
    rw [positional, if_neg hpoint, if_pos hlength, hpad, List.append_nil]
  · show (Decimal.mk (Nat.ofDigitChars 10 (whole ++ List.replicate k '0') 0)
      (0 - (List.replicate k '0').length)).magnitude? = _
    have hexponent : (0 - (List.replicate k '0').length : Int) + ↑(zeros + k) =
        s.exponent + 1 - s.figures.length := by
      rw [List.length_replicate]
      omega
    rw [hdigits, Decimal.magnitude?_shift, hexponent, decimal]
  · simp [p, Spelling.isInteger, hk]

theorem exists_spelling_positional (h : IsNormal s) (k : Nat) :
    ∃ p : Spelling,
      p.text = s.positional ++ (if s.isWhole then pointed (List.replicate k '0') else []) ∧
      p.decimal.magnitude? = s.decimal.magnitude? ∧ (k ≠ 0 → p.isInteger = false) := by
  have hwhole : s.isWhole = true ↔ s.figures.length ≤ s.exponent + 1 := decide_eq_true_iff
  by_cases hlength : s.figures.length ≤ s.exponent + 1
  · have hpoint : ¬ s.exponent + 1 ≤ 0 := by
      obtain ⟨c, rest, hcons, -⟩ := h.leading
      rw [hcons, List.length_cons] at hlength
      omega
    rw [if_pos (hwhole.mpr hlength)]
    exact exists_spelling_of_length_le h hpoint hlength k
  · rw [if_neg (mt hwhole.mp hlength), List.append_nil]
    by_cases hpoint : s.exponent + 1 ≤ 0
    · obtain ⟨p, htext, hdecimal, hinteger⟩ := exists_spelling_of_point_le h hpoint
      exact ⟨p, htext, by rw [hdecimal], fun _ => hinteger⟩
    · obtain ⟨p, htext, hdecimal, hinteger⟩ := exists_spelling_of_lt_length h hpoint hlength
      exact ⟨p, htext, by rw [hdecimal], fun _ => hinteger⟩

theorem exists_spelling_withExponent (h : IsNormal s) :
    ∃ p : Spelling, p.text = s.withExponent ∧ p.decimal = s.decimal ∧ p.isInteger = false := by
  obtain ⟨c, rest, hcons, -⟩ := h.leading
  have hexponent : s.exponent - rest.length = s.exponent + 1 - (c :: rest).length := by
    rw [List.length_cons]
    omega
  let p : Spelling :=
    { whole := s.figures.take 1, fraction := s.figures.drop 1
      exponent? := some (.ofInt s.exponent)
      isWhole := List.append_nil (s.figures.take 1) ▸ h.isWhole Nat.one_pos 0
      isDigits := h.isDigits.sublist (List.drop_sublist 1 s.figures) }
  refine ⟨p, ?_, ?_, ?_⟩
  · rw [withExponent, List.append_assoc]
    simp only [p, Spelling.text, Exponent.text, Exponent.ofInt, Option.elim_some,
      decide_eq_true_eq]
    rfl
  · show Decimal.ofParts (s.figures.take 1) (s.figures.drop 1) (Exponent.ofInt s.exponent).value = _
    rw [Decimal.ofParts, List.take_append_drop, Exponent.value_ofInt, decimal, hcons]
    exact congrArg _ hexponent
  · simp [p, Spelling.isInteger]

end Scientific

/-! ## Magnitudes -/

namespace NumberStyle

open Numeral

variable {style : NumberStyle}

/-- What is written for a magnitude is read back as the magnitude.  Where whole numbers show
zeros after the point, it is no integer. -/
theorem exists_spelling {k : Nat} (h : style.wholeMark = pointed (List.replicate k '0'))
    (m : Magnitude) :
    ∃ p : Spelling, p.text = style.magnitude m ∧ p.decimal.magnitude? = some m ∧
      (k ≠ 0 → p.isInteger = false) := by
  by_cases hm : m = .zero
  · have hzeros : Nat.ofDigitChars 10 ('0' :: List.replicate k '0') 0 = 0 := by
      rw [← List.replicate_succ, Nat.ofDigitChars_replicate_zero, Nat.mul_zero]
    refine ⟨⟨['0'], List.replicate k '0', none, ⟨by decide, by decide, .inl rfl⟩, isDigits_zeros k⟩,
      ?_, ?_, fun hk => ?_⟩
    · rw [magnitude, if_pos hm, h, Spelling.text, Option.elim_none, List.append_nil]
      rfl
    · rw [hm, Spelling.decimal, Decimal.ofParts, List.singleton_append, hzeros]
      exact if_pos rfl
    · simp [Spelling.isInteger, hk]
  · let s := (m.shortest style.tie).scientific
    have hs : s.IsNormal :=
      Scientific.isNormal_scientific (Magnitude.digits_shortest_ne_zero hm style.tie)
    have hread : s.decimal.magnitude? = some m := by
      rw [Decimal.magnitude?_scientific, Magnitude.magnitude?_shortest]
    have hmagnitude : style.magnitude m =
        if style.positional m s then s.positional ++ if s.isWhole then style.wholeMark else []
        else s.withExponent := if_neg hm
    rw [hmagnitude, h]
    by_cases hpositional : style.positional m s = true
    · rw [if_pos hpositional]
      obtain ⟨p, htext, hdecimal, hinteger⟩ := Scientific.exists_spelling_positional hs k
      exact ⟨p, htext, by rw [hdecimal, hread], hinteger⟩
    · rw [if_neg hpositional]
      obtain ⟨p, htext, hdecimal, hinteger⟩ := Scientific.exists_spelling_withExponent hs
      exact ⟨p, htext, by rw [hdecimal, hread], fun _ => hinteger⟩

end NumberStyle
end FormBuilder

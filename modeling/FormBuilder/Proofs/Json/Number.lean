import FormBuilder.Json.Printer
import FormBuilder.Json.Reader
import FormBuilder.Proofs.Number.Spelling

/-!
Numbers are read back from their text, wherever the text ends: `readScalar_intText` and
`readScalar_floatText`.
-/

namespace FormBuilder
namespace Json

open Numeral

/-! ## Where a number ends -/

/-- No number goes on with this text. -/
def NumberEnds (s : List Char) : Prop :=
  ∀ c ∈ s.head?, c.isDigit = false ∧ c ≠ '.' ∧ c ≠ 'e' ∧ c ≠ 'E'

theorem numberEnds_nil : NumberEnds [] := fun _ hc => absurd hc (by simp)

theorem numberEnds_cons {c : Char} {s : List Char} :
    NumberEnds (c :: s) ↔ c.isDigit = false ∧ c ≠ '.' ∧ c ≠ 'e' ∧ c ≠ 'E' := by
  simp [NumberEnds]

/-- A text that does not start with a digit. -/
def NoDigit (s : List Char) : Prop := ∀ c ∈ s.head?, c.isDigit = false

theorem noDigit_cons {c : Char} {s : List Char} : NoDigit (c :: s) ↔ c.isDigit = false := by
  simp [NoDigit]

theorem NumberEnds.noDigit {s : List Char} (h : NumberEnds s) : NoDigit s :=
  fun c hc => (h c hc).1

theorem spanDigits_append {digits rest : List Char} (h : IsDigits digits) (hrest : NoDigit rest) :
    spanDigits (digits ++ rest) = (digits, rest) := by
  have hnone : rest.takeWhile Char.isDigit = [] ∧ rest.dropWhile Char.isDigit = rest := by
    cases rest with
    | nil => exact ⟨rfl, rfl⟩
    | cons c rest =>
      have hc : ¬ c.isDigit = true := by simp [noDigit_cons.mp hrest]
      exact ⟨List.takeWhile_cons_of_neg hc, List.dropWhile_cons_of_neg hc⟩
  rw [spanDigits, List.takeWhile_append_of_pos h, List.dropWhile_append_of_pos h, hnone.1, hnone.2,
    List.append_nil]

/-! ## Parts of a number -/

theorem bind_ok {α β : Type} (r : Except Error α) (f : α → β) :
    (r >>= fun a => .ok (f a)) = r.map f := by
  cases r <;> rfl

variable {negative : Bool} {rest : List Char}

theorem readExponent_text (whole fraction : List Char) (x : Exponent) (h : NumberEnds rest) :
    readExponent negative whole fraction ((if x.negative then '-' else '+') :: (x.digits ++ rest)) =
      (ofDecimal negative (.ofParts whole fraction x.value)).map (·, rest) := by
  have hsign : splitSign ((if x.negative then '-' else '+') :: (x.digits ++ rest)) =
      (x.negative, x.digits ++ rest) := by
    cases x.negative <;> rfl
  simp only [readExponent, hsign, spanDigits_append x.isDigits h.noDigit, if_neg x.ne_nil]
  exact bind_ok _ _

theorem readFraction_of_numberEnds (whole : List Char) (h : NumberEnds rest) :
    readFraction negative whole rest = (ofInteger negative whole).map (·, rest) := by
  have hne : ∀ s, rest ≠ '.' :: s ∧ rest ≠ 'e' :: s ∧ rest ≠ 'E' :: s := by
    refine fun s => ⟨?_, ?_, ?_⟩ <;>
    · rintro rfl
      simp [numberEnds_cons] at h
  rw [readFraction.eq_4 _ _ rest (fun s => (hne s).1) (fun s => (hne s).2.1) fun s => (hne s).2.2,
    bind_ok]

theorem readFraction_text (p : Spelling) (h : NumberEnds rest) :
    readFraction negative p.whole
        (pointed p.fraction ++ (p.exponent?.elim [] Exponent.text ++ rest)) =
      (if p.isInteger then ofInteger negative p.whole else ofDecimal negative p.decimal).map
        (·, rest) := by
  obtain ⟨whole, fraction, exponent?, hwhole, hfraction⟩ := p
  cases fraction with
  | nil =>
    cases exponent? with
    | none => exact readFraction_of_numberEnds whole h
    | some x => exact readExponent_text whole [] x h
  | cons c fraction =>
    have hne : ∀ s, rest ≠ 'e' :: s ∧ rest ≠ 'E' :: s := by
      refine fun s => ⟨?_, ?_⟩ <;>
      · rintro rfl
        simp [numberEnds_cons] at h
    cases exponent? with
    | none =>
      show readFraction negative whole ('.' :: (c :: fraction ++ rest)) = _
      simp only [readFraction, spanDigits_append hfraction h.noDigit, if_neg (List.cons_ne_nil c _)]
      split
      · exact absurd rfl (hne _).1
      · exact absurd rfl (hne _).2
      · exact bind_ok _ _
    | some x =>
      have hmark : NoDigit (x.text ++ rest) := noDigit_cons.mpr rfl
      show readFraction negative whole ('.' :: (c :: fraction ++ (x.text ++ rest))) = _
      simp only [readFraction, spanDigits_append hfraction hmark, if_neg (List.cons_ne_nil c _)]
      exact readExponent_text whole (c :: fraction) x h

/-- The digits in front of the point end where they seem to. -/
theorem noDigit_afterWhole (p : Spelling) (h : NoDigit rest) :
    NoDigit (pointed p.fraction ++ (p.exponent?.elim [] Exponent.text ++ rest)) := by
  cases p.fraction with
  | cons c fraction => exact noDigit_cons.mpr rfl
  | nil =>
    cases p.exponent? with
    | none => exact h
    | some x => exact noDigit_cons.mpr rfl

theorem readNumber_text (p : Spelling) (h : NumberEnds rest) :
    readNumber negative (p.text ++ rest) =
      (if p.isInteger then ofInteger negative p.whole else ofDecimal negative p.decimal).map
        (·, rest) := by
  have hafter := noDigit_afterWhole p h.noDigit
  have hleading : ∀ d s, p.whole ≠ '0' :: d :: s := by
    rintro d s hwhole
    have hleading := p.isWhole.leading
    simp [hwhole] at hleading
  simp only [readNumber, Spelling.text, List.append_assoc, spanDigits_append p.isWhole.isDigits hafter]
  split
  next heq => exact absurd (Prod.mk.inj heq).1 p.isWhole.ne_nil
  next heq => exact absurd (Prod.mk.inj heq).1 p.isWhole.ne_nil
  next heq => exact absurd (Prod.mk.inj heq).1 (hleading _ _)
  next heq =>
    obtain ⟨rfl, rfl⟩ := Prod.mk.inj heq
    exact readFraction_text p h

/-! ## Numbers as scalars -/

theorem readScalar_of_isDigit {c : Char} (h : c.isDigit = true) (s : List Char) :
    readScalar (c :: s) = readNumber false (c :: s) := by
  have hne : c ≠ 'n' ∧ c ≠ 't' ∧ c ≠ 'f' ∧ c ≠ '"' ∧ c ≠ '-' := by
    refine ⟨?_, ?_, ?_, ?_, ?_⟩ <;>
    · rintro rfl
      exact Bool.noConfusion h
  obtain ⟨hn, ht, hf, hquote, hminus⟩ := hne
  rw [readScalar.eq_7 c s hn ht hf hquote hminus, if_pos h]

/-- A number behind its sign, if it has one. -/
def signed (negative : Bool) (text : List Char) : List Char :=
  if negative then '-' :: text else text

theorem readScalar_signed (negative : Bool) (p : Spelling) (h : NumberEnds rest) :
    readScalar (signed negative p.text ++ rest) =
      (if p.isInteger then ofInteger negative p.whole else ofDecimal negative p.decimal).map
        (·, rest) := by
  cases negative with
  | true => exact readNumber_text p h
  | false =>
    obtain ⟨c, text, hcons, hc⟩ := p.exists_text_eq_cons
    rw [← readNumber_text p h]
    simp only [signed, Bool.false_eq_true, if_false, hcons, List.cons_append]
    exact readScalar_of_isDigit hc _

theorem intText_eq_signed (n : Int) :
    intText n = signed (n < 0) (Spelling.ofNat n.natAbs).text := by
  rw [Spelling.text_ofNat]
  cases n with
  | ofNat n => rfl
  | negSucc n => rw [signed, if_pos (by simp)]; rfl

theorem ofInteger_toDigits {n : Int} (h : isInteger n = true) :
    ofInteger (n < 0) (Nat.toDigits 10 n.natAbs) = .ok (.int n) := by
  have hvalue : (if decide (n < 0) = true then -(n.natAbs : Int) else n.natAbs) = n := by
    simp only [decide_eq_true_eq]
    split_ifs <;> omega
  have hplain : ¬ ((decide (n < 0) = true ∧ n.natAbs = 0) ∨ ¬ isInteger n = true) := by
    rintro (⟨hneg, hzero⟩ | hout)
    · have := of_decide_eq_true hneg
      omega
    · exact hout h
  simp only [ofInteger, Nat.ofDigitChars_ten_toDigits, hvalue]
  rw [if_neg hplain]

theorem readScalar_intText {n : Int} (h : isInteger n = true) (hrest : NumberEnds rest) :
    readScalar (intText n ++ rest) = .ok (.int n, rest) := by
  rw [intText_eq_signed, readScalar_signed _ _ hrest, Spelling.isInteger_ofNat, if_pos rfl,
    Spelling.whole_ofNat, ofInteger_toDigits h]
  rfl

theorem exists_floatText_eq_signed (negative : Bool) (m : Magnitude) :
    ∃ p : Spelling, floatText (.finite negative m) = signed negative p.text ∧
      p.decimal.magnitude? = some m ∧ p.isInteger = false := by
  have hmark : numberStyle.wholeMark = pointed (List.replicate 1 '0') := rfl
  obtain ⟨p, htext, hread, hinteger⟩ := NumberStyle.exists_spelling hmark m
  refine ⟨p, ?_, hread, hinteger Nat.one_ne_zero⟩
  rw [htext]
  cases negative <;> simp [floatText, NumberStyle.finite, numberStyle, signed]

theorem readScalar_floatText (negative : Bool) (m : Magnitude) (hrest : NumberEnds rest) :
    readScalar (floatText (.finite negative m) ++ rest) = .ok (.float (.finite negative m), rest) := by
  obtain ⟨p, htext, hread, hinteger⟩ := exists_floatText_eq_signed negative m
  rw [htext, readScalar_signed negative p hrest, hinteger, if_neg Bool.false_ne_true, ofDecimal,
    hread]
  rfl

end Json
end FormBuilder

import FormBuilder.Proofs.Json.Number
import FormBuilder.Proofs.Preview.Agreement

/-!
What literals in a source denote, by the rules of the language that the source is written in.
The literal of a value denotes the value, but for the sign of a zero, which is not written:
`evaluate?_value`.
-/

namespace FormBuilder

/-! ## Zeros -/

/-- The number with zero as its own negative, as numbers compare. -/
def Binary64.withoutZeroSign : Binary64 → Binary64
  | .finite negative m => .finite (negative && decide (m ≠ .zero)) m
  | x => x

def Value.withoutZeroSign : Value → Value
  | number x => number x.withoutZeroSign
  | v => v

def Json.withoutZeroSign : Json → Json
  | float x => float x.withoutZeroSign
  | v => v

theorem Value.toJson?_withoutZeroSign (v : Value) :
    v.withoutZeroSign.toJson? = v.toJson?.map Json.withoutZeroSign := by
  rcases v with _ | (_ | _ | _) | _ | _ <;> rfl

namespace Numeral

/-! ## Numbers -/

open Json (NoDigit spanDigits_append noDigit_afterWhole)

theorem exponent?_text (x : Exponent) : exponent? x.text = some x.value := by
  obtain ⟨negative, digits, hdigits, hne⟩ := x
  have hall : digits.all Char.isDigit = true := List.all_eq_true.mpr hdigits
  cases negative <;> exact if_pos ⟨.inl rfl, hne, hall⟩

theorem exponent?_elim_text (x : Option Exponent) :
    exponent? (x.elim [] Exponent.text) = some (x.elim 0 Exponent.value) := by
  cases x with
  | none => rfl
  | some x => exact exponent?_text x

theorem decimal?_text (p : Spelling) : decimal? p.text = some p.decimal := by
  have hafter := noDigit_afterWhole p Json.numberEnds_nil.noDigit
  rw [List.append_nil] at hafter
  have hwhole := spanDigits_append p.isWhole.isDigits hafter
  have hne : ¬ (p.whole = [] ∧ p.fraction = []) := fun h => p.isWhole.ne_nil h.1
  have hexponent := exponent?_elim_text p.exponent?
  simp only [decimal?, Spelling.text, Spelling.decimal, hwhole]
  cases hfraction : p.fraction with
  | nil =>
    rw [hfraction] at hne
    cases hx : p.exponent? with
    | none => exact if_neg hne
    | some x =>
      rw [hx] at hexponent
      exact (if_neg hne).trans (congrArg (Option.map _) hexponent)
  | cons c fraction =>
    have hmark : NoDigit (p.exponent?.elim [] Exponent.text) := by
      cases p.exponent? with
      | none => exact Json.numberEnds_nil.noDigit
      | some x => exact Json.noDigit_cons.mpr rfl
    have hspan := spanDigits_append (hfraction ▸ p.isDigits) hmark
    simp only [pointed, List.cons_append]
    rw [← List.cons_append, hspan, if_neg (hfraction ▸ hne)]
    exact congrArg (Option.map _) hexponent

end Numeral

/-- What a sign stands in front of. -/
def signed (negative : Bool) (t : List Char) : List Char := if negative then '-' :: t else t

namespace Value

theorem formatNumber_finite (negative : Bool) (m : Magnitude) :
    formatNumber (.finite negative m) =
      signed (negative && decide (m ≠ .zero)) (numberStyle.magnitude m) := by
  have hsigned : negative = true ∧ (m ≠ .zero ∨ numberStyle.signedZero = true) ↔
      (negative && decide (m ≠ .zero)) = true := by
    simp [numberStyle]
  rw [formatNumber, NumberStyle.finite, signed]
  exact if_congr hsigned rfl rfl

/-- What is written for a finite number is a spelling of it, perhaps with a sign. -/
theorem exists_spelling (negative : Bool) (m : Magnitude) : ∃ p : Numeral.Spelling,
    formatNumber (.finite negative m) = signed (negative && decide (m ≠ .zero)) p.text ∧
      p.decimal.toBinary64 (negative && decide (m ≠ .zero)) =
        (Binary64.finite negative m).withoutZeroSign := by
  have hmark : numberStyle.wholeMark = Numeral.pointed (List.replicate 0 '0') := rfl
  obtain ⟨p, htext, hread, -⟩ := NumberStyle.exists_spelling hmark m
  refine ⟨p, by rw [formatNumber_finite, htext], ?_⟩
  rw [Decimal.toBinary64, hread, Binary64.withoutZeroSign]

end Value

namespace Source

/-! ## Literals -/

/-- The number of a numeral without its sign, or of one of the two words for numbers. -/
def unsigned? (negative : Bool) (literal : List Char) : Option Binary64 :=
  if literal = "NaN".toList then some .nan
  else if literal = "Infinity".toList then some (.infinite negative)
  else (Numeral.decimal? literal).map (Decimal.toBinary64 negative)

def number? : List Char → Option Binary64
  | '-' :: literal => unsigned? true literal
  | literal => unsigned? false literal

/-- The text of a string literal from behind its opening quote on. -/
def string? (literal : List Char) : Option String :=
  match Json.readString literal with
  | .ok (s, []) => some (String.ofList s)
  | _ => none

def stringOrNumber? : List Char → Option Value
  | '"' :: rest => (string? rest).map .text
  | literal => (number? literal).map .number

/-- The value of a literal. -/
def evaluate? (literal : List Char) : Option Value :=
  if literal = "true".toList then some (.bool true)
  else if literal = "false".toList then some (.bool false)
  else if literal = "undefined".toList then some .absent
  else stringOrNumber? literal

theorem unsigned?_text (negative : Bool) (p : Numeral.Spelling) :
    unsigned? negative p.text = some (p.decimal.toBinary64 negative) := by
  have hnan : p.text ≠ "NaN".toList := p.text_ne_cons (by decide) _
  have hinfinity : p.text ≠ "Infinity".toList := p.text_ne_cons (by decide) _
  rw [unsigned?, if_neg hnan, if_neg hinfinity, Numeral.decimal?_text]
  rfl

theorem number?_signed_text (negative : Bool) (p : Numeral.Spelling) :
    number? (signed negative p.text) = some (p.decimal.toBinary64 negative) := by
  cases negative with
  | true => exact unsigned?_text true p
  | false => exact (number?.eq_2 _ (p.text_ne_cons (by decide))).trans (unsigned?_text false p)

/-- What is written for a number is the number, but a zero has no sign. -/
theorem number?_formatNumber (x : Binary64) :
    number? (Value.formatNumber x) = some x.withoutZeroSign := by
  rcases x with _ | (_ | _) | ⟨negative, m⟩
  · rfl
  · rfl
  · rfl
  · obtain ⟨p, htext, hvalue⟩ := Value.exists_spelling negative m
    rw [htext, number?_signed_text, hvalue]

theorem evaluate?_number (x : Binary64) :
    evaluate? (Value.formatNumber x) = some (.number x.withoutZeroSign) := by
  have hword : ∀ v, (∀ x, v ≠ .number x) → Value.formatNumber x ≠ value v :=
    fun v hv => (Value.value_ne_formatNumber hv x).symm
  have htrue : Value.formatNumber x ≠ "true".toList := hword (.bool true) fun _ => Value.noConfusion
  have hfalse : Value.formatNumber x ≠ "false".toList :=
    hword (.bool false) fun _ => Value.noConfusion
  have hundefined : Value.formatNumber x ≠ "undefined".toList :=
    hword .absent fun _ => Value.noConfusion
  have hquote : ∀ rest, Value.formatNumber x = '"' :: rest → False := by
    intro rest h
    exact Value.not_mem_formatNumber (by decide) (by decide) x (h ▸ List.mem_cons_self)
  rw [evaluate?, if_neg htrue, if_neg hfalse, if_neg hundefined, stringOrNumber?.eq_2 _ hquote,
    number?_formatNumber]
  rfl

theorem string?_encode (s : String) :
    string? (s.toList.flatMap Quoted.escape ++ ['"']) = some s := by
  simp only [string?, Quoted.readString_encode, String.ofList_toList]

/-- The literal of a value denotes the value, but a zero has no sign. -/
theorem evaluate?_value (v : Value) : evaluate? (value v) = some v.withoutZeroSign := by
  rcases v with (_ | _) | x | s | _
  · decide
  · decide
  · exact evaluate?_number x
  · exact congrArg (Option.map Value.text) (string?_encode s)
  · decide

end Source
end FormBuilder

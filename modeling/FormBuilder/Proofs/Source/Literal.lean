import FormBuilder.Proofs.Source.Evaluation

/-!
Literals and what follows them.  A string literal is read back whatever follows it, and no other
literal can be read in its place.  So literals of strings differ where the strings do, and
literals of values where the values do, but for the sign of a zero: `literals_delimited`.
-/

namespace FormBuilder

/-! ## Zeros -/

namespace Binary64

variable {x y : Binary64}

theorem withoutZeroSign_of_isZero (h : x.isZero = true) : x.withoutZeroSign = zero := by
  rcases x with _ | _ | ⟨negative, m⟩
  · exact nomatch h
  · exact nomatch h
  · obtain rfl : m = .zero := of_decide_eq_true h
    simp [withoutZeroSign, zero]

theorem withoutZeroSign_of_not_isZero (h : ¬ x.isZero = true) : x.withoutZeroSign = x := by
  rcases x with _ | _ | ⟨negative, m⟩
  · rfl
  · rfl
  · have hm : m ≠ .zero := fun hzero => h (decide_eq_true hzero)
    simp [withoutZeroSign, hm]

theorem withoutZeroSign_eq_iff :
    x.withoutZeroSign = y.withoutZeroSign ↔ x = y ∨ x.isZero = true ∧ y.isZero = true := by
  constructor
  · intro h
    by_cases hx : x.isZero = true <;> by_cases hy : y.isZero = true
    · exact .inr ⟨hx, hy⟩
    · rw [withoutZeroSign_of_isZero hx, withoutZeroSign_of_not_isZero hy] at h
      exact absurd (h ▸ rfl) hy
    · rw [withoutZeroSign_of_not_isZero hx, withoutZeroSign_of_isZero hy] at h
      exact absurd (h ▸ rfl) hx
    · rw [withoutZeroSign_of_not_isZero hx, withoutZeroSign_of_not_isZero hy] at h
      exact .inl h
  · rintro (rfl | ⟨hx, hy⟩)
    · rfl
    · rw [withoutZeroSign_of_isZero hx, withoutZeroSign_of_isZero hy]

end Binary64

namespace Source

/-! ## Values -/

/-- Numbers that count as the same one in a source. -/
def AreAlike (v w : Value) : Prop :=
  ∃ x y, v = .number x ∧ w = .number y ∧
    (x.isNaN = true ∧ y.isNaN = true ∨ x.isZero = true ∧ y.isZero = true)

theorem value_eq_of_areAlike {v w : Value} (h : AreAlike v w) : value v = value w := by
  obtain ⟨x, y, rfl, rfl, ⟨hx, hy⟩ | ⟨hx, hy⟩⟩ := h
  · exact (Value.formatNumber_eq_nan_iff.mpr hx).trans (Value.formatNumber_eq_nan_iff.mpr hy).symm
  · exact (Value.formatNumber_eq_zero_iff.mpr hx).trans (Value.formatNumber_eq_zero_iff.mpr hy).symm

/-- A number is read back from its literal but for the sign of a zero. -/
theorem value_eq_iff {v w : Value} : value v = value w ↔ v = w ∨ AreAlike v w := by
  constructor
  · intro h
    rcases Value.eq_or_number_of_value_eq h with rfl | ⟨x, y, rfl, rfl, htext⟩
    · exact .inl rfl
    · have hnumber : x.withoutZeroSign = y.withoutZeroSign := by
        rw [← Option.some.injEq, ← number?_formatNumber, ← number?_formatNumber, htext]
      rcases Binary64.withoutZeroSign_eq_iff.mp hnumber with rfl | hzero
      · exact .inl rfl
      · exact .inr ⟨x, y, rfl, rfl, .inr hzero⟩
  · rintro (rfl | h)
    · rfl
    · exact value_eq_of_areAlike h

/-! ## Strings -/

theorem isLiteral_string (s : String) : Quoted.IsLiteral (string s) s.toList :=
  Quoted.isLiteral_encode s.toList

theorem string_of_append_eq {s : String} {t u r rest : List Char} (h : Quoted.IsLiteral t u)
    (heq : string s ++ r = t ++ rest) : t = string s ∧ u = s.toList ∧ rest = r := by
  obtain ⟨rfl, rfl⟩ := (isLiteral_string s).append_inj h heq
  exact ⟨(List.append_cancel_right heq).symm, rfl, rfl⟩

/-- A string literal is read back, and what follows it is left, whatever that is; in no other way
does such a text start with a literal.  Literals have no control characters, and one is never the
start of another.  No other value has the literal of a string, and values with one literal are
the same value, or both NaN, or both zeros. -/
theorem literals_delimited :
    (∀ s r, Json.readScalar (string s ++ r) = .ok (.string s, r)) ∧
    (∀ s r, Quoted.IsLiteral (string s) s.toList ∧
      ∀ t u rest, Quoted.IsLiteral t u → string s ++ r = t ++ rest →
        t = string s ∧ u = s.toList ∧ rest = r) ∧
    (∀ s, ∀ c ∈ string s, 0x20 ≤ c.toNat) ∧
    (∀ s t, string s <+: string t → s = t) ∧
    (∀ s v, value (.text s) = value v → v = .text s) ∧
    ∀ v w, value v = value w ↔ v = w ∨ AreAlike v w := by
  refine ⟨fun s r => ?_, fun s r => ⟨isLiteral_string s, fun t u rest => string_of_append_eq⟩,
    fun s => Quoted.le_toNat_of_mem_encode s.toList, ?_, ?_, fun v w => value_eq_iff⟩
  · exact Quoted.readScalar_encode s r
  · rintro s t ⟨rest, hrest⟩
    rw [← List.append_nil (string t)] at hrest
    exact (string_append_inj hrest).1
  · intro s v h
    rcases value_eq_iff.mp h with rfl | ⟨x, y, hx, -⟩
    · rfl
    · exact nomatch hx

/-- A string that ends in a backslash, in front of more quotes; and the two zeros. -/
theorem literals_delimited_backslash :
    let t : List Char := ['"', 'a', '\\', '\\', '"']
    let rest : List Char := ['"', '+', '"', 'b']
    Json.readScalar (t ++ rest) = .ok (.string "a\\", rest) ∧
    Quoted.IsLiteral t ['a', '\\'] ∧ t = string "a\\" ∧
    (string "a" <+: string "a" ∧ ¬ string "a" <+: t) ∧
    value (.number (.finite true .zero)) = value (.number .zero) := by
  intro t rest
  have hliteral : Quoted.IsLiteral t ['a', '\\'] :=
    ⟨[['a'], ['\\', '\\']], .cons (.plain (by decide) (by decide) (by decide))
      (.cons (.short rfl) .nil), rfl⟩
  obtain ⟨hread, hgrammar, -, hfront, -, hvalue⟩ := literals_delimited
  obtain ⟨ht, -, -⟩ := (hgrammar "a\\" rest).2 t _ rest hliteral rfl
  refine ⟨ht ▸ hread "a\\" rest, hliteral, ht, ⟨List.prefix_rfl, fun h => ?_⟩,
    (hvalue _ _).mpr (.inr ⟨_, _, rfl, rfl, .inr ⟨rfl, rfl⟩⟩)⟩
  exact absurd (hfront "a" "a\\" (ht ▸ h)) (by decide)

end Source
end FormBuilder

import FormBuilder.Number.Shortest
import Mathlib.Algebra.Order.Group.Nat

/-!
The decimals of a grid that are next to a magnitude, and what is found on the grid: one of the
two that reads back, `Magnitude.onGrid?_cases`, and nothing only where neither does.
-/

namespace FormBuilder
namespace Magnitude

variable (m : Magnitude) (exponent : Int)

/-- The magnitude in steps of `10 ^ exponent` is a quotient; this is its numerator. -/
def gridNumerator : Nat := m.units * Nat.pow 10 (-exponent).toNat

def gridDenominator : Nat := unitsOfOne * Nat.pow 10 exponent.toNat

/-- What the whole steps leave, in parts of a step. -/
def gridRest : Nat := m.gridNumerator exponent % gridDenominator exponent

/-- The last decimal of the grid that is not beyond the magnitude. -/
def below : Decimal := ⟨m.gridNumerator exponent / gridDenominator exponent, exponent⟩

/-- The first decimal of the grid that is. -/
def above : Decimal := ⟨m.gridNumerator exponent / gridDenominator exponent + 1, exponent⟩

theorem onGrid?_eq (tie : Tie) : m.onGrid? tie exponent =
    match decide ((m.below exponent).magnitude? = some m),
      decide ((m.above exponent).magnitude? = some m) with
    | false, false => none
    | true, false => some (m.below exponent)
    | false, true => some (m.above exponent)
    | true, true =>
      if 2 * m.gridRest exponent < gridDenominator exponent then some (m.below exponent)
      else if gridDenominator exponent < 2 * m.gridRest exponent then some (m.above exponent)
      else match tie with
        | .even =>
          some (if (m.below exponent).digits % 2 = 0 then m.below exponent else m.above exponent)
        | .up => some (m.above exponent) := rfl

variable {m exponent} {tie : Tie} {d : Decimal}

theorem onGrid?_eq_none_iff : m.onGrid? tie exponent = none ↔
    (m.below exponent).magnitude? ≠ some m ∧ (m.above exponent).magnitude? ≠ some m := by
  rw [onGrid?_eq]
  by_cases hbelow : (m.below exponent).magnitude? = some m <;>
    by_cases habove : (m.above exponent).magnitude? = some m <;>
    simp only [hbelow, habove, decide_true, decide_false]
  · cases tie <;> split_ifs <;> simp
  · simp
  · simp
  · exact iff_of_true trivial ⟨hbelow, habove⟩

/-- A hit is a neighbour that reads back, and the other neighbour is not nearer or does not. -/
theorem onGrid?_cases (h : m.onGrid? tie exponent = some d) :
    (d = m.below exponent ∧ (m.below exponent).magnitude? = some m ∧
        ((m.above exponent).magnitude? = some m →
          2 * m.gridRest exponent ≤ gridDenominator exponent)) ∨
      (d = m.above exponent ∧ (m.above exponent).magnitude? = some m ∧
        ((m.below exponent).magnitude? = some m →
          gridDenominator exponent ≤ 2 * m.gridRest exponent)) := by
  rw [onGrid?_eq] at h
  by_cases hbelow : (m.below exponent).magnitude? = some m <;>
    by_cases habove : (m.above exponent).magnitude? = some m <;>
    simp only [hbelow, habove, decide_true, decide_false] at h
  · have htaken : d = m.below exponent ∧ 2 * m.gridRest exponent ≤ gridDenominator exponent ∨
        d = m.above exponent ∧ gridDenominator exponent ≤ 2 * m.gridRest exponent := by
      rcases Nat.lt_trichotomy (2 * m.gridRest exponent) (gridDenominator exponent) with
        hlt | heq | hgt
      · rw [if_pos hlt] at h
        exact .inl ⟨(Option.some.inj h).symm, hlt.le⟩
      · have hd : d = m.below exponent ∨ d = m.above exponent := by
          rw [if_neg heq.not_lt, if_neg heq.not_gt] at h
          cases tie <;> split_ifs at h <;> simp_all
        exact hd.imp (⟨·, heq.le⟩) (⟨·, heq.ge⟩)
      · rw [if_neg hgt.not_gt, if_pos hgt] at h
        exact .inr ⟨(Option.some.inj h).symm, hgt.le⟩
    exact htaken.imp (fun ⟨hd, hle⟩ => ⟨hd, hbelow, fun _ => hle⟩)
      (fun ⟨hd, hle⟩ => ⟨hd, habove, fun _ => hle⟩)
  · exact .inl ⟨(Option.some.inj h).symm, hbelow, fun h => absurd h habove⟩
  · exact .inr ⟨(Option.some.inj h).symm, habove, fun h => absurd h hbelow⟩
  · exact absurd h (by simp)

theorem magnitude?_onGrid (h : m.onGrid? tie exponent = some d) : d.magnitude? = some m := by
  rcases onGrid?_cases h with ⟨rfl, hread, -⟩ | ⟨rfl, hread, -⟩ <;> exact hread

end Magnitude
end FormBuilder

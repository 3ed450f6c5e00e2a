import FormBuilder.Number.Decimal

/-!
The shortest decimal of a magnitude.  Grids of decimals are tried from coarse to
fine.  On each grid the two neighbours of the magnitude are read back: a grid
that holds a decimal which reads back also has such a neighbour, so the first
hit has the fewest digits, and of two hits the nearer one is taken.
-/

namespace FormBuilder

/-- Which of two equally near decimals is taken. -/
inductive Tie where
  | even
  | up
  deriving DecidableEq

/-- A positive number `d.ddd * 10 ^ exponent`, its figures without trailing zeros. -/
structure Scientific where
  figures : List Char
  exponent : Int
  deriving DecidableEq

def dropTrailingZeros (figures : List Char) : List Char :=
  (figures.reverse.dropWhile (· = '0')).reverse

def Decimal.scientific (d : Decimal) : Scientific :=
  let figures := Nat.toDigits 10 d.digits
  ⟨dropTrailingZeros figures, d.exponent + figures.length - 1⟩

namespace Magnitude

/-- All decimals of a magnitude's value: `units * 2 ^ -1074`. -/
def exactDecimal (m : Magnitude) : Decimal := ⟨m.units * Nat.pow 5 1074, -1074⟩

/-- The `e` with `10 ^ e ≤ m < 10 ^ (e + 1)`, for a positive `m`. -/
def decimalExponent (m : Magnitude) : Int :=
  if unitsOfOne ≤ m.units then
    (Nat.toDigits 10 (m.units / unitsOfOne)).length - 1
  else
    -(Nat.toDigits 10 ((unitsOfOne - 1) / m.units)).length

/-- The decimal on the grid of multiples of `10 ^ exponent` that reads back as
`m` and is nearest to it. -/
def onGrid? (tie : Tie) (m : Magnitude) (exponent : Int) : Option Decimal :=
  let num := m.units * Nat.pow 10 (-exponent).toNat
  let den := unitsOfOne * Nat.pow 10 exponent.toNat
  let below : Decimal := ⟨num / den, exponent⟩
  let above : Decimal := ⟨num / den + 1, exponent⟩
  let twice := 2 * (num % den)
  match decide (below.magnitude? = some m), decide (above.magnitude? = some m) with
  | false, false => none
  | true, false => some below
  | false, true => some above
  | true, true =>
    if twice < den then some below
    else if den < twice then some above
    else match tie with
      | .even => some (if below.digits % 2 = 0 then below else above)
      | .up => some above

/-- The decimal with the fewest digits that reads back as `m`.  Seventeen digits
always suffice; the exact decimal stands behind them. -/
def shortest (tie : Tie) (m : Magnitude) : Decimal :=
  let hit := (List.range 17).findSome? fun (n : Nat) => m.onGrid? tie (m.decimalExponent - n)
  hit.getD m.exactDecimal

end Magnitude
end FormBuilder

/-!
Double-precision numbers.  A finite magnitude is its position among the finite
magnitudes in increasing order, which is also its bit pattern, so the order of
numbers is the order of positions and the next number is the next position.
`Magnitude.units` is the value, counted in units of `2 ^ -1074`.
-/

namespace FormBuilder

/-- How many magnitudes share one exponent. -/
def binadeSize : Nat := Nat.pow 2 52

/-- How many finite magnitudes there are. -/
def magnitudeCount : Nat := 2047 * binadeSize

/-- A finite double without its sign. -/
structure Magnitude where
  position : Fin magnitudeCount
  deriving DecidableEq

namespace Magnitude

def zero : Magnitude := ⟨⟨0, by decide⟩⟩

def one : Magnitude := ⟨⟨1023 * binadeSize, by decide⟩⟩

def exponentBits (m : Magnitude) : Nat := m.position.val / binadeSize

def fractionBits (m : Magnitude) : Nat := m.position.val % binadeSize

/-- How many units make one. -/
def unitsOfOne : Nat := Nat.pow 2 1074

/-- The magnitude in units of `2 ^ -1074`, the least positive one. -/
def units (m : Magnitude) : Nat :=
  if m.exponentBits = 0 then m.fractionBits
  else (binadeSize + m.fractionBits) * Nat.pow 2 (m.exponentBits - 1)

instance : LE Magnitude := ⟨fun a b => a.position ≤ b.position⟩
instance : LT Magnitude := ⟨fun a b => a.position < b.position⟩

instance (a b : Magnitude) : Decidable (a ≤ b) :=
  inferInstanceAs (Decidable (a.position ≤ b.position))

instance (a b : Magnitude) : Decidable (a < b) :=
  inferInstanceAs (Decidable (a.position < b.position))

/-- The quotient rounded to the nearest integer, a half to the even one. -/
def divRoundEven (num den : Nat) : Nat :=
  let q := num / den
  let twice := 2 * (num % den)
  if twice < den then q
  else if den < twice then q + 1
  else if q % 2 = 0 then q else q + 1

/-- The magnitude nearest to `num / den` units, a half to the even one, unless
it lies beyond the largest.  With `e` the power of two between neighbours there,
`e * binadeSize` plus the rounded significand is the position: a significand that
rounds up to `2 ^ 53` carries into the next exponent by itself. -/
def nearest? (num den : Nat) : Option Magnitude :=
  let e := (num / den).log2 - 52
  let position := e * binadeSize + divRoundEven num (den * Nat.pow 2 e)
  if h : position < magnitudeCount then some ⟨⟨position, h⟩⟩ else none

end Magnitude

/-- A double.  All NaNs count as one: nothing tells them apart. -/
inductive Binary64 where
  | nan
  | infinite (negative : Bool)
  | finite (negative : Bool) (magnitude : Magnitude)
  deriving DecidableEq

namespace Binary64

def zero : Binary64 := .finite false .zero

def one : Binary64 := .finite false .one

/-- True of both zeros. -/
def isZero : Binary64 → Bool
  | .finite _ m => m = .zero
  | _ => false

def isNaN : Binary64 → Bool
  | .nan => true
  | _ => false

def isFinite : Binary64 → Bool
  | .finite _ _ => true
  | _ => false

end Binary64
end FormBuilder

import FormBuilder.Number.Binary64

/-!
Decimal numbers and the doubles they stand for.  `Decimal.magnitude?` rounds
correctly whatever the number of digits.  `Binary64.ofText?` reads the usual
spellings, those of NaN and the infinities included.
-/

namespace FormBuilder

/-- The number `digits * 10 ^ exponent`. -/
structure Decimal where
  digits : Nat
  exponent : Int
  deriving DecidableEq

namespace Decimal

/-- The digits around a decimal point, scaled by a power of ten. -/
def ofParts (whole fraction : List Char) (exponent : Int) : Decimal :=
  ⟨Nat.ofDigitChars 10 (whole ++ fraction) 0, exponent - fraction.length⟩

def numerator (d : Decimal) : Nat := d.digits * Nat.pow 10 d.exponent.toNat

def denominator (d : Decimal) : Nat := Nat.pow 10 (-d.exponent).toNat

/-- The nearest magnitude, unless it lies beyond the largest.  Exponents far
outside the range are settled without computing the power of ten: the largest
magnitude is below `10 ^ 309`, and half the least is above `10 ^ -325`. -/
def magnitude? (d : Decimal) : Option Magnitude :=
  if d.digits = 0 then some .zero
  else if 309 < d.exponent then none
  else if d.exponent + d.digits.log2 < -325 then some .zero
  else Magnitude.nearest? (d.numerator * Magnitude.unitsOfOne) d.denominator

/-- The nearest double, an infinity when there is no nearest finite one. -/
def toBinary64 (negative : Bool) (d : Decimal) : Binary64 :=
  match d.magnitude? with
  | some m => .finite negative m
  | none => .infinite negative

end Decimal

namespace Numeral

/-- A sign in front of a numeral. -/
def splitSign : List Char → Bool × List Char
  | '-' :: rest => (true, rest)
  | '+' :: rest => (false, rest)
  | rest => (false, rest)

def spanDigits (s : List Char) : List Char × List Char :=
  (s.takeWhile Char.isDigit, s.dropWhile Char.isDigit)

def signedExponent (negative : Bool) (digits : List Char) : Int :=
  let n : Int := Nat.ofDigitChars 10 digits 0
  if negative then -n else n

/-- The exponent part of a numeral, `0` when there is none. -/
def exponent? : List Char → Option Int
  | [] => some 0
  | c :: rest =>
    let (negative, digits) := splitSign rest
    if (c = 'e' ∨ c = 'E') ∧ digits ≠ [] ∧ digits.all Char.isDigit then
      some (signedExponent negative digits)
    else none

/-- A numeral without its sign: digits, with or without a point among them, and
perhaps an exponent. -/
def decimal? (s : List Char) : Option Decimal :=
  let (whole, rest) := spanDigits s
  let (fraction, rest) := match rest with
    | '.' :: rest => spanDigits rest
    | rest => ([], rest)
  if whole = [] ∧ fraction = [] then none
  else (exponent? rest).map (Decimal.ofParts whole fraction)

end Numeral

/-- The double that a text spells, in either case of letters. -/
def Binary64.ofText? (s : List Char) : Option Binary64 :=
  let (negative, rest) := Numeral.splitSign s
  match String.ofList (rest.map Char.toLower) with
  | "nan" => some .nan
  | "inf" | "infinity" => some (.infinite negative)
  | _ => (Numeral.decimal? rest).map (Decimal.toBinary64 negative)

end FormBuilder

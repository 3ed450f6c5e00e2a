import FormBuilder.Number.Shortest

/-!
How a double is written: its shortest digits, with or without an exponent.  The
decisions of a format are one `NumberStyle`.
-/

namespace FormBuilder

namespace Scientific

/-- Without an exponent.  The point stands after `exponent + 1` figures. -/
def positional (s : Scientific) : List Char :=
  let point := s.exponent + 1
  if point ≤ 0 then '0' :: '.' :: (List.replicate (-point).toNat '0' ++ s.figures)
  else if s.figures.length ≤ point then
    s.figures ++ List.replicate (point - s.figures.length).toNat '0'
  else s.figures.take point.toNat ++ '.' :: s.figures.drop point.toNat

/-- Is this a whole number? -/
def isWhole (s : Scientific) : Bool := s.figures.length ≤ s.exponent + 1

/-- With one figure before the point and a signed exponent. -/
def withExponent (s : Scientific) : List Char :=
  let fraction := match s.figures.drop 1 with
    | [] => []
    | rest => '.' :: rest
  let sign := if s.exponent < 0 then '-' else '+'
  s.figures.take 1 ++ fraction ++ 'e' :: sign :: Nat.toDigits 10 s.exponent.natAbs

end Scientific

/-- The decisions of a format for numbers. -/
structure NumberStyle where
  tie : Tie
  /-- Is a magnitude with these shortest digits written without an exponent? -/
  positional : Magnitude → Scientific → Bool
  /-- What follows the digits of a whole number written without an exponent. -/
  wholeMark : List Char
  /-- Does a negative zero show its sign? -/
  signedZero : Bool

namespace NumberStyle

def magnitude (style : NumberStyle) (m : Magnitude) : List Char :=
  if m = .zero then '0' :: style.wholeMark
  else
    let s := (m.shortest style.tie).scientific
    if style.positional m s then
      s.positional ++ if s.isWhole then style.wholeMark else []
    else s.withExponent

def finite (style : NumberStyle) (negative : Bool) (m : Magnitude) : List Char :=
  if negative ∧ (m ≠ .zero ∨ style.signedZero) then '-' :: style.magnitude m
  else style.magnitude m

end NumberStyle
end FormBuilder

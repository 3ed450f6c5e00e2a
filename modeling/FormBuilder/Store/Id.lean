import FormBuilder.Field.Basic

/-!
Field ids made of random bytes: six bits a character, the most significant first.
-/

namespace FormBuilder

/-- An endless supply of random bytes, of which `position` have been drawn. -/
structure Entropy where
  byte : Nat → UInt8
  position : Nat := 0

namespace Entropy

/-- The given bytes, and zeros after them. -/
def ofBytes (bytes : Array UInt8) : Entropy := { byte := fun i => bytes.getD i 0 }

/-- The next `n` bytes. -/
def peek (e : Entropy) (n : Nat) : List UInt8 :=
  (List.range n).map fun i => e.byte (e.position + i)

def skip (e : Entropy) (n : Nat) : Entropy := { e with position := e.position + n }

end Entropy

namespace FieldId

/-- The letters, the digits, `-` and `_` stand for the numbers below 64. -/
def character (n : Nat) : Char :=
  if n < 26 then Char.ofNat ('A'.toNat + n)
  else if n < 52 then Char.ofNat ('a'.toNat + (n - 26))
  else if n < 62 then Char.ofNat ('0'.toNat + (n - 52))
  else if n = 62 then '-'
  else '_'

/-- The number that a character stands for. -/
def sextet (c : Char) : Nat :=
  if c.isUpper then c.toNat - 'A'.toNat
  else if c.isLower then c.toNat - 'a'.toNat + 26
  else if c.isDigit then c.toNat - '0'.toNat + 52
  else if c = '-' then 62
  else 63

theorem sextet_character : ∀ n, n < 64 → sextet (character n) = n := by decide

/-- Four characters for every three bytes. -/
def encode : List UInt8 → List Char
  | a :: b :: c :: rest =>
    let n := (a.toNat * 0x100 + b.toNat) * 0x100 + c.toNat
    character (n / 0x40000) :: character (n / 0x1000 % 0x40) :: character (n / 0x40 % 0x40)
      :: character (n % 0x40) :: encode rest
  | _ => []

def threeBytes (a b c d : Nat) : List UInt8 :=
  let n := ((a * 0x40 + b) * 0x40 + c) * 0x40 + d
  [UInt8.ofNat (n / 0x10000), UInt8.ofNat (n / 0x100 % 0x100), UInt8.ofNat (n % 0x100)]

/-- Bytes that encode to a text starting with these characters; the bits that no
character gives are zero. -/
def decode : List Char → List UInt8
  | [] => []
  | [a] => threeBytes (sextet a) 0 0 0
  | [a, b] => threeBytes (sextet a) (sextet b) 0 0
  | [a, b, c] => threeBytes (sextet a) (sextet b) (sextet c) 0
  | a :: b :: c :: d :: rest =>
    threeBytes (sextet a) (sextet b) (sextet c) (sextet d) ++ decode rest

/-- How many bytes an id of `length` characters takes. -/
def blockLength (length : Nat) : Nat := (length + 3) / 4 * 3

def ofBlock (length : Nat) (block : List UInt8) : FieldId :=
  String.ofList ((encode block).take length)

/-- An id of `length` characters, and the supply after it. -/
def generate (length : Nat) (e : Entropy) : FieldId × Entropy :=
  (ofBlock length (e.peek (blockLength length)), e.skip (blockLength length))

end FieldId
end FormBuilder

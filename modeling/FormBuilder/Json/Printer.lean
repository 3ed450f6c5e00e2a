import FormBuilder.Json.Basic
import FormBuilder.Json.Quoted
import FormBuilder.Number.Style

/-!
The text of a JSON value, on one line or indented by two spaces.
-/

namespace FormBuilder
namespace Json

/-- Numbers show a fraction or an exponent, so that they are read as doubles
again: positional from `1e-5` up to below `1e16`. -/
def numberStyle : NumberStyle where
  tie := .even
  positional := fun _ s => -5 ≤ s.exponent && s.exponent < 16
  wholeMark := ['.', '0']
  signedZero := true

def intText : Int → List Char
  | .ofNat n => Nat.toDigits 10 n
  | .negSucc n => '-' :: Nat.toDigits 10 (n + 1)

/-- NaN and the infinities have no JSON form and become `null`. -/
def floatText : Binary64 → List Char
  | .finite negative m => numberStyle.finite negative m
  | _ => ['n', 'u', 'l', 'l']

/-- The white space of a text. -/
structure Layout where
  /-- What stands before an item, or before a closing bracket, at a depth. -/
  newline : Nat → List Char
  colon : List Char

def Layout.compact : Layout := ⟨fun _ => [], [':']⟩

def Layout.pretty : Layout :=
  ⟨fun depth => '\n' :: List.replicate (2 * depth) ' ', [':', ' ']⟩

mutual

def write (l : Layout) (depth : Nat) : Json → List Char
  | .null => ['n', 'u', 'l', 'l']
  | .bool true => ['t', 'r', 'u', 'e']
  | .bool false => ['f', 'a', 'l', 's', 'e']
  | .int n => intText n
  | .float x => floatText x
  | .string s => Quoted.encode s.toList
  | .array [] => ['[', ']']
  | .array (v :: rest) =>
    '[' :: (l.newline (depth + 1) ++ write l (depth + 1) v ++ writeItems l depth rest)
  | .object [] => ['{', '}']
  | .object ((key, v) :: rest) =>
    '{' :: (l.newline (depth + 1) ++ Quoted.encode key.toList ++ l.colon
      ++ write l (depth + 1) v ++ writeMembers l depth rest)

/-- The items after the first, and the closing bracket. -/
def writeItems (l : Layout) (depth : Nat) : List Json → List Char
  | [] => l.newline depth ++ [']']
  | v :: rest =>
    ',' :: (l.newline (depth + 1) ++ write l (depth + 1) v ++ writeItems l depth rest)

/-- The members after the first, and the closing brace. -/
def writeMembers (l : Layout) (depth : Nat) : List (String × Json) → List Char
  | [] => l.newline depth ++ ['}']
  | (key, v) :: rest =>
    ',' :: (l.newline (depth + 1) ++ Quoted.encode key.toList ++ l.colon
      ++ write l (depth + 1) v ++ writeMembers l depth rest)

end

def compact (v : Json) : String := String.ofList (v.write .compact 0)

def pretty (v : Json) : String := String.ofList (v.write .pretty 0)

end Json
end FormBuilder

/-!
JSON strings in quotes.  Quotes, backslashes and control characters are escaped,
so a quoted string is one line and ends at its first unescaped quote.
-/

namespace FormBuilder
namespace Quoted

def escape (c : Char) : List Char :=
  if c = '"' then ['\\', '"']
  else if c = '\\' then ['\\', '\\']
  else if c = '\x08' then ['\\', 'b']
  else if c = '\t' then ['\\', 't']
  else if c = '\n' then ['\\', 'n']
  else if c = '\x0c' then ['\\', 'f']
  else if c = '\r' then ['\\', 'r']
  else if c.toNat < 0x20 then
    ['\\', 'u', '0', '0', Nat.digitChar (c.toNat / 16), Nat.digitChar (c.toNat % 16)]
  else [c]

def encode (s : List Char) : List Char := '"' :: (s.flatMap escape ++ ['"'])

end Quoted
end FormBuilder

/-!
Texts as lines.
-/

namespace FormBuilder
namespace Text

def joinLines (lines : List (List Char)) : List Char := ['\n'].intercalate lines

/-- Drops the carriage return of a line break. -/
def dropReturn (line : List Char) : List Char :=
  if line.getLast? = some '\r' then line.dropLast else line

/-- The lines of a text.  A line break at its end does not open another line. -/
def lines (t : List Char) : List (List Char) :=
  let pieces := t.splitOn '\n'
  let last := pieces.getLastD []
  pieces.dropLast.map dropReturn ++ if last = [] then [] else [last]

/-- A line with `width` spaces in front, unless it is empty. -/
def pad (width : Nat) (line : List Char) : List Char :=
  if line = [] then [] else List.replicate width ' ' ++ line

def indent (width : Nat) (t : List Char) : List Char := joinLines ((lines t).map (pad width))

end Text
end FormBuilder

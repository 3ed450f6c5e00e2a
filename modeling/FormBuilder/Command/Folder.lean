/-!
A folder of files, as far as a command can tell one from another.  It lies deep among other
folders, so that steps up from it do not reach the root.
-/

namespace FormBuilder
namespace Command

inductive FileError where
  | notFound
  | notDirectory
  | isDirectory
  | nameTooLong
  | notText
  | other (text : String)
  deriving DecidableEq

def FileError.message : FileError → String
  | notFound => "No such file or directory (os error 2)"
  | notDirectory => "Not a directory (os error 20)"
  | isDirectory => "Is a directory (os error 21)"
  | nameTooLong => "File name too long (os error 36)"
  | notText => "stream did not contain valid UTF-8"
  | other text => text

/-- Files by place; of two with one place the first counts.  The place of a file in this
folder is its name.  Files in the folders around it have `../` in front of their names, once
for every step up, and those in the root have `/`. -/
structure Folder where
  files : List (String × ByteArray)

namespace Folder

def content? (d : Folder) (place : String) : Option ByteArray := d.files.lookup place

/-- A file at a place, instead of the old one if there is one. -/
def put (d : Folder) (place : String) (content : ByteArray) : Folder :=
  ⟨go d.files⟩
where
  go : List (String × ByteArray) → List (String × ByteArray)
    | [] => [(place, content)]
    | (other, old) :: rest =>
      if other = place then (place, content) :: rest else (other, old) :: go rest

/-- The longest name, and the longest path, in bytes. -/
def maxNameSize : Nat := 255

def maxPathSize : Nat := 4095

/-- Where a path leads. -/
inductive Place where
  | folder
  /-- A file, there or not yet. -/
  | file (place : String)
  /-- A file named as if it were a folder, and what keeps it from being one. -/
  | slashed (why : FileError)
  | nowhere (why : FileError)

/-- Why there is nothing beyond a name in a folder, the places in which start with `base`. -/
def obstacle (d : Folder) (base name : String) : FileError :=
  if maxNameSize < name.utf8ByteSize then .nameTooLong
  else if (d.content? (base ++ name)).isSome then .notDirectory
  else .notFound

/-- The folder around a folder.  There is none around the root. -/
def above (base : String) : String := if base = "/" then "/" else "../" ++ base

/-- Follows the names on a path.  Empty names and single dots lead nowhere, and no
folder is known to have a folder in it. -/
def walk (d : Folder) (base : String) : List String → Place
  | [] => .folder
  | name :: rest =>
    if name = "" ∨ name = "." then walk d base rest
    else if name = ".." then walk d (above base) rest
    else
      let why := d.obstacle base name
      if rest = [] then
        if why = .nameTooLong then .nowhere why else .file (base ++ name)
      else if rest.all (· = "") then .slashed why
      else .nowhere why

def locate (d : Folder) (path : String) : Place :=
  if path = "" then .nowhere .notFound
  else if maxPathSize < path.utf8ByteSize then .nowhere .nameTooLong
  else
    d.walk (if path.toList.head? = some '/' then "/" else "")
      ((path.toList.splitOn '/').map String.ofList)

def read (d : Folder) (path : String) : Except FileError ByteArray :=
  match d.locate path with
  | .folder => .error .isDirectory
  | .slashed why | .nowhere why => .error why
  | .file place =>
    match d.content? place with
    | some content => .ok content
    | none => .error .notFound

def write (d : Folder) (path : String) (content : ByteArray) : Except FileError Folder :=
  match d.locate path with
  | .folder | .slashed _ => .error .isDirectory
  | .nowhere why => .error why
  | .file place => .ok (d.put place content)

end Folder
end Command
end FormBuilder

/-
# Files -- what a program can find and leave in a folder

A program reads and creates files by path in the folder in which it runs.  A folder
here is flat: a list of named contents, each of them bytes that are UTF-8 text or not.
A path is a sequence of names between slashes, of which the empty one and `.` stay where
they are; so the paths that lead somewhere are those of the folder itself and those of
its files.  Outside the folder nothing is known but the root and the folders above.
-/
import SparqlRequest.Text.Basic

set_option autoImplicit false

namespace SparqlRequest

/-- Why a file cannot be read or created. -/
inductive FileFault where
  /-- There is nothing at the path. -/
  | missing
  /-- The path goes through a file as if it were a folder. -/
  | notFolder
  /-- There is a folder at the path. -/
  | folder
  /-- The file does not hold UTF-8 text. -/
  | notText
  /-- Anything else, in the words of the operating system. -/
  | other (words : Text)
  deriving DecidableEq, Repr

namespace FileFault

/-- The fault in the words of the operating system. -/
def message : FileFault → Text
  | .missing => "No such file or directory (os error 2)".toList
  | .notFolder => "Not a directory (os error 20)".toList
  | .folder => "Is a directory (os error 21)".toList
  | .notText => "stream did not contain valid UTF-8".toList
  | .other words => words

end FileFault

/-- The content of a file: text, or bytes that are no text. -/
inductive Content where
  | text (t : Text)
  | bytes
  deriving DecidableEq, Repr

def Content.read : Content → Except FileFault Text
  | .text t => .ok t
  | .bytes => .error .notText

/-- A flat folder: its files by name. -/
abbrev Folder := List (Text × Content)

namespace Folder

def content? (folder : Folder) (name : Text) : Option Content :=
  (folder.find? fun file => file.1 = name).map (·.2)

/-- Where a path leads. -/
inductive Place where
  /-- To this folder, or to one that is known outside it. -/
  | folder
  /-- To a name in the folder; with a slash behind it the path asks for a folder. -/
  | file (name : Text) (asFolder : Bool)
  /-- Below a name in the folder. -/
  | below (name : Text)
  /-- Out of the folder, where nothing can be found. -/
  | outside

def place (path : Text) : Place :=
  let steps := Text.splitOn '/' path
  let names := steps.filter fun step => step ≠ [] ∧ step ≠ ['.']
  if path = [] then .outside
  else if path.head? = some '/' ∨ names.contains ['.', '.'] then
    if names.getLast?.getD ['.', '.'] = ['.', '.'] then .folder else .outside
  else
    match names with
    | [] => .folder
    | [name] => .file name (decide (steps.getLast? ≠ some name))
    | name :: _ => .below name

def read (folder : Folder) (path : Text) : Except FileFault Text :=
  match place path with
  | .folder => .error .folder
  | .outside => .error .missing
  | .below name => .error (if (folder.content? name).isSome then .notFolder else .missing)
  | .file name asFolder =>
      match folder.content? name with
      | none => .error .missing
      | some content => if asFolder then .error .notFolder else content.read

/-- The name under which a file at a path can be created. -/
def create (folder : Folder) (path : Text) : Except FileFault Text :=
  match place path with
  | .folder => .error .folder
  | .outside => .error .missing
  | .below name => .error (if (folder.content? name).isSome then .notFolder else .missing)
  | .file name asFolder =>
      if asFolder then
        .error (if (folder.content? name).isSome then .notFolder else .folder)
      else .ok name

end Folder

end SparqlRequest

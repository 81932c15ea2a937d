import CrudPlan.Json.Printer
import CrudPlan.Product.Path

/-!
# Workspaces

A `Workspace` is what a product is loaded from: files and directories, and the environment.

* `FileContent` is what a file holds: its text, and the document that a reader of such texts makes
  of it. Which syntax documents have is the reader's affair;
* `Workspace.place` walks along a path. Every name on the way has to be that of a directory, also if
  the path leads back from it;
* `Workspace.find` is the document at a path, `Workspace.text?` the text at a path.
-/

namespace CrudPlan

/-- Why a document cannot be read. -/
inductive ReadError where
  | missing
  | directory
  | notDirectory
  | nameTooLong
  | zeroCharacter
  | malformed (reason : String)
  deriving DecidableEq, Repr

/-! ### Contents -/

/-- What a file holds. -/
inductive FileContent where
  /-- A document, written as JSON. -/
  | document (value : Json)
  /-- A text, and the document that a reader makes of it, or why it makes none. -/
  | text (content : String) (reading : Except ReadError Json)

namespace FileContent

/-- The document that a file holds. -/
def reading : FileContent → Except ReadError Json
  | .document value => .ok value
  | .text _ reading => reading

/-- The text that a file holds. -/
def written : FileContent → String
  | .document value => value.document
  | .text content _ => content

end FileContent

/-- What a product is loaded from. -/
structure Workspace where
  /-- The files, by their paths without detours; of one path the first counts. -/
  files : List (FilePath × FileContent) := []
  /-- Directories beside those that files lie in, by their paths without detours. -/
  directories : List FilePath := []
  /-- The variables of the environment, in order. -/
  environment : List (String × String) := []

namespace Workspace

variable (w : Workspace)

/-! ### Files -/

/-- A workspace with one more file and the directories on the way to it. -/
def withFile (path : FilePath) (content : FileContent) : Workspace :=
  { w with
    files := w.files ++ [(path.settled, content)]
    directories := w.directories ++ path.onTheWay }

/-- Whether a place is a directory: one that the working directory lies in, one above a file, or a
known one. -/
def isDirectory (place : FilePath) : Bool :=
  place.parts.all (· == "..") || w.directories.contains place ||
    w.files.any fun (file, _) => file.isBelow place

/-- Whether a place is a file. -/
def isFile (place : FilePath) : Bool := (w.files.lookup place).isSome

/-- The most bytes of a name. -/
def nameLimit : Nat := 255

/-- The most bytes of a path. -/
def pathLimit : Nat := 4095

/-- The place that names lead to from a place. -/
def walk (here : FilePath) : List String → Except ReadError FilePath
  | [] => .ok here
  | name :: rest =>
    if w.isFile here then .error .notDirectory
    else if !w.isDirectory here then .error .missing
    else if nameLimit < name.utf8ByteSize then .error .nameTooLong
    else walk (here.step name) rest

/-- The place that a path leads to. -/
def place (path : FilePath) : Except ReadError FilePath :=
  if path.text.toList.contains '\x00' then .error .zeroCharacter
  else if pathLimit < path.text.utf8ByteSize then .error .nameTooLong
  else w.walk path.start path.parts

/-- The document at a path. -/
def find (path : FilePath) : Except ReadError Json := do
  let place ← w.place path
  match w.files.lookup place with
  | some content => content.reading
  | none => throw (if w.isDirectory place then .directory else .missing)

/-- The text at a path, if there is a file. -/
def text? (path : FilePath) : Option String := do
  let content ← w.files.lookup (← (w.place path).toOption)
  return content.written

/-! ### Variables -/

/-- The value of a variable. -/
def valueOf? (name : String) : Option String := w.environment.lookup name

end Workspace

end CrudPlan

import CrudPlan.Text.Split

/-!
# File paths

A path is a root and a list of parts. Empty parts and single dots lead nowhere and are left out, so
that `./a//b` and `a/b` are one path.

* `FilePath.ofText` reads a path, `FilePath.text` writes it;
* `FilePath.parent` is the directory that a path lies in;
* `FilePath.settled` is the path without detours: double dots stand at its head only.
-/

namespace CrudPlan

/-- A path in a file system. -/
structure FilePath where
  /-- What the path starts from: nothing for the working directory, else slashes. -/
  root : String := ""
  /-- The names on the way. -/
  parts : List String := []
  deriving DecidableEq, Repr

namespace FilePath

/-- What a path starts from: exactly two slashes stand for themselves, more are one. -/
def rootOf : List Char → String
  | '/' :: '/' :: '/' :: _ => "/"
  | '/' :: '/' :: _ => "//"
  | '/' :: _ => "/"
  | _ => ""

/-- Reads a path. -/
def ofText (s : String) : FilePath where
  root := rootOf s.toList
  parts := ((Text.splitAt (· == '/') s.toList).map String.ofList).filter fun part =>
    part != "" && part != "."

variable (p : FilePath)

/-- Writes a path; the working directory is a dot. -/
def text : String :=
  if p.root = "" ∧ p.parts = [] then "."
  else p.root ++ "/".intercalate p.parts

/-- The directory that a path lies in. -/
def parent : FilePath := { p with parts := p.parts.dropLast }

/-- The path with one more name. -/
def child (name : String) : FilePath := { p with parts := p.parts ++ [name] }

/-- Whether a path lies somewhere below another. -/
def isBelow (q : FilePath) : Bool :=
  p.root == q.root && q.parts.length < p.parts.length && p.parts.take q.parts.length == q.parts

/-! ### Ways without detours -/

/-- Where a way starts: the working directory, or the root of the file system. -/
def start : FilePath := { root := if p.root = "" then "" else "/" }

/-- The place that one more name leads to; double dots lead back, and nowhere from the root. -/
def step (name : String) : FilePath :=
  if name ≠ ".." then p.child name
  else
    match p.parts.getLast? with
    | none => if p.root = "" then p.child ".." else p
    | some ".." => p.child ".."
    | some _ => p.parent

/-- The path without detours. -/
def settled : FilePath := p.parts.foldl step p.start

/-- The directories on the way to a path, without detours. -/
def onTheWay : List FilePath :=
  (List.range p.parts.length).map fun n => { p with parts := p.parts.take n }.settled

end FilePath

end CrudPlan

/-!
# Path names

A path name is a root and a list of components. Written as text, components are separated by
slashes; empty components and `.` components say nothing and are dropped, while `..` is kept,
since what it names depends on the directories that exist. The root is empty for a relative
name, `/` for an absolute one, and `//` when the text starts with exactly two slashes (a root
that POSIX leaves to the system).

A name with no root and no component is the current directory, written `.`. Joining a name
to an absolute one gives the absolute one; otherwise the components are appended.
-/

namespace EngineFit

/-- A path name: its root and its components. -/
structure PathName where
  root : String := ""
  parts : List String := []
deriving DecidableEq, Repr, Inhabited

namespace PathName

/-- Reads a path name from its text. -/
def ofString (s : String) : PathName :=
  let cs := s.toList
  let root :=
    match cs with
    | '/' :: '/' :: '/' :: _ => "/"
    | '/' :: '/' :: _ => "//"
    | '/' :: _ => "/"
    | _ => ""
  { root, parts := ((cs.splitOn '/').map String.ofList).filter fun p => p != "" && p != "." }

/-- The text of a path name. -/
def toText (p : PathName) : String :=
  if p.root.isEmpty && p.parts.isEmpty then "." else p.root ++ "/".intercalate p.parts

/-- Whether a path name is absolute. -/
def isAbsolute (p : PathName) : Bool := !p.root.isEmpty

/-- Joins a path name to another: the second when it is absolute, else the components of both. -/
def join (p q : PathName) : PathName :=
  if q.isAbsolute then q else { p with parts := p.parts ++ q.parts }

/-- Appends one component given as text, which may itself hold slashes. -/
def child (p : PathName) (s : String) : PathName := p.join (ofString s)

/-- Appends one component, taken as it is. -/
def push (p : PathName) (c : String) : PathName := { p with parts := p.parts ++ [c] }

/-- The last component, or the empty text when there is none. -/
def name (p : PathName) : String := p.parts.getLast?.getD ""

/-- The name without its last component; a name without components is its own parent. -/
def parent (p : PathName) : PathName := { p with parts := p.parts.dropLast }

end PathName

end EngineFit

import TraceLog.Text.Split

/-!
# File Paths

A path is a root and a list of parts. Reading a path drops empty parts and the part `.`,
so that `a//b/./c/` and `a/b/c` are one path; the part `..` is kept. Two slashes at the
front are a root of their own, three or more are the same as one.

## Main definitions

* `FilePath.ofText`, `FilePath.toText`: reading and writing a path.
* `FilePath.absolute`: a path from a working directory, each `..` taking away the part
  before it.
* `FilePath.lastPart`, `FilePath.stem`: the last part of a path, with its last extension and
  without it.
-/

namespace TraceLog

/-- A path: its root, one of nothing, `/` and `//`, and its parts. -/
structure FilePath where
  root : String
  parts : List String
  deriving DecidableEq, Repr, Inhabited

namespace FilePath

/-- The root of a path text. -/
def rootOf : List Char → String
  | '/' :: '/' :: '/' :: _ => "/"
  | '/' :: '/' :: _ => "//"
  | '/' :: _ => "/"
  | _ => ""

/-- The path that a text writes. -/
def ofText (s : String) : FilePath where
  root := rootOf s.toList
  parts := ((Text.splitOn '/' s.toList).filter fun part => part ≠ [] ∧ part ≠ ['.']).map
    String.ofList

/-- The text of a path; a point when it has neither root nor parts. -/
def toText (p : FilePath) : String :=
  if p.root = "" ∧ p.parts = [] then "." else p.root ++ String.intercalate "/" p.parts

/-- Whether a zero character stands in a path. No file can have such a name. -/
def holdsZero (p : FilePath) : Bool :=
  p.parts.any fun part => part.toList.contains '\x00'

/-- Walks `parts` from a directory given by the reversed list of its parts; `..` goes back
by one, and stays at the top. -/
def walk (reversed : List String) : List String → List String
  | [] => reversed.reverse
  | part :: parts =>
    if part = ".." then walk (reversed.drop 1) parts else walk (part :: reversed) parts

/-- The path from the top that `p` means in the working directory `base`. -/
def absolute (p base : FilePath) : FilePath :=
  if p.root = "" then ⟨base.root, walk base.parts.reverse p.parts⟩
  else ⟨p.root, walk [] p.parts⟩

/-- A name without its last extension. Points at the front of the name begin no extension. -/
def withoutExtension (name : List Char) : List Char :=
  let front := name.takeWhile (· == '.')
  let body := name.dropWhile (· == '.')
  if body.contains '.' then
    front ++ ((body.reverse.dropWhile (· != '.')).drop 1).reverse
  else name

/-- The last part of a path text, as it is written. -/
def lastPart (s : String) : String :=
  String.ofList ((Text.splitOn '/' s.toList).getLast?.getD [])

/-- The last part of a path text, as it is written, without its last extension. -/
def stem (s : String) : String :=
  String.ofList (withoutExtension (lastPart s).toList)

example : (ofText "a//b/./c/").toText = "a/b/c" ∧ (ofText "").toText = "." ∧
    (ofText "///x").toText = "/x" ∧ stem "lib/sim.tar.gz" = "sim.tar" := by cbv

end FilePath

end TraceLog

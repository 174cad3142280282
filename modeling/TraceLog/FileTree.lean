import TraceLog.FilePath
import TraceLog.Table

/-!
# File Trees

The files and directories that a run can see. A place in the tree is the list of names that
lead to it from the top. Opening a file for writing empties it, or makes it when its
directory is there; it fails on the first name on the way that stops it. A path that is too
long as a whole is not even looked up.

Writing goes on from an offset that the writer keeps. Two writers of one file overwrite each
other, and an offset beyond the end is reached over zero bytes.

## Main definitions

* `FileTree`: directories, and files with their content.
* `FileTree.openEmpty`, `FileTree.readFrom`: opening a file for writing and for reading.
* `FileTree.writeAt`: writing from an offset.
-/

namespace TraceLog

/-- A place in a file tree. -/
abbrev Place : Type := List String

/-- Why a file does not open. -/
inductive FileFault where
  | missing
  | isDirectory
  | notDirectory
  | nameTooLong
  deriving DecidableEq, Repr

namespace FileFault

/-- The system's text for a fault. -/
def message : FileFault → String
  | .missing => "No such file or directory"
  | .isDirectory => "Is a directory"
  | .notDirectory => "Not a directory"
  | .nameTooLong => "File name too long"

/-- The system's number for a fault. -/
def number : FileFault → Nat
  | .missing => 2
  | .isDirectory => 21
  | .notDirectory => 20
  | .nameTooLong => 36

/-- The title under which a fault is reported by itself. -/
def title : FileFault → String
  | .missing => "FileNotFoundError"
  | .isDirectory => "IsADirectoryError"
  | .notDirectory => "NotADirectoryError"
  | .nameTooLong => "OSError"

end FileFault

/-- Directories and files. The top is a directory always. -/
structure FileTree where
  directories : List Place := []
  files : Table Place (List UInt8) := []
  deriving DecidableEq, Repr, Inhabited

namespace FileTree

/-- Whether a place is a directory. -/
def isDirectory (tree : FileTree) (place : Place) : Bool :=
  place == [] || tree.directories.contains place

/-- The content of a file. -/
def content? (tree : FileTree) (place : Place) : Option (List UInt8) :=
  tree.files.find? place

/-- The tree with a directory and all directories on the way to it. -/
def addDirectory (tree : FileTree) (place : Place) : FileTree :=
  { tree with
    directories := tree.directories ++ (List.range (place.length + 1)).map (place.take ·) }

/-- The tree with a file of this content. -/
def putFile (tree : FileTree) (place : Place) (content : List UInt8) : FileTree :=
  { tree with files := tree.files.put place content }

/-- The least number of bytes that makes a path too long. -/
def pathLimit : Nat := 4096

/-- The number of bytes of the path from the top to a place. -/
def pathLength (place : Place) : Nat :=
  place.foldl (fun length name => length + name.utf8ByteSize + 1) 0

/-- What stops the way from the directory `reached` along `names`, the last of which may be
anything. -/
def obstacle? (tree : FileTree) (reached : Place) : List String → Option FileFault
  | [] => none
  | name :: names =>
    if 255 < name.utf8ByteSize then some .nameTooLong
    else if names.isEmpty then none
    else
      let next := reached ++ [name]
      if tree.isDirectory next then tree.obstacle? next names
      else if (tree.content? next).isSome then some .notDirectory
      else some .missing

/-- What stops a file from being opened for writing. -/
def fault? (tree : FileTree) (place : Place) : Option FileFault :=
  if pathLimit ≤ pathLength place then some .nameTooLong
  else (tree.obstacle? [] place).or (if tree.isDirectory place then some .isDirectory else none)

/-- The tree after opening a file for writing: the file is there and empty. -/
def openEmpty (tree : FileTree) (place : Place) : Except FileFault FileTree :=
  match tree.fault? place with
  | some fault => .error fault
  | none => .ok (tree.putFile place [])

/-- The place that a way from the directory `reached` leads to; `..` goes back to the directory
before. All but the last name have to be directories. -/
def resolve (tree : FileTree) (reached : Place) : List String → Except FileFault Place
  | [] => .ok reached
  | name :: names =>
    if name = ".." then tree.resolve reached.dropLast names
    else if 255 < name.utf8ByteSize then .error .nameTooLong
    else
      let next := reached ++ [name]
      if tree.isDirectory next then tree.resolve next names
      else if names = [] then .ok next
      else if (tree.content? next).isSome then .error .notDirectory
      else .error .missing

/-- The place that a path text leads to from a working directory. -/
def locate (tree : FileTree) (directory : FilePath) (text : String) : Except FileFault Place :=
  let path := FilePath.ofText text
  if text = "" then .error .missing
  else if pathLimit ≤ text.utf8ByteSize then .error .nameTooLong
  else tree.resolve (if path.root = "" then directory.parts else []) path.parts

/-- The place of a file that is opened for reading. -/
def readFrom (tree : FileTree) (directory : FilePath) (path : String) :
    Except FileFault Place := do
  let place ← tree.locate directory path
  if tree.isDirectory place then throw .isDirectory
  if (tree.content? place).isNone then throw .missing
  return place

/-- The content with `bytes` written over it from `offset` on. -/
def overwrite (content : List UInt8) (offset : Nat) (bytes : List UInt8) : List UInt8 :=
  content.take offset ++ List.replicate (offset - content.length) 0 ++ bytes ++
    content.drop (offset + bytes.length)

/-- The tree with `bytes` written to a file from `offset` on. -/
def writeAt (tree : FileTree) (place : Place) (offset : Nat) (bytes : List UInt8) : FileTree :=
  tree.putFile place (overwrite ((tree.content? place).getD []) offset bytes)

/-- Writing at the end appends. -/
theorem overwrite_length (content bytes : List UInt8) :
    overwrite content content.length bytes = content ++ bytes := by
  simp [overwrite]

/-- A file that opens is there and empty. -/
theorem content?_openEmpty {tree tree' : FileTree} {place : Place}
    (h : tree.openEmpty place = .ok tree') : tree'.content? place = some [] := by
  unfold openEmpty at h
  split at h
  · simp at h
  · obtain rfl := Except.ok.inj h
    simp [content?, putFile]

/-- Opening a file leaves every other file as it is. -/
theorem content?_openEmpty_of_ne {tree tree' : FileTree} {place other : Place}
    (h : tree.openEmpty place = .ok tree') (hne : other ≠ place) :
    tree'.content? other = tree.content? other := by
  unfold openEmpty at h
  split at h
  · simp at h
  · obtain rfl := Except.ok.inj h
    simp [content?, putFile, Table.find?_put_of_ne hne]

end FileTree

end TraceLog
